import ClientGen.Proofs.Words
import Mathlib.Data.List.Induction

/-!
# The splitter

A symbol is split from left to right, with a look at the characters around each capital.  A look
back is made in the middle of a word only, so it meets the last character of that word: it never
leaves the text and never goes across a separator.  A word alone is read as it was read in the
symbol, for the only character that may be missing there is the one after its end.

* `Naming.WordLoop`, `Naming.wordsByPlace?` — the splitter as a loop over the places of a text, which
  fails if it looks back from the first place; `Naming.wordsByPlace?_eq` says that it never does.
* `Naming.Unbroken`, `Naming.IsWord` — the texts that are one word (`Naming.words_eq_singleton_iff`);
  every word of a symbol is one (`Naming.isWord_of_mem_words`).
* `Naming.words_append_separator`, `Naming.words_intercalate` — the words on both sides of a
  separator, and those of joined words.
* `Naming.splitWords_exact` — all of it on strings.
-/

namespace ClientGen

open Text

namespace Naming

/-! ## Reading one character -/

theorem isUpper_of_startsWord {previous c : Char} {next : Option Char}
    (h : startsWord previous c next = true) : isUpper c = true := by
  simp only [startsWord, Bool.and_eq_true] at h
  exact h.1

/-- A letter or a digit in the middle of a word starts the next one or goes on with it. -/
theorem wordsAfter_cons_inside {c : Char} (hc : isAlphanumeric c = true) (previous : Char)
    (before rest : List Char) :
    wordsAfter (previous :: before) (c :: rest)
      = if startsWord previous c rest.head? then
          (previous :: before).reverse :: wordsAfter [c] rest
        else wordsAfter (c :: previous :: before) rest := by
  rw [wordsAfter, if_pos hc]

/-- A separator ends the word before it. -/
theorem wordsAfter_cons_separator {c : Char} (hc : isAlphanumeric c ≠ true)
    (current rest : List Char) : wordsAfter current (c :: rest) = finish current (words rest) := by
  cases current <;> simp [wordsAfter, hc, words]

/-! ## The loop over places -/

/-- What the loop keeps from place to place: the words it has pushed and the word it is reading. -/
structure WordLoop where
  pushed : List Word := []
  current : Word := []
deriving DecidableEq, Repr

/-- The character in the place before; the first place has none. -/
def before? (text : List Char) : Nat → Option Char
  | 0 => none
  | place + 1 => text[place]?

namespace WordLoop

/-- Pushes the word that is being read, unless it is empty. -/
def push (l : WordLoop) : WordLoop :=
  if l.current.isEmpty then l else { pushed := l.pushed ++ [l.current] }

/-- Goes on with the word that is being read. -/
def extend (l : WordLoop) (c : Char) : WordLoop :=
  { l with current := l.current ++ [c] }

/-- One turn of the loop, at the character `c` in a place of the text.  It fails if it looks back and
there is nothing. -/
def turn? (text : List Char) (l : WordLoop) (c : Char) (place : Nat) : Option WordLoop :=
  if isAlphanumeric c then
    if isUpper c && !l.current.isEmpty then
      (before? text place).map fun previous =>
        (if startsWord previous c text[place + 1]? then l.push else l).extend c
    else some (l.extend c)
  else some l.push

end WordLoop

/-- In the middle of a word the first place is one too many. -/
example : ({ current := ['h'] } : WordLoop).turn? ['T'] 'T' 0 = none := by decide +kernel

/-- The words of a text by the loop over its places. -/
def wordsByPlace? (text : List Char) : Option (List Word) :=
  (text.zipIdx.foldlM (fun (l : WordLoop) entry => l.turn? text entry.1 entry.2) {}).map
    fun l => l.push.pushed

/-- Behind some text stands its last character. -/
theorem before?_length (front rest : List Char) :
    before? (front ++ rest) front.length = front.getLast? := by
  induction front using List.reverseRecOn with
  | nil => rfl
  | append_singleton front c _ => simp [before?]

namespace WordLoop

variable {l : WordLoop}

theorem push_of_ne_nil (h : l.current ≠ []) :
    l.push = { pushed := l.pushed ++ [l.current] } := by
  simp [push, h]

theorem current_push (l : WordLoop) : l.push.current = [] := by
  by_cases h : l.current = []
  · simp [push, h]
  · simp [push, h]

/-- What is pushed at the end of a word is what the splitter puts before the other words. -/
theorem pushed_push_append (l : WordLoop) (others : List Word) :
    l.push.pushed ++ others = l.pushed ++ finish l.current.reverse others := by
  by_cases h : l.current = []
  · simp [push, finish, h]
  · simp [push, finish, h]

/-- In the middle of a word the loop does not fail if there is a character before. -/
theorem turn?_inside {text : List Char} {c previous : Char} {place : Nat}
    (hc : isAlphanumeric c = true) (hcurrent : l.current ≠ [])
    (hprevious : before? text place = some previous) :
    l.turn? text c place
      = some ((if startsWord previous c text[place + 1]? then l.push else l).extend c) := by
  by_cases hupper : isUpper c = true
  · simp [turn?, hc, hupper, hcurrent, hprevious]
  · have hstarts : startsWord previous c text[place + 1]? = false :=
      Bool.eq_false_iff.2 fun h => hupper (isUpper_of_startsWord h)
    simp [turn?, hc, hupper, hstarts]

/-- **One turn.**  As long as the word being read is what the text before the place ends with, the
turn does not fail, keeps it so, and finds what the splitter finds. -/
theorem turn?_eq (front rest : List Char) (c : Char) (h : l.current <:+ front) :
    ∃ l', l.turn? (front ++ c :: rest) c front.length = some l' ∧ l'.current <:+ front ++ [c] ∧
      l'.pushed ++ wordsAfter l'.current.reverse rest
        = l.pushed ++ wordsAfter l.current.reverse (c :: rest) := by
  by_cases hc : isAlphanumeric c = true
  · by_cases hcurrent : l.current = []
    · -- a word begins
      refine ⟨l.extend c, ?_, ?_, ?_⟩
      · simp [turn?, hc, hcurrent]
      · simp [extend, hcurrent]
      · simp [extend, hcurrent, wordsAfter, hc]
    · -- the character before is the last of the word being read
      obtain ⟨read, previous, hword⟩ := (List.eq_nil_or_concat l.current).resolve_left hcurrent
      obtain ⟨start, hfront⟩ := h
      have hprevious : before? (front ++ c :: rest) front.length = some previous := by
        rw [before?_length, ← hfront, hword, List.concat_eq_append, ← List.append_assoc,
          List.getLast?_append, List.getLast?_singleton, Option.some_or]
      have hnext : (front ++ c :: rest)[front.length + 1]? = rest.head? := by
        simp [List.getElem?_append_right, List.head?_eq_getElem?]
      have hreverse : l.current.reverse = previous :: read.reverse := by simp [hword]
      refine ⟨_, turn?_inside hc hcurrent hprevious, ?_⟩
      rw [hnext, hreverse, wordsAfter_cons_inside hc]
      split
      · refine ⟨by simp [extend, current_push], ?_⟩
        simp [push_of_ne_nil hcurrent, extend, hword]
      · refine ⟨⟨start, by rw [extend, ← List.append_assoc, hfront]⟩, ?_⟩
        simp [extend, hreverse]
  · -- a separator
    refine ⟨l.push, ?_, ?_, ?_⟩
    · simp [turn?, hc]
    · rw [current_push]
      exact List.nil_suffix
    · rw [current_push, pushed_push_append, wordsAfter_cons_separator hc]
      rfl

/-- **A run.**  The loop goes on to the end of the text and finds the words that the splitter finds. -/
theorem foldlM_turn? (front rest : List Char) (h : l.current <:+ front) :
    ((rest.zipIdx front.length).foldlM
        (fun (l : WordLoop) entry => l.turn? (front ++ rest) entry.1 entry.2) l).map
          (fun l => l.push.pushed)
      = some (l.pushed ++ wordsAfter l.current.reverse rest) := by
  induction rest generalizing front l with
  | nil =>
      have hend := l.pushed_push_append []
      rw [List.append_nil] at hend
      simp [wordsAfter, hend]
  | cons c rest ih =>
      obtain ⟨l', hturn, hcurrent, hwords⟩ := turn?_eq front rest c h
      have hrest := ih (front ++ [c]) hcurrent
      rw [List.append_assoc, List.singleton_append, List.length_append, List.length_singleton,
        hwords] at hrest
      rw [List.zipIdx_cons, List.foldlM_cons, hturn]
      exact hrest

end WordLoop

/-- **The loop never looks back from the first place,** and its words are those of the symbol. -/
theorem wordsByPlace?_eq (symbol : List Char) : wordsByPlace? symbol = some (words symbol) :=
  WordLoop.foldlM_turn? [] symbol (List.suffix_refl [])

/-! ## Words alone -/

/-- No capital of a text, read backwards, starts a new word there; `next` comes after the text. -/
def Unbroken : (text : List Char) → (next : Option Char) → Prop
  | c :: previous :: before, next =>
      startsWord previous c next = false ∧ Unbroken (previous :: before) (some c)
  | _, _ => True

/-- A text that is a word as it stands. -/
structure IsWord (w : Word) : Prop where
  ne_nil : w ≠ []
  isAlphanumeric : ∀ c ∈ w, isAlphanumeric c = true
  unbroken : Unbroken w.reverse none

/-- A capital that starts a word where the text ends starts one before any character. -/
theorem startsWord_none {previous c : Char} {next : Option Char}
    (h : startsWord previous c next = false) : startsWord previous c none = false := by
  cases hstarts : startsWord previous c none with
  | false => rfl
  | true =>
      have hnext : startsWord previous c next = true := by
        simp only [startsWord, Option.any_none, Bool.and_false, Bool.or_false, Bool.and_eq_true]
          at hstarts
        simp [startsWord, hstarts.1, hstarts.2]
      rw [hnext] at h
      cases h

theorem Unbroken.at_end {text : List Char} {next : Option Char} (h : Unbroken text next) :
    Unbroken text none := by
  match text, h with
  | [], _ => trivial
  | [_], _ => trivial
  | _ :: _ :: _, ⟨hstarts, hbefore⟩ => exact ⟨startsWord_none hstarts, hbefore⟩

/-- The part of an unbroken text before some of its last characters. -/
theorem Unbroken.of_append {after text : List Char} (h : Unbroken (after ++ text) none) :
    Unbroken text after.getLast? := by
  induction after using List.reverseRecOn generalizing text with
  | nil => exact h
  | append_singleton after c ih =>
      rw [List.append_assoc, List.singleton_append] at h
      have hc := ih h
      rw [List.getLast?_append, List.getLast?_singleton, Option.some_or]
      match text, hc with
      | [], _ => trivial
      | _ :: _, ⟨_, hbefore⟩ => exact hbefore

theorem unbroken_of_not_isUpper {text : List Char} (h : ∀ c ∈ text, isUpper c = false)
    (next : Option Char) : Unbroken text next := by
  induction text generalizing next with
  | nil => trivial
  | cons c text ih =>
      cases text with
      | nil => trivial
      | cons previous before =>
          refine ⟨?_, ih (fun x hx => h x (List.mem_cons_of_mem _ hx)) (some c)⟩
          simp [startsWord, h c (List.mem_cons_self ..)]

theorem unbroken_of_mem_finish {current : List Char} {others : List Word} {next : Option Char}
    (hcurrent : Unbroken current next) (hothers : ∀ w ∈ others, Unbroken w.reverse none) :
    ∀ w ∈ finish current others, Unbroken w.reverse none := by
  intro w hw
  cases current with
  | nil => exact hothers w hw
  | cons c before =>
      rcases List.mem_cons.1 hw with rfl | hw
      · rw [List.reverse_reverse]
        exact hcurrent.at_end
      · exact hothers w hw

theorem unbroken_of_mem_wordsAfter {current cs : List Char} (h : Unbroken current cs.head?) :
    ∀ w ∈ wordsAfter current cs, Unbroken w.reverse none := by
  fun_induction wordsAfter current cs with
  | case1 current => exact unbroken_of_mem_finish h (List.forall_mem_nil _)
  | case2 c rest hc ih => exact ih trivial
  | case3 c rest hc previous before hstarts ih =>
      refine List.forall_mem_cons.2 ⟨?_, ih trivial⟩
      rw [List.reverse_reverse]
      exact h.at_end
  | case4 c rest hc previous before hstarts ih =>
      exact ih ⟨Bool.eq_false_iff.2 hstarts, h⟩
  | case5 current c rest hc ih => exact unbroken_of_mem_finish h (ih trivial)

/-- Every word of a symbol is a word alone. -/
theorem isWord_of_mem_words {symbol : List Char} {w : Word} (h : w ∈ words symbol) : IsWord w where
  ne_nil := ne_nil_of_mem_words h
  isAlphanumeric := fun _ hc => isAlphanumeric_of_mem_words h hc
  unbroken := by
    have hempty : Unbroken [] symbol.head? := trivial
    exact unbroken_of_mem_wordsAfter hempty w h

/-- Reading goes on to the end of a text that is unbroken. -/
theorem wordsAfter_of_unbroken {previous : Char} {before rest : List Char}
    (halphanumeric : ∀ c ∈ rest, isAlphanumeric c = true)
    (h : Unbroken (rest.reverse ++ previous :: before) none) :
    wordsAfter (previous :: before) rest = [(previous :: before).reverse ++ rest] := by
  induction rest generalizing previous before with
  | nil => simp [wordsAfter, finish]
  | cons c rest ih =>
      rw [List.reverse_cons, List.append_assoc, List.singleton_append] at h
      have hstarts := h.of_append.1
      rw [List.getLast?_reverse] at hstarts
      rw [wordsAfter_cons_inside (halphanumeric c (List.mem_cons_self ..)), hstarts,
        if_neg Bool.false_ne_true, ih (fun x hx => halphanumeric x (List.mem_cons_of_mem _ hx)) h]
      simp

/-- **A word alone is its only word.** -/
theorem words_of_isWord {w : Word} (h : IsWord w) : words w = [w] := by
  obtain ⟨c, rest, rfl⟩ := List.exists_cons_of_ne_nil h.ne_nil
  obtain ⟨hc, hrest⟩ := List.forall_mem_cons.1 h.isAlphanumeric
  have hunbroken := h.unbroken
  rw [List.reverse_cons] at hunbroken
  rw [words, wordsAfter, if_pos hc, wordsAfter_of_unbroken hrest hunbroken]
  rfl

/-- The texts that are their only word. -/
theorem words_eq_singleton_iff {w : Word} : words w = [w] ↔ IsWord w := by
  constructor
  · intro h
    exact isWord_of_mem_words (h ▸ List.mem_singleton_self w : w ∈ words w)
  · exact words_of_isWord

/-! ## Separators -/

theorem finish_append (current : List Char) (ws others : List Word) :
    finish current (ws ++ others) = finish current ws ++ others := by
  cases current <;> rfl

/-- What is behind a separator has no say in where words start before it. -/
theorem startsWord_append_separator {x : Char} (hx : isLower x = false) (previous c : Char)
    (cs rest : List Char) :
    startsWord previous c (cs ++ x :: rest).head? = startsWord previous c cs.head? := by
  cases cs with
  | nil => simp [startsWord, hx]
  | cons _ _ => rfl

theorem wordsAfter_append_separator {x : Char} (hseparator : isAlphanumeric x = false)
    (hlower : isLower x = false) (current cs rest : List Char) :
    wordsAfter current (cs ++ x :: rest) = wordsAfter current cs ++ words rest := by
  fun_induction wordsAfter current cs with
  | case1 current =>
      rw [List.nil_append, wordsAfter_cons_separator (Bool.eq_false_iff.1 hseparator),
        ← finish_append, List.nil_append]
  | case2 c cs hc ih => rw [List.cons_append, wordsAfter, if_pos hc, ih]
  | case3 c cs hc previous before hstarts ih =>
      rw [List.cons_append, wordsAfter_cons_inside hc, startsWord_append_separator hlower,
        if_pos hstarts, ih, List.cons_append]
  | case4 c cs hc previous before hstarts ih =>
      rw [List.cons_append, wordsAfter_cons_inside hc, startsWord_append_separator hlower,
        if_neg hstarts, ih]
  | case5 current c cs hc ih =>
      rw [List.cons_append, wordsAfter_cons_separator hc, words, ih, finish_append]

/-- **A separator parts the words before it from those behind it.** -/
theorem words_append_separator {x : Char} (hseparator : isAlphanumeric x = false)
    (hlower : isLower x = false) (cs rest : List Char) :
    words (cs ++ x :: rest) = words cs ++ words rest :=
  wordsAfter_append_separator hseparator hlower [] cs rest

/-- Words joined by underscores are found again. -/
theorem words_intercalate {ws : List Word} (h : ∀ w ∈ ws, IsWord w) :
    words (['_'].intercalate ws) = ws := by
  induction ws with
  | nil => rfl
  | cons w ws ih =>
      obtain ⟨hw, hws⟩ := List.forall_mem_cons.1 h
      cases ws with
      | nil => rw [List.intercalate_singleton, words_of_isWord hw]
      | cons w' ws =>
          rw [List.intercalate_cons_cons, List.append_assoc, List.singleton_append,
            words_append_separator (by decide) (by decide), words_of_isWord hw, ih hws,
            List.singleton_append]

/-! ## On strings -/

/-- **The splitter loses, doubles and invents nothing.**  For every symbol the loop over its places
comes to its end, so it never looks back from the first place, and gives the words of the symbol.
One after the other they are the letters and digits of the symbol, none is empty or has a
separator, and none can be split further. -/
theorem splitWords_exact (symbol : String) :
    wordsByPlace? symbol.toList = some ((splitWords symbol).map String.toList) ∧
    String.join (splitWords symbol) = String.ofList (symbol.toList.filter isAlphanumeric) ∧
    ∀ word ∈ splitWords symbol,
      word ≠ "" ∧ (∀ c ∈ word.toList, isAlphanumeric c = true) ∧ splitWords word = [word] := by
  have htoList : (splitWords symbol).map String.toList = words symbol.toList := by
    simp [splitWords, Function.comp_def]
  refine ⟨?_, ?_, ?_⟩
  · rw [htoList, wordsByPlace?_eq]
  · rw [← String.toList_inj, String.toList_join, List.flatMap_def, htoList, String.toList_ofList, flatten_words]
  · intro word hword
    obtain ⟨w, hw, rfl⟩ := List.mem_map.1 hword
    have hone := isWord_of_mem_words hw
    refine ⟨?_, ?_, ?_⟩
    · rw [ne_eq, String.ofList_eq_empty_iff]
      exact hone.ne_nil
    · rw [String.toList_ofList]
      exact hone.isAlphanumeric
    · rw [splitWords, String.toList_ofList, words_of_isWord hone, List.map_singleton]

end Naming

end ClientGen
