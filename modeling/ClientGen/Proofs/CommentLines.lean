import ClientGen.Codec.Go
import ClientGen.Proofs.PathNames
import ClientGen.Schema.Documentation
import Mathlib.Data.List.DropRight

/-!
# Comments, line by line

A comment is trimmed as a whole: one space at the start, one after each line feed, and a line feed
at the end.  Only then it is split into lines and written out.  To a reader each line loses one
space, and the line that a last line feed opens is no line.  This file says that both are the same.

* `splitOn_dropSpaceAfterBreak`, `splitOn_dropLast` — what trimming does to the pieces between line
  feeds.
* `splitOn_commentText` — the lines of a trimmed comment.
* `GoCodec.commentLines_trimComment` — what is written for a comment.
-/

namespace ClientGen

/-! ## Pieces of a text -/

section Pieces

variable {α : Type} [DecidableEq α] {separator a : α}

/-- What is added at the end goes to the last piece. -/
theorem exists_splitOn_concat (h : a ≠ separator) (l : List α) :
    ∃ front last, l.splitOn separator = front ++ [last] ∧
      (l ++ [a]).splitOn separator = front ++ [last ++ [a]] := by
  induction l with
  | nil => exact ⟨[], [], rfl, by simp [splitOn_cons, h]⟩
  | cons b l ih =>
      obtain ⟨front, last, hl, hla⟩ := ih
      rw [List.cons_append, splitOn_cons, splitOn_cons, hl, hla]
      split
      · exact ⟨[] :: front, last, rfl, rfl⟩
      · cases front with
        | nil => exact ⟨[], b :: last, rfl, rfl⟩
        | cons piece front => exact ⟨(b :: piece) :: front, last, rfl, rfl⟩

end Pieces

/-! ## One space at the start -/

/-- A line without the space at its start, if there is one. -/
def dropSpace (line : List Char) : List Char :=
  (Text.dropStart? [' '] line).getD line

@[simp] theorem dropSpace_space (line : List Char) : dropSpace (' ' :: line) = line := rfl

theorem dropSpace_cons_of_ne {c : Char} (h : c ≠ ' ') (line : List Char) :
    dropSpace (c :: line) = c :: line := by
  simp [dropSpace, Text.dropStart?, h.symm]

/-- The first piece of a text begins as the text does. -/
theorem splitOn_dropSpace (cs : List Char) :
    (dropSpace cs).splitOn '\n' = (cs.splitOn '\n').modifyHead dropSpace := by
  cases cs with
  | nil => rfl
  | cons c cs =>
      obtain ⟨first, rest, hsplit⟩ := List.exists_cons_of_ne_nil (List.splitOn_ne_nil '\n' cs)
      by_cases hspace : c = ' '
      · subst hspace
        rw [dropSpace_space, splitOn_cons, if_neg (by decide), hsplit]
        rfl
      · rw [dropSpace_cons_of_ne hspace, splitOn_cons]
        split
        · rfl
        · rw [hsplit, List.modifyHead_cons, List.modifyHead_cons, dropSpace_cons_of_ne hspace]

/-- Every piece but the first loses the space that follows its line feed. -/
theorem splitOn_dropSpaceAfterBreak (cs : List Char) :
    ∃ first rest, cs.splitOn '\n' = first :: rest ∧
      (dropSpaceAfterBreak cs).splitOn '\n' = first :: rest.map dropSpace := by
  fun_induction dropSpaceAfterBreak cs with
  | case1 => exact ⟨[], [], rfl, rfl⟩
  | case2 cs ih =>
      obtain ⟨first, rest, hcs, hdropped⟩ := ih
      refine ⟨[], (' ' :: first) :: rest, ?_, ?_⟩
      · rw [splitOn_cons, if_pos rfl, splitOn_cons, if_neg (by decide), hcs]
        rfl
      · rw [splitOn_cons, if_pos rfl, hdropped, List.map_cons, dropSpace_space]
  | case3 c cs hnone ih =>
      obtain ⟨first, rest, hcs, hdropped⟩ := ih
      rw [splitOn_cons, splitOn_cons, hcs, hdropped]
      split
      · rename_i hbreak
        have hcs' : dropSpace cs = cs := by
          cases cs with
          | nil => rfl
          | cons d cs => exact dropSpace_cons_of_ne (fun hd => hnone cs hbreak (by rw [hd])) cs
        have hfirst := splitOn_dropSpace cs
        rw [hcs', hcs, List.modifyHead_cons, List.cons.injEq] at hfirst
        exact ⟨[], first :: rest, rfl, by rw [List.map_cons, ← hfirst.1]⟩
      · exact ⟨c :: first, rest, rfl, rfl⟩

/-! ## The line feed at the end -/

/-- The lines without the last one if that is empty and not the only one. -/
def withoutEmptyEnd (lines : List (List Char)) : List (List Char) :=
  if 1 < lines.length ∧ lines.getLast? = some [] then lines.dropLast else lines

theorem withoutEmptyEnd_concat (front : List (List Char)) (last : List Char) :
    withoutEmptyEnd (front ++ [last])
      = if front ≠ [] ∧ last = [] then front else front ++ [last] := by
  simp [withoutEmptyEnd, List.length_pos_iff]

theorem dropLast_concat (c a : Char) (cs : List Char) :
    dropLast c (cs ++ [a]) = if c = a then cs else cs ++ [a] := by
  by_cases h : c = a
  · simp [dropLast, Text.dropEnd?, Text.dropStart?, h]
  · simp [dropLast, Text.dropEnd?, Text.dropStart?, h]

/-- The line feed at the end of a text is what an empty last piece stands for. -/
theorem splitOn_dropLast (cs : List Char) :
    (dropLast '\n' cs).splitOn '\n' = withoutEmptyEnd (cs.splitOn '\n') := by
  rcases List.eq_nil_or_concat' cs with rfl | ⟨front, a, rfl⟩
  · rfl
  rw [dropLast_concat]
  split
  · rename_i hbreak
    subst hbreak
    have hsplit : (front ++ ['\n']).splitOn '\n' = front.splitOn '\n' ++ [[]] :=
      List.splitOnP_append_cons front [] (beq_self_eq_true '\n')
    rw [hsplit, withoutEmptyEnd_concat, if_pos ⟨List.splitOn_ne_nil _ _, rfl⟩]
  · rename_i hother
    obtain ⟨lines, last, -, hsplit⟩ := exists_splitOn_concat (Ne.symm hother) front
    rw [hsplit, withoutEmptyEnd_concat, if_neg (by simp)]

/-! ## The lines of a comment -/

/-- The lines of a comment as they are read: one for each piece between line feeds, without the
space at its start, but none for an empty end. -/
def linesOfComment (comment : List Char) : List (List Char) :=
  withoutEmptyEnd ((comment.splitOn '\n').map dropSpace)

/-- **Trimming a comment as a whole trims its lines.** -/
theorem splitOn_commentText (comment : List Char) :
    (commentText comment).splitOn '\n' = linesOfComment comment := by
  have hspaces : (dropSpaceAfterBreak (dropSpace comment)).splitOn '\n'
      = (comment.splitOn '\n').map dropSpace := by
    obtain ⟨first, rest, hcomment⟩ :=
      List.exists_cons_of_ne_nil (List.splitOn_ne_nil '\n' comment)
    obtain ⟨first', rest', hfirst, hdropped⟩ := splitOn_dropSpaceAfterBreak (dropSpace comment)
    rw [splitOn_dropSpace, hcomment, List.modifyHead_cons, List.cons.injEq] at hfirst
    rw [hdropped, hcomment, List.map_cons, hfirst.1, hfirst.2]
  rw [linesOfComment, ← hspaces, ← splitOn_dropLast]
  rfl

/-- An empty end is the only line that gets lost. -/
theorem getElem?_withoutEmptyEnd {lines : List (List Char)} {i : Nat} {line : List Char}
    (h : lines[i]? = some line) (hkept : i + 1 < lines.length ∨ lines.length = 1 ∨ line ≠ []) :
    (withoutEmptyEnd lines)[i]? = some line := by
  unfold withoutEmptyEnd
  split
  · rename_i hend
    obtain ⟨hlength, hlast⟩ := hend
    have hi : i + 1 < lines.length := by
      rcases hkept with hi | hone | hline
      · exact hi
      · omega
      · obtain ⟨hlt, -⟩ := List.getElem?_eq_some_iff.1 h
        by_contra hnot
        rw [List.getLast?_eq_getElem?, show lines.length - 1 = i by omega, h] at hlast
        exact hline (Option.some.inj hlast)
    rw [List.getElem?_dropLast, if_pos (by omega), h]
  · exact h

/-! ## Written out -/

/-- What is written for a line: the comment mark, and the line after a space unless it is blank.
White space at the end is left out. -/
def writtenLine (line : List Char) : String :=
  if line.rdropWhile Text.isBlank = [] then "//"
  else "// " ++ String.ofList (line.rdropWhile Text.isBlank)

theorem GoCodec.commentLine_eq (line : List Char) : commentLine line = writtenLine line := by
  simp only [commentLine, List.isEmpty_iff]
  rfl

theorem writtenLine_mark (line : List Char) : ['/', '/'] <+: (writtenLine line).toList := by
  unfold writtenLine
  split
  · exact List.prefix_rfl
  · rw [String.toList_append]
    exact ⟨[' '] ++ (String.ofList (line.rdropWhile Text.isBlank)).toList, rfl⟩

theorem notMem_writtenLine {line : List Char} (h : '\n' ∉ line) :
    '\n' ∉ (writtenLine line).toList := by
  unfold writtenLine
  split
  · decide
  · rw [String.toList_append, List.mem_append, not_or]
    refine ⟨by decide, fun hmem => ?_⟩
    rw [String.toList_ofList] at hmem
    exact h ((List.rdropWhile_prefix _ _).subset hmem)

/-- **A comment is written line by line.**  Each line is written without the first space, in its
place and with the rest of its indentation; a blank line stays as a bare comment mark; an empty end
is left out unless it is all there is. -/
theorem GoCodec.commentLines_trimComment (text : String) :
    commentLines (trimComment text) = (linesOfComment text.toList).map writtenLine ∧
    (∀ line ∈ commentLines (trimComment text),
      ['/', '/'] <+: line.toList ∧ '\n' ∉ line.toList) ∧
    ∀ i line, (text.toList.splitOn '\n')[i]? = some line →
      i + 1 < (text.toList.splitOn '\n').length ∨ (text.toList.splitOn '\n').length = 1 ∨
        dropSpace line ≠ [] →
      (commentLines (trimComment text))[i]? = some (writtenLine (dropSpace line)) := by
  have hlines : commentLines (trimComment text)
      = (linesOfComment text.toList).map writtenLine := by
    rw [commentLines, trimComment, String.toList_ofList, splitOn_commentText]
    exact List.map_congr_left fun line _ => commentLine_eq line
  refine ⟨hlines, fun written hwritten => ?_, fun i line hline hkept => ?_⟩
  · rw [hlines, ← splitOn_commentText] at hwritten
    obtain ⟨line, hline, rfl⟩ := List.mem_map.1 hwritten
    exact ⟨writtenLine_mark line, notMem_writtenLine (notMem_of_mem_splitOn hline)⟩
  · have hpiece : ((text.toList.splitOn '\n').map dropSpace)[i]? = some (dropSpace line) := by
      rw [List.getElem?_map, hline, Option.map_some]
    have hkept' := getElem?_withoutEmptyEnd hpiece (by rwa [List.length_map])
    rw [hlines, List.getElem?_map, linesOfComment, hkept', Option.map_some]

/-- A comment with an indented line, a line of spaces and a line feed at the end. -/
def listComment : String :=
  " Lists books:\n   - by shelf  \n  \n - all\n"

theorem listComment_written :
    GoCodec.commentLines (trimComment listComment)
      = ["// Lists books:", "//   - by shelf", "//", "// - all"] ∧
    (listComment.toList.splitOn '\n')[1]? = some "   - by shelf  ".toList ∧
    1 + 1 < (listComment.toList.splitOn '\n').length ∧
    (GoCodec.commentLines (trimComment listComment))[1]? = some "//   - by shelf" := by
  obtain ⟨hlines, -, hplaces⟩ := GoCodec.commentLines_trimComment listComment
  have hline : (listComment.toList.splitOn '\n')[1]? = some "   - by shelf  ".toList := by decide
  have hinside : 1 + 1 < (listComment.toList.splitOn '\n').length := by decide
  refine ⟨?_, hline, hinside, ?_⟩
  · rw [hlines]
    decide
  · rw [hplaces 1 _ hline (Or.inl hinside)]
    decide

end ClientGen
