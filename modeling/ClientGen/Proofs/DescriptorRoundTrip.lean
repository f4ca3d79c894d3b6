import ClientGen.Proofs.DescriptorReading
import ClientGen.Proofs.DescriptorWriting

/-!
# What is written is read again

A set of descriptors is read from its bytes, as long as its messages lie within the limit.  It is
read from its other encodings too, if the fields in them that are not declared lie within the limit.

* `Wire.decodeDescriptorSet_encodeDescriptorSet` — what is written is read again.
* `Wire.decodeDescriptorSet_of_encodes` — so is what other writers write.
* `Wire.deepSet_unread` — in the innermost message that the limit allows, nothing is skipped.
-/

namespace ClientGen.Wire

/-! ## The bytes of a set -/

/-- **What is written is read again**, if its messages lie within the limit, and if it is no longer
than the format has lengths for. -/
theorem decodeDescriptorSet_encodeDescriptorSet {d : DescriptorSet}
    (hdepth : depthOf (descriptorSetFields d) ≤ depthLimit)
    (hlength : (encodeDescriptorSet d).length < 2 ^ 64) :
    decodeDescriptorSet (encodeDescriptorSet d) = some d :=
  decodes_set depthLimit d _ (encodes_encodeFields (declared_set d) hdepth hlength)

/-- A set with negative integers, with texts and messages that are empty, and with the extensions of
the options. -/
def sparseSet : DescriptorSet where
  files := [{
    name := some "shop.proto"
    package := some ""
    messageTypes := [{
      fields := [{ number := some (-1), oneofIndex := some 0, proto3Optional := some false }]
      nestedTypes := [{}, { name := some "", options := some {} }] }]
    enumTypes := [{ values := [{ number := some (-2147483648) }] }]
    services := [{
      methods := [{ options := some { http := some { pattern := some (.custom "HEAD" "") } } }]
      options := some { defaultHost := some "shop.example.com" } }]
    sourceInfo := some { locations := [{}, { path := [4, -1], leadingComments := some "" }] } }]

theorem sparseSet_read_again : depthOf (descriptorSetFields sparseSet) ≤ depthLimit ∧
    (encodeDescriptorSet sparseSet).length < 2 ^ 64 ∧
    decodeDescriptorSet (encodeDescriptorSet sparseSet) = some sparseSet :=
  have hdepth : depthOf (descriptorSetFields sparseSet) ≤ depthLimit := by decide
  have hlength : (encodeDescriptorSet sparseSet).length < 2 ^ 64 := by decide +kernel
  ⟨hdepth, hlength, decodeDescriptorSet_encodeDescriptorSet hdepth hlength⟩

/-! ## All the encodings of a set -/

/-- **A set is read from all its encodings**, also from those with fields that are not declared, as
long as its messages and these fields lie within the limit. -/
theorem decodeDescriptorSet_of_encodes {d : DescriptorSet} {bytes : List UInt8}
    (h : Encodes depthLimit descriptorSetNumbers (descriptorSetFields d) bytes) :
    decodeDescriptorSet bytes = some d :=
  decodes_set depthLimit d bytes h

theorem rearranged_swap {a b : Nat × Token} (h : a.1 ≠ b.1) : Rearranged [a, b] [b, a] := by
  intro number
  by_cases ha : a.1 = number <;> by_cases hb : b.1 = number <;> simp_all

/-- A set in which an element has a path. -/
def locatedSet : DescriptorSet where
  files := [{ name := some "a", sourceInfo := some { locations := [{ path := [4, -1] }] } }]

/-- The bytes of the element: a group with four bytes, which is not declared, stands before the
path, which is not packed. -/
def locationBytes : List UInt8 :=
  tokenBytes [(2, .openGroup), (1, .fixed32 [1, 2, 3, 4]), (2, .closeGroup), (1, .varint 4),
    (1, .varint (widen (-1)))]

/-- The bytes of the file: its comments, a text that is not declared, and its name. -/
def fileBytes : List UInt8 :=
  tokenBytes [(9, .block (tokenBytes [(1, .block locationBytes)])),
    (12, .block (Text.Utf8.encode "proto3")), (1, .block (Text.Utf8.encode "a"))]

/-- The bytes of the set: the file between an integer and eight bytes that are not declared. -/
def locatedBytes : List UInt8 :=
  tokenBytes [(15, .varint 0), (1, .block fileBytes), (16, .fixed64 [1, 2, 3, 4, 5, 6, 7, 8])]

theorem locatedSet_read :
    Encodes depthLimit descriptorSetNumbers (descriptorSetFields locatedSet) locatedBytes ∧
      decodeDescriptorSet locatedBytes = some locatedSet := by
  have hgroup : SkippedField 97 2 [(2, .openGroup), (1, .fixed32 [1, 2, 3, 4]), (2, .closeGroup)] :=
    .inr ⟨[[(1, .fixed32 [1, 2, 3, 4])]], by simpa using ⟨1, .inl ⟨_, rfl, rfl⟩⟩, rfl⟩
  have hlocation : Encodes 97 locationNumbers [(1, .integers [4, -1])] locationBytes :=
    ⟨_, _, _, .cons .unpacked .nil, fun _ => rfl,
      .skipped (by decide) hgroup (.declared (by decide) (.declared (by decide) .nil)),
      spellsTokens_tokenBytes (by decide)⟩
  have hsourceInfo : Encodes 98 sourceInfoNumbers
      (sourceInfoFields { locations := [{ path := [4, -1] }] })
      (tokenBytes [(1, .block locationBytes)]) :=
    encodes_message (by decide) hlocation (by decide +kernel)
  have hfile : Encodes 99 fileNumbers
      (fileFields { name := some "a", sourceInfo := some { locations := [{ path := [4, -1] }] } })
      fileBytes :=
    ⟨_, _, _, .cons .text (.cons (.message hsourceInfo) .nil), rearranged_swap (by decide),
      .declared (by decide) (.skipped (by decide)
        (.inl ⟨.block (Text.Utf8.encode "proto3"), rfl, rfl⟩) (.declared (by decide) .nil)),
      spellsTokens_tokenBytes (by decide +kernel)⟩
  have hset : Encodes depthLimit descriptorSetNumbers (descriptorSetFields locatedSet)
      locatedBytes :=
    ⟨_, _, _, .cons (.message hfile) .nil, fun _ => rfl,
      .skipped (by decide) (.inl ⟨.varint 0, rfl, rfl⟩) (.declared (by decide)
        (.skipped (by decide) (.inl ⟨.fixed64 [1, 2, 3, 4, 5, 6, 7, 8], rfl, rfl⟩) .nil)),
      spellsTokens_tokenBytes (by decide +kernel)⟩
  exact ⟨hset, decodeDescriptorSet_of_encodes hset⟩

/-! ## The limit -/

/-- A message in which others are nested, so many levels deep. -/
def nestedMessage : (depth : Nat) → MessageDescriptor
  | 0 => {}
  | depth + 1 => { nestedTypes := [nestedMessage depth] }

/-- The bytes of such a message, given those of the innermost. -/
def nestedBytes (innermost : List UInt8) : (depth : Nat) → List UInt8
  | 0 => innermost
  | depth + 1 => tokenBytes [(3, .block (nestedBytes innermost depth))]

/-- A set with messages as deep as the limit allows. -/
def deepSet : DescriptorSet where
  files := [{ messageTypes := [nestedMessage 98] }]

/-- The bytes of the set, given those of the innermost message. -/
def deepBytes (innermost : List UInt8) : List UInt8 :=
  tokenBytes [(1, .block (tokenBytes [(4, .block (nestedBytes innermost 98))]))]

theorem depthOf_nestedMessage (depth : Nat) :
    depthOf (messageFields (nestedMessage depth)) = depth := by
  induction depth with
  | zero => rfl
  | succ depth ih =>
      have hfields : messageFields (nestedMessage (depth + 1))
          = [(3, .message messageNumbers (messageFields (nestedMessage depth)))] := rfl
      rw [hfields, depthOf, depthOf, Content.depth, ih, Nat.max_zero]

section

variable {innermost bytes : List UInt8} {depth limit number : Nat}

theorem length_message_le (hnumber : number < Nat.pow 2 29) (h : bytes.length < 2 ^ 64) :
    (tokenBytes [(number, .block bytes)]).length ≤ bytes.length + 20 := by
  have hkey : (digits (8 * number + 2)).length ≤ 9 + 1 := by
    apply length_digits_le
    have hlt : number < 2 ^ 29 := hnumber
    omega
  have hcount : (digits bytes.length).length ≤ 9 + 1 := by
    apply length_digits_le
    omega
  simp only [tokenBytes, List.flatMap_cons, List.flatMap_nil, List.append_nil, Token.bytes,
    Token.payload, Token.wireType, List.length_append]
  omega

theorem length_nestedBytes_le (h : innermost.length + 20 * depth < 2 ^ 64) :
    (nestedBytes innermost depth).length ≤ innermost.length + 20 * depth := by
  induction depth with
  | zero => exact Nat.le_refl _
  | succ depth ih =>
      have hinner := ih (by omega)
      have houter : (nestedBytes innermost (depth + 1)).length
          ≤ (nestedBytes innermost depth).length + 20 := length_message_le (by decide) (by omega)
      omega

theorem encodes_nestedBytes (hinnermost : Encodes limit messageNumbers [] innermost)
    (h : innermost.length + 20 * depth < 2 ^ 64) :
    Encodes (limit + depth) messageNumbers (messageFields (nestedMessage depth))
      (nestedBytes innermost depth) := by
  induction depth with
  | zero => exact hinnermost
  | succ depth ih =>
      have hlength := @length_nestedBytes_le innermost depth (by omega)
      exact encodes_message (by decide) (ih (by omega)) (by omega)

theorem encodes_deepBytes (hinnermost : Encodes limit messageNumbers [] innermost)
    (h : innermost.length ≤ 100) :
    Encodes (limit + 100) descriptorSetNumbers (descriptorSetFields deepSet)
      (deepBytes innermost) := by
  have hlength := @length_nestedBytes_le innermost 98 (by omega)
  have hmessage := @encodes_nestedBytes innermost 98 limit hinnermost (by omega)
  have hfile : Encodes (limit + 99) fileNumbers (fileFields { messageTypes := [nestedMessage 98] })
      (tokenBytes [(4, .block (nestedBytes innermost 98))]) :=
    encodes_message (by decide) hmessage (by omega)
  have hfileLength := @length_message_le (nestedBytes innermost 98) 4 (by decide) (by omega)
  exact encodes_message (by decide) hfile (by omega)

/-- Nothing is read where a message inside is not read. -/
theorem mergeFields_message {α : Type} {step : α → Nat → Token → Step α} {value : α}
    (hnumber : 0 < number ∧ number < Nat.pow 2 29) (h : bytes.length < 2 ^ 64)
    (hstep : step value number (.block bytes) = .malformed) :
    mergeFields limit step value (tokenBytes [(number, .block bytes)]) = none := by
  have hspells : SpellsTokens [(number, .block bytes)] (tokenBytes [(number, .block bytes)]) :=
    spellsTokens_tokenBytes (List.forall_mem_singleton.2 ⟨hnumber, h⟩)
  rw [mergeFields, tokens_of_spells hspells]
  simp only [fold, hstep]

theorem mergeMessage_nestedBytes (hinnermost : mergeMessage 0 {} innermost = none)
    (h : innermost.length + 20 * depth < 2 ^ 64) :
    mergeMessage depth {} (nestedBytes innermost depth) = none := by
  induction depth with
  | zero => exact hinnermost
  | succ depth ih =>
      have hlength := @length_nestedBytes_le innermost depth (by omega)
      have hinner := ih (by omega)
      refine mergeFields_message (by decide) (by omega) ?_
      show Step.known (Option.map _ (mergeMessage depth {} (nestedBytes innermost depth))) = _
      rw [hinner]
      rfl

theorem decodeDescriptorSet_deepBytes (hinnermost : mergeMessage 0 {} innermost = none)
    (h : innermost.length ≤ 100) : decodeDescriptorSet (deepBytes innermost) = none := by
  have hlength := @length_nestedBytes_le innermost 98 (by omega)
  have hmessage := @mergeMessage_nestedBytes innermost 98 hinnermost (by omega)
  have hfile : mergeFields 99 (fileStep 99) {}
      (tokenBytes [(4, .block (nestedBytes innermost 98))]) = none := by
    refine mergeFields_message (by decide) (by omega) ?_
    show Step.known (Option.map _ (mergeMessage 98 {} (nestedBytes innermost 98))) = _
    rw [hmessage]
    rfl
  have hfileLength := @length_message_le (nestedBytes innermost 98) 4 (by decide) (by omega)
  refine mergeFields_message (by decide) (by omega) ?_
  show Step.known (Option.map _ (mergeFields 99 (fileStep 99) {} _)) = _
  rw [hfile]
  rfl

end

/-- **In the innermost message that the limit allows, nothing is skipped.** -/
theorem deepSet_unread : depthOf (descriptorSetFields deepSet) = depthLimit ∧
    decodeDescriptorSet (deepBytes []) = some deepSet ∧
    Encodes (depthLimit + 1) descriptorSetNumbers (descriptorSetFields deepSet)
      (deepBytes (tokenBytes [(11, .varint 0)])) ∧
    decodeDescriptorSet (deepBytes (tokenBytes [(11, .varint 0)])) = none := by
  have hdepth : depthOf (descriptorSetFields deepSet) = depthLimit := by
    have hmessage := depthOf_nestedMessage 98
    simp [descriptorSetFields, deepSet, repeatedField, fileFields, optionalField, depthOf,
      Content.depth, hmessage, depthLimit]
  have hempty : Encodes 0 messageNumbers [] [] := ⟨[], [], [], .nil, fun _ => rfl, .nil, .nil⟩
  have hread := decodes_set depthLimit deepSet _ (encodes_deepBytes hempty (by decide))
  have hinnermost : Encodes 1 messageNumbers [] (tokenBytes [(11, .varint 0)]) :=
    ⟨_, _, _, .nil, fun _ => rfl, .skipped (by decide) (.inl ⟨_, rfl, rfl⟩) .nil,
      spellsTokens_tokenBytes (by decide)⟩
  have hlength : (tokenBytes [(11, .varint 0)]).length ≤ 100 := by decide +kernel
  have hunread : mergeMessage 0 {} (tokenBytes [(11, .varint 0)]) = none := by decide +kernel
  exact ⟨hdepth, hread, encodes_deepBytes hinnermost hlength,
    decodeDescriptorSet_deepBytes hunread hlength⟩

end ClientGen.Wire
