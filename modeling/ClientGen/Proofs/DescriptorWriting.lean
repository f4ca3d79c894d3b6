import ClientGen.Proofs.WireTokens

/-!
# What is written is an encoding

The bytes of a descriptor are one of its encodings, the one in which nothing is skipped, the fields
are in the order of their numbers, and each integer is as short as it can be.

* `Wire.FieldsDeclared` — numbers are declared, those of the fields of nested messages too.
* `Wire.declared_set` — the numbers of descriptors are.
* `Wire.encodes_encodeFields` — the bytes of some fields are one of their encodings.
-/

namespace ClientGen.Wire

/-! ## Declared numbers -/

/-- The number can stand in a key, and is one of those that are declared. -/
def Keyed (declared : List Nat) (number : Nat) : Prop :=
  number ∈ declared ∧ 0 < number ∧ number < Nat.pow 2 29

instance (declared : List Nat) (number : Nat) : Decidable (Keyed declared number) :=
  inferInstanceAs (Decidable (_ ∧ _ ∧ _))

mutual

/-- The messages in a field declare the numbers of their fields. -/
def Content.Declared : Content → Prop
  | .text _ | .plain _ | .integer _ | .truth _ | .integers _ => True
  | .message declared fields => FieldsDeclared declared fields

/-- The numbers of some fields are declared, and so are those of the fields in them. -/
def FieldsDeclared (declared : List Nat) : List (Nat × Content) → Prop
  | [] => True
  | (number, content) :: fields =>
      (Keyed declared number ∧ content.Declared) ∧ FieldsDeclared declared fields

end

section

variable {declared : List Nat} {number : Nat} {fields more : Fields}

theorem fieldsDeclared_iff :
    FieldsDeclared declared fields
      ↔ ∀ field ∈ fields, Keyed declared field.1 ∧ field.2.Declared := by
  induction fields with
  | nil => simp [FieldsDeclared]
  | cons field fields ih => rw [FieldsDeclared, ih, List.forall_mem_cons]

theorem fieldsDeclared_append :
    FieldsDeclared declared (fields ++ more)
      ↔ FieldsDeclared declared fields ∧ FieldsDeclared declared more := by
  simp only [fieldsDeclared_iff, List.forall_mem_append]

variable {α : Type} {write : α → Content}

theorem fieldsDeclared_repeated (hnumber : Keyed declared number)
    (hwrite : ∀ a, (write a).Declared) (values : List α) :
    FieldsDeclared declared (repeatedField number write values) :=
  fieldsDeclared_iff.2 (List.forall_mem_map.2 fun a _ => ⟨hnumber, hwrite a⟩)

theorem fieldsDeclared_optional (hnumber : Keyed declared number)
    (hwrite : ∀ a, (write a).Declared) (value : Option α) :
    FieldsDeclared declared (optionalField number write value) :=
  fieldsDeclared_repeated hnumber hwrite value.toList

end

/-! ## The fields of descriptors -/

theorem declared_oneof (d : OneofDescriptor) : FieldsDeclared oneofNumbers (oneofFields d) :=
  fieldsDeclared_optional (by decide) (by intro _; trivial) d.name

theorem declared_enumValue (d : EnumValueDescriptor) :
    FieldsDeclared enumValueNumbers (enumValueFields d) := by
  simp only [enumValueFields, fieldsDeclared_append]
  and_intros <;> exact fieldsDeclared_optional (by decide) (by intro _; trivial) _

theorem declared_field (d : FieldDescriptor) : FieldsDeclared fieldNumbers (fieldFields d) := by
  simp only [fieldFields, fieldsDeclared_append]
  and_intros <;> exact fieldsDeclared_optional (by decide) (by intro _; trivial) _

theorem declared_messageOptions (d : MessageOptions) :
    FieldsDeclared messageOptionsNumbers (messageOptionsFields d) :=
  fieldsDeclared_optional (by decide) (by intro _; trivial) d.mapEntry

theorem declared_serviceOptions (d : ServiceOptions) :
    FieldsDeclared serviceOptionsNumbers (serviceOptionsFields d) :=
  fieldsDeclared_optional (by decide) (by intro _; trivial) d.defaultHost

theorem declared_customPattern (d : String × String) :
    FieldsDeclared customPatternNumbers (customPatternFields d) :=
  ⟨⟨by decide, trivial⟩, ⟨by decide, trivial⟩, trivial⟩

theorem declared_pattern (pattern : HttpPattern) :
    Keyed httpRuleNumbers (patternField pattern).1 ∧ (patternField pattern).2.Declared := by
  cases pattern with
  | custom kind path =>
      have hkeyed : Keyed httpRuleNumbers 8 := by decide
      exact ⟨hkeyed, declared_customPattern (kind, path)⟩
  | _ =>
      simp only [patternField]
      exact ⟨by decide, trivial⟩

theorem declared_httpRule (d : HttpRule) : FieldsDeclared httpRuleNumbers (httpRuleFields d) := by
  have hpattern : FieldsDeclared httpRuleNumbers (d.pattern.toList.map patternField) :=
    fieldsDeclared_iff.2 (List.forall_mem_map.2 fun pattern _ => declared_pattern pattern)
  exact ⟨⟨by decide, trivial⟩, fieldsDeclared_append.2 ⟨hpattern, ⟨by decide, trivial⟩, trivial⟩⟩

theorem declared_methodOptions (d : MethodOptions) :
    FieldsDeclared methodOptionsNumbers (methodOptionsFields d) :=
  fieldsDeclared_optional (by decide) declared_httpRule d.http

theorem declared_method (d : MethodDescriptor) : FieldsDeclared methodNumbers (methodFields d) := by
  simp only [methodFields, fieldsDeclared_append]
  refine ⟨?_, fieldsDeclared_optional (by decide) declared_methodOptions _⟩
  and_intros <;> exact fieldsDeclared_optional (by decide) (by intro _; trivial) _

theorem declared_service (d : ServiceDescriptor) :
    FieldsDeclared serviceNumbers (serviceFields d) := by
  simp only [serviceFields, fieldsDeclared_append]
  exact ⟨⟨fieldsDeclared_optional (by decide) (by intro _; trivial) _,
    fieldsDeclared_repeated (by decide) declared_method _⟩,
    fieldsDeclared_optional (by decide) declared_serviceOptions _⟩

theorem declared_enum (d : EnumDescriptor) : FieldsDeclared enumNumbers (enumFields d) := by
  simp only [enumFields, fieldsDeclared_append]
  exact ⟨fieldsDeclared_optional (by decide) (by intro _; trivial) _,
    fieldsDeclared_repeated (by decide) declared_enumValue _⟩

mutual

theorem declared_message : ∀ d : MessageDescriptor,
    FieldsDeclared messageNumbers (messageFields d)
  | ⟨name, fields, nestedTypes, enumTypes, options, oneofDecls⟩ => by
      simp only [messageFields, fieldsDeclared_append]
      exact ⟨⟨⟨⟨⟨fieldsDeclared_optional (by decide) (by intro _; trivial) _,
        fieldsDeclared_repeated (by decide) declared_field _⟩,
        declared_nestedTypes nestedTypes⟩,
        fieldsDeclared_repeated (by decide) declared_enum _⟩,
        fieldsDeclared_optional (by decide) declared_messageOptions _⟩,
        fieldsDeclared_repeated (by decide) declared_oneof _⟩

theorem declared_nestedTypes : ∀ ds : List MessageDescriptor,
    FieldsDeclared messageNumbers (nestedTypeFields ds)
  | [] => trivial
  | d :: ds => ⟨⟨by decide, declared_message d⟩, declared_nestedTypes ds⟩

end

theorem declared_location (d : Location) : FieldsDeclared locationNumbers (locationFields d) :=
  ⟨⟨by decide, trivial⟩, fieldsDeclared_optional (by decide) (by intro _; trivial) _⟩

theorem declared_sourceInfo (d : SourceInfo) :
    FieldsDeclared sourceInfoNumbers (sourceInfoFields d) :=
  fieldsDeclared_repeated (by decide) declared_location d.locations

theorem declared_file (d : FileDescriptor) : FieldsDeclared fileNumbers (fileFields d) := by
  simp only [fileFields, fieldsDeclared_append]
  exact ⟨⟨⟨⟨⟨fieldsDeclared_optional (by decide) (by intro _; trivial) _,
    fieldsDeclared_optional (by decide) (by intro _; trivial) _⟩,
    fieldsDeclared_repeated (by decide) declared_message _⟩,
    fieldsDeclared_repeated (by decide) declared_enum _⟩,
    fieldsDeclared_repeated (by decide) declared_service _⟩,
    fieldsDeclared_optional (by decide) declared_sourceInfo _⟩

theorem declared_set (d : DescriptorSet) :
    FieldsDeclared descriptorSetNumbers (descriptorSetFields d) :=
  fieldsDeclared_repeated (by decide) declared_file d.files

/-! ## The bytes of some fields -/

section

variable {fields : Fields} {number : Nat} {limit : Nat} {declared : List Nat}

/-- The tokens that some fields are written as. -/
def fieldTokens (fields : Fields) : List (Nat × Token) :=
  fields.flatMap fun field => field.2.tokens.map (field.1, ·)

/-- The bytes of some tokens. -/
def tokenBytes (tokens : List (Nat × Token)) : List UInt8 :=
  tokens.flatMap fun field => field.2.bytes field.1

theorem encodeFields_eq (fields : Fields) :
    encodeFields fields = tokenBytes (fieldTokens fields) := by
  induction fields with
  | nil => rw [encodeFields, fieldTokens, tokenBytes, List.flatMap_nil, List.flatMap_nil]
  | cons field fields ih =>
      obtain ⟨number, content⟩ := field
      rw [encodeFields, ih, fieldTokens, fieldTokens, tokenBytes, tokenBytes, List.flatMap_cons,
        List.flatMap_append, List.flatMap_map]

/-- A block is no longer than the bytes that it is a part of. -/
theorem length_block_le {tokens : List (Nat × Token)} {payload : List UInt8}
    (h : (number, Token.block payload) ∈ tokens) :
    payload.length ≤ (tokenBytes tokens).length := by
  have hblock : payload.Sublist ((Token.block payload).bytes number) :=
    (List.sublist_append_right _ _).trans (List.sublist_append_right _ _)
  refine (hblock.trans ?_).length_le
  exact List.sublist_flatten_of_mem (List.mem_map.2 ⟨(number, .block payload), h, rfl⟩)

theorem depth_le_depthOf {content : Content} (h : (number, content) ∈ fields) :
    content.depth ≤ depthOf fields := by
  induction fields with
  | nil => cases h
  | cons field fields ih =>
      rw [depthOf]
      rcases List.mem_cons.1 h with rfl | h
      · exact Nat.le_max_left ..
      · exact Nat.le_trans (ih h) (Nat.le_max_right ..)

theorem padded_self {tokens : List (Nat × Token)} (h : ∀ field ∈ tokens, field.1 ∈ declared) :
    Padded limit declared tokens tokens := by
  induction tokens with
  | nil => exact .nil
  | cons field tokens ih =>
      obtain ⟨hfield, htokens⟩ := List.forall_mem_cons.1 h
      exact .declared hfield (ih htokens)

theorem spellsTokens_tokenBytes {tokens : List (Nat × Token)}
    (h : ∀ field ∈ tokens, (0 < field.1 ∧ field.1 < Nat.pow 2 29) ∧ field.2.Writable) :
    SpellsTokens tokens (tokenBytes tokens) := by
  induction tokens with
  | nil => exact .nil
  | cons field tokens ih =>
      obtain ⟨⟨⟨hpos, hlt⟩, hwritable⟩, htokens⟩ := List.forall_mem_cons.1 h
      exact (spellsTokens_bytes hpos hlt hwritable).append (ih htokens)

theorem written_fieldTokens {encodes : List Nat → Fields → List UInt8 → Prop}
    (h : ∀ field ∈ fields, Holds encodes field.2 field.2.tokens) :
    Written encodes fields (fieldTokens fields) := by
  induction fields with
  | nil => exact .nil
  | cons field fields ih =>
      obtain ⟨hfield, hfields⟩ := List.forall_mem_cons.1 h
      exact .cons hfield (ih hfields)

theorem holds_tokens {encodes : List Nat → Fields → List UInt8 → Prop} {content : Content}
    (h : ∀ declared fields, content = .message declared fields →
      encodes declared fields (encodeFields fields)) :
    Holds encodes content content.tokens := by
  cases content with
  | text s => exact .text
  | plain s =>
      rw [Content.tokens]
      split
      case isTrue hempty =>
        obtain rfl := String.isEmpty_iff.1 hempty
        exact .empty
      case isFalse => exact .plain
  | integer n => exact .integer
  | truth b => exact .truth
  | integers ns =>
      rw [Content.tokens]
      split
      case isTrue hempty =>
        obtain rfl := List.isEmpty_iff.1 hempty
        exact .unpacked
      case isFalse => exact .packed (spellsIntegers_pack ns)
  | message declared fields => exact .message (h declared fields rfl)

theorem tokens_cases {content : Content} {token : Token} (h : token ∈ content.tokens) :
    (∃ n, token = .varint n) ∨ ∃ payload, token = .block payload := by
  cases content with
  | text s => exact .inr ⟨_, List.mem_singleton.1 h⟩
  | plain s =>
      rw [Content.tokens] at h
      split at h
      · cases h
      · exact .inr ⟨_, List.mem_singleton.1 h⟩
  | integer n => exact .inl ⟨_, List.mem_singleton.1 h⟩
  | truth b => exact .inl ⟨_, List.mem_singleton.1 h⟩
  | integers ns =>
      rw [Content.tokens] at h
      split at h
      · cases h
      · exact .inr ⟨_, List.mem_singleton.1 h⟩
  | message declared fields =>
      rw [Content.tokens] at h
      exact .inr ⟨_, List.mem_singleton.1 h⟩

theorem fieldTokens_spec (hdeclared : FieldsDeclared declared fields)
    (hlength : (encodeFields fields).length < 2 ^ 64) :
    ∀ field ∈ fieldTokens fields, Keyed declared field.1 ∧ field.2.Writable := by
  intro field hmem
  obtain ⟨⟨number, content⟩, hfield, hmap⟩ := List.mem_flatMap.1 hmem
  obtain ⟨token, htoken, rfl⟩ := List.mem_map.1 hmap
  refine ⟨(fieldsDeclared_iff.1 hdeclared _ hfield).1, ?_⟩
  rcases tokens_cases htoken with ⟨n, rfl⟩ | ⟨payload, rfl⟩
  · trivial
  · rw [encodeFields_eq] at hlength
    exact Nat.lt_of_le_of_lt (length_block_le hmem) hlength

theorem encodesWith_encodeFields {encodes : List Nat → Fields → List UInt8 → Prop}
    (hdeclared : FieldsDeclared declared fields)
    (hlength : (encodeFields fields).length < 2 ^ 64)
    (hnested : ∀ number declared' inner, (number, .message declared' inner) ∈ fields →
      encodes declared' inner (encodeFields inner)) :
    EncodesWith encodes limit declared fields (encodeFields fields) := by
  have hspec := fieldTokens_spec hdeclared hlength
  have hwritten : Written encodes fields (fieldTokens fields) := by
    refine written_fieldTokens fun field hfield => holds_tokens fun declared' inner hinner => ?_
    exact hnested field.1 declared' inner (hinner ▸ hfield)
  have hspells : SpellsTokens (fieldTokens fields) (encodeFields fields) := by
    rw [encodeFields_eq]
    exact spellsTokens_tokenBytes fun field hfield =>
      ⟨(hspec field hfield).1.2, (hspec field hfield).2⟩
  exact ⟨_, _, _, hwritten, fun _ => rfl, padded_self fun field hfield => (hspec field hfield).1.1,
    hspells⟩

/-- **The bytes of some fields are one of their encodings**, in which nothing is skipped. -/
theorem encodes_encodeFields (hdeclared : FieldsDeclared declared fields)
    (hdepth : depthOf fields ≤ limit) (hlength : (encodeFields fields).length < 2 ^ 64) :
    Encodes limit declared fields (encodeFields fields) := by
  induction limit generalizing declared fields with
  | zero =>
      refine encodesWith_encodeFields hdeclared hlength fun number declared' inner hinner => ?_
      have hinside := depth_le_depthOf hinner
      rw [Content.depth] at hinside
      omega
  | succ limit ih =>
      refine encodesWith_encodeFields hdeclared hlength fun number declared' inner hinner => ?_
      have hinside := depth_le_depthOf hinner
      rw [Content.depth] at hinside
      have hblock : (number, Token.block (encodeFields inner)) ∈ fieldTokens fields := by
        refine List.mem_flatMap.2 ⟨_, hinner, ?_⟩
        simp only [Content.tokens, List.map_singleton, List.mem_singleton]
      have hshorter := length_block_le hblock
      rw [← encodeFields_eq] at hshorter
      have hmessage := (fieldsDeclared_iff.1 hdeclared _ hinner).2
      exact ih hmessage (by omega) (by omega)

/-- A message in another, and nothing else. -/
theorem encodes_message {declared' : List Nat} {inner : Fields} {bytes : List UInt8}
    (hnumber : Keyed declared number) (h : Encodes limit declared' inner bytes)
    (hlength : bytes.length < 2 ^ 64) :
    Encodes (limit + 1) declared [(number, .message declared' inner)]
      (tokenBytes [(number, .block bytes)]) := by
  refine ⟨_, _, _, .cons (.message h) .nil, fun _ => rfl, .declared hnumber.1 .nil, ?_⟩
  exact spellsTokens_tokenBytes (List.forall_mem_singleton.2 ⟨hnumber.2, hlength⟩)

end

end ClientGen.Wire
