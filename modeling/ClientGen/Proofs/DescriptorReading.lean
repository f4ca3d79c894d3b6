import ClientGen.Proofs.MessageReading
import ClientGen.Proofs.Utf8Texts
import ClientGen.Wire.DescriptorFormat

/-!
# Descriptors are read from all their encodings

A descriptor is read from its fields one after the other: each of them fills the part of the value
that it was written from.  Messages inside the current one are read a level deeper.

* `Wire.Reads` — what is read from some fields in their order.
* `Wire.Kind.orderly` — the fields of each kind of message are read in whatever order.
* `Wire.Decodes` — the descriptors of a kind are read from all their encodings.
* `Wire.decodes_set` — sets of descriptors are, so that no bytes are an encoding of two.
-/

namespace ClientGen.Wire

/-! ## Parts of a message -/

/-- The encodings of messages that are nested in one for which there are so many levels. -/
def Nested : (limit : Nat) → List Nat → Fields → List UInt8 → Prop
  | 0 => fun _ _ _ => False
  | limit + 1 => Encodes limit

theorem encodes_eq (limit : Nat) : Encodes limit = EncodesWith (Nested limit) limit := by
  cases limit <;> rfl

section

variable {α β : Type} {encodes : List Nat → Fields → List UInt8 → Prop}
  {step : α → Nat → Token → Step α} {u v w : α} {fields more : Fields} {write : β → Content}
  {read : Token → Option β}

/-- From the fields, as they are written in their order, a value is read on top of another one. -/
def Reads (encodes : List Nat → Fields → List UInt8 → Prop) (step : α → Nat → Token → Step α)
    (fields : Fields) (value result : α) : Prop :=
  ∀ written, Written encodes fields written → run step value written = some result

theorem Reads.nil (value : α) : Reads encodes step [] value value := by
  intro written h
  cases h
  rfl

theorem written_append {written : List (Nat × Token)}
    (h : Written encodes (fields ++ more) written) :
    ∃ first rest, written = first ++ rest ∧ Written encodes fields first ∧
      Written encodes more rest := by
  induction fields generalizing written with
  | nil => exact ⟨[], written, rfl, .nil, h⟩
  | cons field fields ih =>
      cases h with
      | cons hholds hrest =>
          obtain ⟨first, rest, rfl, hfirst, hmore⟩ := ih hrest
          exact ⟨_, rest, (List.append_assoc ..).symm, .cons hholds hfirst, hmore⟩

theorem Reads.append (h : Reads encodes step fields u v) (h' : Reads encodes step more v w) :
    Reads encodes step (fields ++ more) u w := by
  intro written hwritten
  obtain ⟨first, rest, rfl, hfirst, hrest⟩ := written_append hwritten
  rw [run_append, h first hfirst]
  exact h' rest hrest

theorem reads_singleton {number : Nat} {content : Content}
    (h : ∀ tokens, Holds encodes content tokens →
      run step v (tokens.map (number, ·)) = some w) :
    Reads encodes step [(number, content)] v w := by
  intro written hwritten
  cases hwritten with
  | cons hholds hrest =>
      cases hrest
      rw [List.append_nil]
      exact h _ hholds

/-- A value is written as one token, and is read from it. -/
def ReadsBack (encodes : List Nat → Fields → List UInt8 → Prop) (write : β → Content)
    (read : Token → Option β) : Prop :=
  ∀ b tokens, Holds encodes (write b) tokens → ∃ token, tokens = [token] ∧ read token = some b

theorem reads_back (hback : ReadsBack encodes write read) {number : Nat} (put : β → α)
    (hstep : ∀ token, step v number token = .known ((read token).map put)) (b : β) :
    Reads encodes step [(number, write b)] v (put b) := by
  refine reads_singleton fun tokens hholds => ?_
  obtain ⟨token, rfl, hread⟩ := hback b tokens hholds
  rw [List.map_singleton, run, hstep, Step.value?_known, hread]
  rfl

/-- **A part that can be absent is read.** -/
theorem reads_optional (hback : ReadsBack encodes write read) {number : Nat} (put : Option β → α)
    (hstep : ∀ token, step (put none) number token
      = .known ((read token).map fun b => put (some b)))
    (value : Option β) :
    Reads encodes step (optionalField number write value) (put none) (put value) := by
  cases value with
  | none => exact .nil _
  | some b => exact reads_back hback (fun b => put (some b)) hstep b

/-- **A list is read item by item.** -/
theorem reads_repeated (hback : ReadsBack encodes write read) {number : Nat} (put : List β → α)
    (hstep : ∀ done token, step (put done) number token
      = .known ((read token).map fun b => put (done ++ [b])))
    (done values : List β) :
    Reads encodes step (repeatedField number write values) (put done) (put (done ++ values)) := by
  induction values generalizing done with
  | nil =>
      rw [List.append_nil]
      exact .nil _
  | cons b values ih =>
      have hfirst := reads_back hback (fun b => put (done ++ [b])) (hstep done) b
      have hrest := ih (done ++ [b])
      rw [List.append_assoc] at hrest
      exact hfirst.append hrest

/-! ## Leaves -/

theorem readsBack_text : ReadsBack encodes .text readText := by
  intro s tokens h
  cases h
  exact ⟨_, rfl, Text.Utf8.decode?_encode s⟩

theorem readsBack_integer : ReadsBack encodes .integer readInt32 := by
  intro n tokens h
  cases h
  exact ⟨_, rfl, congrArg some (toInt32_widen n)⟩

theorem readsBack_truth : ReadsBack encodes .truth readBool := by
  intro b tokens h
  cases h
  refine ⟨_, rfl, ?_⟩
  cases b <;> rfl

/-- A text is read where it can be left out. -/
theorem reads_plain {number : Nat} (put : String → α)
    (hstep : ∀ token, step (put "") number token = .known ((readText token).map put))
    (s : String) : Reads encodes step [(number, .plain s)] (put "") (put s) := by
  refine reads_singleton fun tokens hholds => ?_
  cases hholds with
  | plain =>
      have hread : readText (.block (Text.Utf8.encode s)) = some s := Text.Utf8.decode?_encode s
      rw [List.map_singleton, run, hstep, Step.value?_known, hread]
      rfl
  | empty => rfl

/-- Integers are read, packed or not. -/
theorem reads_integers {number : Nat} (put : List Int32 → α)
    (hstep : ∀ done token, step (put done) number token
      = .known ((readRepeatedInt32 token).map fun ns => put (done ++ ns)))
    (ns : List Int32) : Reads encodes step [(number, .integers ns)] (put []) (put ns) := by
  refine reads_singleton fun tokens hholds => ?_
  cases hholds with
  | packed hpayload =>
      have hread := readInt32s_of_spells hpayload (Nat.le_refl _)
      rw [List.map_singleton, run, hstep, Step.value?_known, readRepeatedInt32, hread]
      rfl
  | unpacked =>
      have hall : ∀ done rest : List Int32,
          run step (put done) ((rest.map fun n => Token.varint (widen n)).map (number, ·))
            = some (put (done ++ rest)) := by
        intro done rest
        induction rest generalizing done with
        | nil =>
            rw [List.append_nil]
            rfl
        | cons n rest ih =>
            have hrest := ih (done ++ [n])
            rw [List.append_assoc] at hrest
            rw [List.map_cons, List.map_cons, run, hstep, Step.value?_known, readRepeatedInt32,
              toInt32_widen]
            exact hrest
      exact hall [] ns

end

/-! ## Messages -/

/-- The messages of a kind are read from all their encodings within so many levels. -/
def Decodes {β : Type} (limit : Nat) (declared : List Nat) (fields : β → Fields)
    (merge : β → List UInt8 → Option β) (start : β) : Prop :=
  ∀ value bytes, Encodes limit declared (fields value) bytes → merge start bytes = some value

/-- A message inside the current one is read if it is within the limit. -/
theorem readsBack_message {β : Type} {limit : Nat} {declared : List Nat} {fields : β → Fields}
    {merge : Nat → β → List UInt8 → Option β} {start : β}
    (h : ∀ depth, limit = depth + 1 → Decodes depth declared fields (merge depth) start) :
    ReadsBack (Nested limit) (.message declared ∘ fields)
      (readNested (deeper limit merge) start) := by
  intro value tokens hholds
  cases hholds with
  | @message _ _ payload hpayload =>
      refine ⟨_, rfl, ?_⟩
      cases limit with
      | zero => exact hpayload.elim
      | succ depth => exact h depth rfl value payload hpayload

/-- **Messages are read from all their encodings** if they are read from their fields, and if no two
of these fill the same slot. -/
theorem decodes_of_reads {β : Type} {limit : Nat} {declared : List Nat} {slot : Nat → Nat}
    {fields : β → Fields} {step : β → Nat → Token → Step β} {start : β}
    (horderly : Orderly declared slot step)
    (hslot : ∀ value, ∀ m ∈ (fields value).map (·.1), ∀ n ∈ (fields value).map (·.1),
      slot m = slot n → m = n)
    (hreads : ∀ value, Reads (Nested limit) step (fields value) start value) :
    Decodes limit declared fields (mergeFields limit step) start := by
  intro value bytes h
  rw [encodes_eq] at h
  exact mergeFields_of_encodes horderly (hslot value) (hreads value) h

/-- Messages of which each field fills a slot of its own. -/
theorem decodes_of_orderly {β : Type} {limit : Nat} {declared : List Nat} {fields : β → Fields}
    {step : β → Nat → Token → Step β} {start : β} (horderly : Orderly declared id step)
    (hreads : ∀ value, Reads (Nested limit) step (fields value) start value) :
    Decodes limit declared fields (mergeFields limit step) start :=
  decodes_of_reads horderly (fun _ _ _ _ _ h => h) hreads

/-! ## The kinds of messages -/

/-- The patterns of an HTTP rule fill one slot. -/
def patternSlot (number : Nat) : Nat :=
  if number ∈ [3, 4, 5, 6, 8] then 2 else number

/-- The kinds of messages that a set of descriptors is made of. -/
inductive Kind where
  | oneof | enumValue | field | messageOptions | serviceOptions | customPattern | location
  | httpRule | methodOptions | method | service | enum | message | sourceInfo | file | set

namespace Kind

/-- What a message of the kind is read as. -/
def Value : Kind → Type
  | oneof => OneofDescriptor
  | enumValue => EnumValueDescriptor
  | field => FieldDescriptor
  | messageOptions => MessageOptions
  | serviceOptions => ServiceOptions
  | customPattern => String × String
  | location => Location
  | httpRule => HttpRule
  | methodOptions => MethodOptions
  | method => MethodDescriptor
  | service => ServiceDescriptor
  | enum => EnumDescriptor
  | message => MessageDescriptor
  | sourceInfo => SourceInfo
  | file => FileDescriptor
  | set => DescriptorSet

/-- The numbers of the fields of the kind. -/
def numbers : Kind → List Nat
  | oneof => oneofNumbers
  | enumValue => enumValueNumbers
  | field => fieldNumbers
  | messageOptions => messageOptionsNumbers
  | serviceOptions => serviceOptionsNumbers
  | customPattern => customPatternNumbers
  | location => locationNumbers
  | httpRule => httpRuleNumbers
  | methodOptions => methodOptionsNumbers
  | method => methodNumbers
  | service => serviceNumbers
  | enum => enumNumbers
  | message => messageNumbers
  | sourceInfo => sourceInfoNumbers
  | file => fileNumbers
  | set => descriptorSetNumbers

/-- The slot that a field fills, one of its own but for the patterns. -/
def slot : Kind → Nat → Nat
  | httpRule => patternSlot
  | _ => id

/-- How the fields of the kind are read, within so many levels. -/
def step (limit : Nat) : (kind : Kind) → kind.Value → Nat → Token → Step kind.Value
  | oneof => oneofStep
  | enumValue => enumValueStep
  | field => fieldStep
  | messageOptions => messageOptionsStep
  | serviceOptions => serviceOptionsStep
  | customPattern => customPatternStep
  | location => locationStep
  | httpRule => httpRuleStep limit
  | methodOptions => methodOptionsStep limit
  | method => methodStep limit
  | service => serviceStep limit
  | enum => enumStep limit
  | message => messageStep limit (deeper limit mergeMessage)
  | sourceInfo => sourceInfoStep limit
  | file => fileStep limit
  | set => descriptorSetStep limit

/-- **The fields of each kind of message are read in whatever order**: each of them fills a part of
the value that no field of another slot touches. -/
theorem orderly (limit : Nat) (kind : Kind) :
    Orderly kind.numbers kind.slot (kind.step limit) := by
  constructor
  case unknown =>
    intro value number token hnumber
    cases kind
    all_goals
      simp only [step, oneofStep, enumValueStep, fieldStep, messageOptionsStep,
        serviceOptionsStep, customPatternStep, locationStep, httpRuleStep, methodOptionsStep,
        methodStep, serviceStep, enumStep, messageStep, sourceInfoStep, fileStep,
        descriptorSetStep]
      split <;> first | rfl | exact absurd (by decide) hnumber
  case swaps =>
    -- one goal for each two fields of a kind, of which the parts are found by unification
    cases kind
    all_goals
      simp only [numbers, oneofNumbers, enumValueNumbers, fieldNumbers, messageOptionsNumbers,
        serviceOptionsNumbers, customPatternNumbers, locationNumbers, httpRuleNumbers,
        methodOptionsNumbers, methodNumbers, serviceNumbers, enumNumbers, messageNumbers,
        sourceInfoNumbers, fileNumbers, descriptorSetNumbers, List.pairwise_cons,
        List.forall_mem_cons]
      and_intros
    all_goals first
      | exact List.Pairwise.nil
      | exact fun m hm => absurd hm List.not_mem_nil
      | exact fun hne => absurd rfl hne
      | exact fun _ => swaps_of_parts (fun _ _ => rfl) (fun _ _ => rfl) (fun _ _ _ => rfl)
          (fun _ _ _ => rfl) fun _ _ _ => rfl

end Kind

/-! ## Messages without others -/

theorem decodes_oneof (limit : Nat) :
    Decodes limit oneofNumbers oneofFields (mergeFields limit oneofStep) {} := by
  refine decodes_of_orderly (Kind.orderly limit .oneof) fun d => ?_
  exact reads_optional readsBack_text (fun name => { name : OneofDescriptor }) (fun _ => rfl) d.name

theorem decodes_enumValue (limit : Nat) :
    Decodes limit enumValueNumbers enumValueFields (mergeFields limit enumValueStep) {} := by
  refine decodes_of_orderly (Kind.orderly limit .enumValue) fun d => ?_
  have hname : Reads (Nested limit) enumValueStep (optionalField 1 .text d.name) {}
      { name := d.name } :=
    reads_optional readsBack_text (fun name => { name : EnumValueDescriptor }) (fun _ => rfl) d.name
  have hnumber : Reads (Nested limit) enumValueStep (optionalField 2 .integer d.number)
      { name := d.name } d :=
    reads_optional readsBack_integer (fun number => { d with number }) (fun _ => rfl) d.number
  exact hname.append hnumber

theorem decodes_field (limit : Nat) :
    Decodes limit fieldNumbers fieldFields (mergeFields limit fieldStep) {} := by
  refine decodes_of_orderly (Kind.orderly limit .field) fun d => ?_
  have hname : Reads (Nested limit) fieldStep (optionalField 1 .text d.name) {}
      { name := d.name } :=
    reads_optional readsBack_text (fun name => { name : FieldDescriptor }) (fun _ => rfl) d.name
  have hnumber : Reads (Nested limit) fieldStep (optionalField 3 .integer d.number)
      { name := d.name } { name := d.name, number := d.number } :=
    reads_optional readsBack_integer
      (fun number => { name := d.name, number : FieldDescriptor }) (fun _ => rfl) d.number
  have hlabel : Reads (Nested limit) fieldStep (optionalField 4 .integer d.label)
      { name := d.name, number := d.number }
      { name := d.name, number := d.number, label := d.label } :=
    reads_optional readsBack_integer
      (fun label => { name := d.name, number := d.number, label : FieldDescriptor })
      (fun _ => rfl) d.label
  have htype : Reads (Nested limit) fieldStep (optionalField 5 .integer d.type)
      { name := d.name, number := d.number, label := d.label }
      { d with typeName := none, oneofIndex := none, jsonName := none, proto3Optional := none } :=
    reads_optional readsBack_integer
      (fun type =>
        { d with type, typeName := none, oneofIndex := none, jsonName := none,
                 proto3Optional := none })
      (fun _ => rfl) d.type
  have htypeName : Reads (Nested limit) fieldStep (optionalField 6 .text d.typeName)
      { d with typeName := none, oneofIndex := none, jsonName := none, proto3Optional := none }
      { d with oneofIndex := none, jsonName := none, proto3Optional := none } :=
    reads_optional readsBack_text
      (fun typeName =>
        { d with typeName, oneofIndex := none, jsonName := none, proto3Optional := none })
      (fun _ => rfl) d.typeName
  have honeofIndex : Reads (Nested limit) fieldStep (optionalField 9 .integer d.oneofIndex)
      { d with oneofIndex := none, jsonName := none, proto3Optional := none }
      { d with jsonName := none, proto3Optional := none } :=
    reads_optional readsBack_integer
      (fun oneofIndex => { d with oneofIndex, jsonName := none, proto3Optional := none })
      (fun _ => rfl) d.oneofIndex
  have hjsonName : Reads (Nested limit) fieldStep (optionalField 10 .text d.jsonName)
      { d with jsonName := none, proto3Optional := none } { d with proto3Optional := none } :=
    reads_optional readsBack_text (fun jsonName => { d with jsonName, proto3Optional := none })
      (fun _ => rfl) d.jsonName
  have hproto3Optional : Reads (Nested limit) fieldStep (optionalField 17 .truth d.proto3Optional)
      { d with proto3Optional := none } d :=
    reads_optional readsBack_truth (fun proto3Optional => { d with proto3Optional })
      (fun _ => rfl) d.proto3Optional
  exact ((((((hname.append hnumber).append hlabel).append htype).append htypeName).append
    honeofIndex).append hjsonName).append hproto3Optional

theorem decodes_messageOptions (limit : Nat) :
    Decodes limit messageOptionsNumbers messageOptionsFields (mergeFields limit messageOptionsStep)
      {} := by
  refine decodes_of_orderly (Kind.orderly limit .messageOptions) fun d => ?_
  exact reads_optional readsBack_truth (fun mapEntry => { mapEntry : MessageOptions })
    (fun _ => rfl) d.mapEntry

theorem decodes_serviceOptions (limit : Nat) :
    Decodes limit serviceOptionsNumbers serviceOptionsFields (mergeFields limit serviceOptionsStep)
      {} := by
  refine decodes_of_orderly (Kind.orderly limit .serviceOptions) fun d => ?_
  exact reads_optional readsBack_text (fun defaultHost => { defaultHost : ServiceOptions })
    (fun _ => rfl) d.defaultHost

theorem decodes_customPattern (limit : Nat) :
    Decodes limit customPatternNumbers customPatternFields (mergeFields limit customPatternStep)
      ("", "") := by
  refine decodes_of_orderly (Kind.orderly limit .customPattern) fun d => ?_
  have hkind : Reads (Nested limit) customPatternStep [(1, .plain d.1)] ("", "") (d.1, "") :=
    reads_plain (fun kind => (kind, "")) (fun _ => rfl) d.1
  have hpath : Reads (Nested limit) customPatternStep [(2, .plain d.2)] (d.1, "") d :=
    reads_plain (fun path => (d.1, path)) (fun _ => rfl) d.2
  exact hkind.append hpath

theorem decodes_location (limit : Nat) :
    Decodes limit locationNumbers locationFields (mergeFields limit locationStep) {} := by
  refine decodes_of_orderly (Kind.orderly limit .location) fun d => ?_
  have hpath : Reads (Nested limit) locationStep [(1, .integers d.path)] {} { path := d.path } :=
    reads_integers (fun path => { path : Location }) (fun _ _ => rfl) d.path
  have hcomments : Reads (Nested limit) locationStep (optionalField 3 .text d.leadingComments)
      { path := d.path } d :=
    reads_optional readsBack_text (fun leadingComments => { d with leadingComments })
      (fun _ => rfl) d.leadingComments
  exact hpath.append hcomments

/-! ## Methods and services -/

/-- A pattern is read where none has been. -/
theorem reads_pattern (limit : Nat) (selector : String) (pattern : HttpPattern) :
    Reads (Nested limit) (httpRuleStep limit) [patternField pattern] { selector }
      { selector, pattern := some pattern } := by
  have hcustom : ReadsBack (Nested limit) (.message customPatternNumbers ∘ customPatternFields)
      (nest limit (fun _ => customPatternStep) ("", "")) :=
    readsBack_message fun depth _ => decodes_customPattern depth
  cases pattern with
  | get path =>
      exact reads_back readsBack_text (fun s => { selector, pattern := some (.get s) : HttpRule })
        (fun _ => rfl) path
  | put path =>
      exact reads_back readsBack_text (fun s => { selector, pattern := some (.put s) : HttpRule })
        (fun _ => rfl) path
  | post path =>
      exact reads_back readsBack_text (fun s => { selector, pattern := some (.post s) : HttpRule })
        (fun _ => rfl) path
  | delete path =>
      exact reads_back readsBack_text
        (fun s => { selector, pattern := some (.delete s) : HttpRule }) (fun _ => rfl) path
  | patch path =>
      exact reads_back readsBack_text (fun s => { selector, pattern := some (.patch s) : HttpRule })
        (fun _ => rfl) path
  | custom kind path =>
      exact reads_back hcustom
        (fun parts => { selector, pattern := some (.custom parts.1 parts.2) : HttpRule })
        (fun _ => rfl) (kind, path)

theorem decodes_httpRule (limit : Nat) :
    Decodes limit httpRuleNumbers httpRuleFields (mergeFields limit (httpRuleStep limit)) {} := by
  have horderly : Orderly httpRuleNumbers patternSlot (httpRuleStep limit) :=
    Kind.orderly limit .httpRule
  refine decodes_of_reads horderly (fun d => ?_) fun d => ?_
  · -- a rule has one pattern at most
    obtain ⟨selector, body, pattern⟩ := d
    cases pattern with
    | none => simp [httpRuleFields, patternSlot]
    | some pattern => cases pattern <;> simp [httpRuleFields, patternField, patternSlot]
  · have hselector : Reads (Nested limit) (httpRuleStep limit) [(1, .plain d.selector)] {}
        { selector := d.selector } :=
      reads_plain (fun selector => { selector : HttpRule }) (fun _ => rfl) d.selector
    have hpattern : Reads (Nested limit) (httpRuleStep limit) (d.pattern.toList.map patternField)
        { selector := d.selector } { selector := d.selector, pattern := d.pattern } := by
      cases d.pattern with
      | none => exact .nil _
      | some pattern => exact reads_pattern limit d.selector pattern
    have hbody : Reads (Nested limit) (httpRuleStep limit) [(7, .plain d.body)]
        { selector := d.selector, pattern := d.pattern } d :=
      reads_plain (fun body => { d with body }) (fun _ => rfl) d.body
    exact (hselector.append hpattern).append hbody

theorem decodes_methodOptions (limit : Nat) :
    Decodes limit methodOptionsNumbers methodOptionsFields
      (mergeFields limit (methodOptionsStep limit)) {} := by
  refine decodes_of_orderly (Kind.orderly limit .methodOptions) fun d => ?_
  have hrule : ReadsBack (Nested limit) (.message httpRuleNumbers ∘ httpRuleFields)
      (nest limit httpRuleStep {}) := readsBack_message fun depth _ => decodes_httpRule depth
  exact reads_optional hrule (fun http => { http : MethodOptions }) (fun _ => rfl) d.http

theorem decodes_method (limit : Nat) :
    Decodes limit methodNumbers methodFields (mergeFields limit (methodStep limit)) {} := by
  refine decodes_of_orderly (Kind.orderly limit .method) fun d => ?_
  have hname : Reads (Nested limit) (methodStep limit) (optionalField 1 .text d.name) {}
      { name := d.name } :=
    reads_optional readsBack_text (fun name => { name : MethodDescriptor }) (fun _ => rfl) d.name
  have hinput : Reads (Nested limit) (methodStep limit) (optionalField 2 .text d.inputType)
      { name := d.name } { d with outputType := none, options := none } :=
    reads_optional readsBack_text
      (fun inputType => { d with inputType, outputType := none, options := none })
      (fun _ => rfl) d.inputType
  have houtput : Reads (Nested limit) (methodStep limit) (optionalField 3 .text d.outputType)
      { d with outputType := none, options := none } { d with options := none } :=
    reads_optional readsBack_text (fun outputType => { d with outputType, options := none })
      (fun _ => rfl) d.outputType
  have hback : ReadsBack (Nested limit) (.message methodOptionsNumbers ∘ methodOptionsFields)
      (nest limit methodOptionsStep {}) :=
    readsBack_message fun depth _ => decodes_methodOptions depth
  have hoptions : Reads (Nested limit) (methodStep limit)
      (optionalField 4 (.message methodOptionsNumbers ∘ methodOptionsFields) d.options)
      { d with options := none } d :=
    reads_optional hback (fun options => { d with options }) (fun _ => rfl) d.options
  exact ((hname.append hinput).append houtput).append hoptions

theorem decodes_service (limit : Nat) :
    Decodes limit serviceNumbers serviceFields (mergeFields limit (serviceStep limit)) {} := by
  refine decodes_of_orderly (Kind.orderly limit .service) fun d => ?_
  have hname : Reads (Nested limit) (serviceStep limit) (optionalField 1 .text d.name) {}
      { name := d.name } :=
    reads_optional readsBack_text (fun name => { name : ServiceDescriptor }) (fun _ => rfl) d.name
  have hmethod : ReadsBack (Nested limit) (.message methodNumbers ∘ methodFields)
      (nest limit methodStep {}) := readsBack_message fun depth _ => decodes_method depth
  have hmethods : Reads (Nested limit) (serviceStep limit)
      (repeatedField 2 (.message methodNumbers ∘ methodFields) d.methods)
      { name := d.name } { d with options := none } :=
    reads_repeated hmethod (fun methods => { d with methods, options := none })
      (fun _ _ => rfl) [] d.methods
  have hback : ReadsBack (Nested limit) (.message serviceOptionsNumbers ∘ serviceOptionsFields)
      (nest limit (fun _ => serviceOptionsStep) {}) :=
    readsBack_message fun depth _ => decodes_serviceOptions depth
  have hoptions : Reads (Nested limit) (serviceStep limit)
      (optionalField 3 (.message serviceOptionsNumbers ∘ serviceOptionsFields) d.options)
      { d with options := none } d :=
    reads_optional hback (fun options => { d with options }) (fun _ => rfl) d.options
  exact (hname.append hmethods).append hoptions

/-! ## Enums and messages -/

theorem decodes_enum (limit : Nat) :
    Decodes limit enumNumbers enumFields (mergeFields limit (enumStep limit)) {} := by
  refine decodes_of_orderly (Kind.orderly limit .enum) fun d => ?_
  have hname : Reads (Nested limit) (enumStep limit) (optionalField 1 .text d.name) {}
      { name := d.name } :=
    reads_optional readsBack_text (fun name => { name : EnumDescriptor }) (fun _ => rfl) d.name
  have hvalue : ReadsBack (Nested limit) (.message enumValueNumbers ∘ enumValueFields)
      (nest limit (fun _ => enumValueStep) {}) :=
    readsBack_message fun depth _ => decodes_enumValue depth
  have hvalues : Reads (Nested limit) (enumStep limit)
      (repeatedField 2 (.message enumValueNumbers ∘ enumValueFields) d.values)
      { name := d.name } d :=
    reads_repeated hvalue (fun values => { d with values }) (fun _ _ => rfl) [] d.values
  exact hname.append hvalues

theorem nestedTypeFields_eq (ds : List MessageDescriptor) :
    nestedTypeFields ds = repeatedField 3 (.message messageNumbers ∘ messageFields) ds := by
  induction ds with
  | nil => rfl
  | cons d ds ih =>
      rw [nestedTypeFields, ih]
      rfl

theorem mergeMessage_eq (limit : Nat) :
    mergeMessage limit = mergeFields limit (messageStep limit (deeper limit mergeMessage)) := by
  cases limit <;> rfl

theorem decodes_message (limit : Nat) :
    Decodes limit messageNumbers messageFields (mergeMessage limit) {} := by
  induction limit using Nat.strong_induction_on with
  | _ limit ih =>
  rw [mergeMessage_eq]
  refine decodes_of_orderly (Kind.orderly limit .message) fun d => ?_
  obtain ⟨name, fields, nestedTypes, enumTypes, options, oneofDecls⟩ := d
  have hname : Reads (Nested limit) (messageStep limit (deeper limit mergeMessage))
      (optionalField 1 .text name) {} { name } :=
    reads_optional readsBack_text (fun name => { name : MessageDescriptor }) (fun _ => rfl) name
  have hfield : ReadsBack (Nested limit) (.message fieldNumbers ∘ fieldFields)
      (nest limit (fun _ => fieldStep) {}) := readsBack_message fun depth _ => decodes_field depth
  have hfields : Reads (Nested limit) (messageStep limit (deeper limit mergeMessage))
      (repeatedField 2 (.message fieldNumbers ∘ fieldFields) fields) { name } { name, fields } :=
    reads_repeated hfield (fun fields => { name, fields : MessageDescriptor })
      (fun _ _ => rfl) [] fields
  have hmessage : ReadsBack (Nested limit) (.message messageNumbers ∘ messageFields)
      (readNested (deeper limit mergeMessage) {}) := by
    refine readsBack_message fun depth hdepth => ih depth ?_
    omega
  have hnestedTypes : Reads (Nested limit) (messageStep limit (deeper limit mergeMessage))
      (nestedTypeFields nestedTypes) { name, fields } { name, fields, nestedTypes } := by
    rw [nestedTypeFields_eq]
    exact reads_repeated hmessage
      (fun nestedTypes => { name, fields, nestedTypes : MessageDescriptor })
      (fun _ _ => rfl) [] nestedTypes
  have henum : ReadsBack (Nested limit) (.message enumNumbers ∘ enumFields)
      (nest limit enumStep {}) := readsBack_message fun depth _ => decodes_enum depth
  have henumTypes : Reads (Nested limit) (messageStep limit (deeper limit mergeMessage))
      (repeatedField 4 (.message enumNumbers ∘ enumFields) enumTypes)
      { name, fields, nestedTypes } { name, fields, nestedTypes, enumTypes } :=
    reads_repeated henum
      (fun enumTypes => { name, fields, nestedTypes, enumTypes : MessageDescriptor })
      (fun _ _ => rfl) [] enumTypes
  have hback : ReadsBack (Nested limit) (.message messageOptionsNumbers ∘ messageOptionsFields)
      (nest limit (fun _ => messageOptionsStep) {}) :=
    readsBack_message fun depth _ => decodes_messageOptions depth
  have hoptions : Reads (Nested limit) (messageStep limit (deeper limit mergeMessage))
      (optionalField 7 (.message messageOptionsNumbers ∘ messageOptionsFields) options)
      { name, fields, nestedTypes, enumTypes } { name, fields, nestedTypes, enumTypes, options } :=
    reads_optional hback
      (fun options => { name, fields, nestedTypes, enumTypes, options : MessageDescriptor })
      (fun _ => rfl) options
  have honeof : ReadsBack (Nested limit) (.message oneofNumbers ∘ oneofFields)
      (nest limit (fun _ => oneofStep) {}) := readsBack_message fun depth _ => decodes_oneof depth
  have honeofDecls : Reads (Nested limit) (messageStep limit (deeper limit mergeMessage))
      (repeatedField 8 (.message oneofNumbers ∘ oneofFields) oneofDecls)
      { name, fields, nestedTypes, enumTypes, options }
      { name, fields, nestedTypes, enumTypes, options, oneofDecls } :=
    reads_repeated honeof
      (fun oneofDecls =>
        { name, fields, nestedTypes, enumTypes, options, oneofDecls : MessageDescriptor })
      (fun _ _ => rfl) [] oneofDecls
  rw [messageFields]
  exact ((((hname.append hfields).append hnestedTypes).append henumTypes).append
    hoptions).append honeofDecls

/-! ## Files -/

theorem decodes_sourceInfo (limit : Nat) :
    Decodes limit sourceInfoNumbers sourceInfoFields (mergeFields limit (sourceInfoStep limit))
      {} := by
  refine decodes_of_orderly (Kind.orderly limit .sourceInfo) fun d => ?_
  have hlocation : ReadsBack (Nested limit) (.message locationNumbers ∘ locationFields)
      (nest limit (fun _ => locationStep) {}) :=
    readsBack_message fun depth _ => decodes_location depth
  exact reads_repeated hlocation (fun locations => { locations : SourceInfo }) (fun _ _ => rfl) []
    d.locations

theorem decodes_file (limit : Nat) :
    Decodes limit fileNumbers fileFields (mergeFields limit (fileStep limit)) {} := by
  refine decodes_of_orderly (Kind.orderly limit .file) fun d => ?_
  have hname : Reads (Nested limit) (fileStep limit) (optionalField 1 .text d.name) {}
      { name := d.name } :=
    reads_optional readsBack_text (fun name => { name : FileDescriptor }) (fun _ => rfl) d.name
  have hpackage : Reads (Nested limit) (fileStep limit) (optionalField 2 .text d.package)
      { name := d.name } { name := d.name, package := d.package } :=
    reads_optional readsBack_text
      (fun package => { name := d.name, package : FileDescriptor }) (fun _ => rfl) d.package
  have hmessage : ReadsBack (Nested limit) (.message messageNumbers ∘ messageFields)
      (readNested (deeper limit mergeMessage) {}) :=
    readsBack_message fun depth _ => decodes_message depth
  have hmessages : Reads (Nested limit) (fileStep limit)
      (repeatedField 4 (.message messageNumbers ∘ messageFields) d.messageTypes)
      { name := d.name, package := d.package }
      { d with enumTypes := [], services := [], sourceInfo := none } :=
    reads_repeated hmessage
      (fun messageTypes =>
        { d with messageTypes, enumTypes := [], services := [], sourceInfo := none })
      (fun _ _ => rfl) [] d.messageTypes
  have henum : ReadsBack (Nested limit) (.message enumNumbers ∘ enumFields)
      (nest limit enumStep {}) := readsBack_message fun depth _ => decodes_enum depth
  have henums : Reads (Nested limit) (fileStep limit)
      (repeatedField 5 (.message enumNumbers ∘ enumFields) d.enumTypes)
      { d with enumTypes := [], services := [], sourceInfo := none }
      { d with services := [], sourceInfo := none } :=
    reads_repeated henum (fun enumTypes => { d with enumTypes, services := [], sourceInfo := none })
      (fun _ _ => rfl) [] d.enumTypes
  have hservice : ReadsBack (Nested limit) (.message serviceNumbers ∘ serviceFields)
      (nest limit serviceStep {}) := readsBack_message fun depth _ => decodes_service depth
  have hservices : Reads (Nested limit) (fileStep limit)
      (repeatedField 6 (.message serviceNumbers ∘ serviceFields) d.services)
      { d with services := [], sourceInfo := none } { d with sourceInfo := none } :=
    reads_repeated hservice (fun services => { d with services, sourceInfo := none })
      (fun _ _ => rfl) [] d.services
  have hback : ReadsBack (Nested limit) (.message sourceInfoNumbers ∘ sourceInfoFields)
      (nest limit sourceInfoStep {}) := readsBack_message fun depth _ => decodes_sourceInfo depth
  have hsourceInfo : Reads (Nested limit) (fileStep limit)
      (optionalField 9 (.message sourceInfoNumbers ∘ sourceInfoFields) d.sourceInfo)
      { d with sourceInfo := none } d :=
    reads_optional hback (fun sourceInfo => { d with sourceInfo }) (fun _ => rfl) d.sourceInfo
  exact ((((hname.append hpackage).append hmessages).append henums).append hservices).append
    hsourceInfo

/-- **Sets of files are read from all their encodings.** -/
theorem decodes_set (limit : Nat) :
    Decodes limit descriptorSetNumbers descriptorSetFields
      (mergeFields limit (descriptorSetStep limit)) {} := by
  refine decodes_of_orderly (Kind.orderly limit .set) fun d => ?_
  have hfile : ReadsBack (Nested limit) (.message fileNumbers ∘ fileFields)
      (nest limit fileStep {}) := readsBack_message fun depth _ => decodes_file depth
  exact reads_repeated hfile (fun files => { files : DescriptorSet }) (fun _ _ => rfl) [] d.files

/-- No bytes are an encoding of two sets. -/
theorem Encodes.set_unique {limit : Nat} {d d' : DescriptorSet} {bytes : List UInt8}
    (h : Encodes limit descriptorSetNumbers (descriptorSetFields d) bytes)
    (h' : Encodes limit descriptorSetNumbers (descriptorSetFields d') bytes) : d = d' := by
  have hread := decodes_set limit d bytes h
  rw [decodes_set limit d' bytes h'] at hread
  exact (Option.some.inj hread).symm

end ClientGen.Wire
