import ClientGen.Schema.Descriptor
import ClientGen.Text.Utf8
import ClientGen.Wire.Token

/-!
# Writing descriptors

A message is written as the list of its fields, each a number with what it holds, in the order of
the numbers.  What is absent is not written, and neither is an empty text where absence and
emptiness are the same.  The numbers of a path are packed into one block.
-/

namespace ClientGen.Wire

/-! ## Fields -/

/-- What a field of a message holds. -/
inductive Content where
  | text (s : String)
  /-- A text that is left out if it is empty. -/
  | plain (s : String)
  | integer (n : Int32)
  | truth (b : Bool)
  | integers (ns : List Int32)
  /-- A message inside the current one, with all the numbers that its fields can have. -/
  | message (declared : List Nat) (fields : List (Nat × Content))

/-- The fields of a message, by their numbers. -/
abbrev Fields := List (Nat × Content)

/-- A signed 32 bit integer, widened to 64 bits with its sign. -/
def widen (n : Int32) : UInt64 :=
  n.toInt64.toUInt64

/-- Some integers, packed into a block. -/
def pack (ns : List Int32) : List UInt8 :=
  ns.flatMap fun n => varint (widen n)

mutual

/-- What a field is written as. -/
def Content.tokens : Content → List Token
  | .text s => [.block (Text.Utf8.encode s)]
  | .plain s => if s.isEmpty then [] else [.block (Text.Utf8.encode s)]
  | .integer n => [.varint (widen n)]
  | .truth b => [.varint (if b then 1 else 0)]
  | .integers ns => if ns.isEmpty then [] else [.block (pack ns)]
  | .message _ fields => [.block (encodeFields fields)]

/-- The bytes of some fields. -/
def encodeFields : List (Nat × Content) → List UInt8
  | [] => []
  | (number, content) :: fields =>
      content.tokens.flatMap (Token.bytes number) ++ encodeFields fields

end

mutual

/-- How deep the messages lie that a field holds. -/
def Content.depth : Content → Nat
  | .message _ fields => depthOf fields + 1
  | _ => 0

/-- How deep the messages lie that some fields hold. -/
def depthOf : List (Nat × Content) → Nat
  | [] => 0
  | (_, content) :: fields => max content.depth (depthOf fields)

end

/-- A field that can be absent. -/
def optionalField {α : Type} (number : Nat) (write : α → Content) (value : Option α) : Fields :=
  value.toList.map fun a => (number, write a)

/-- A field that can stand many times. -/
def repeatedField {α : Type} (number : Nat) (write : α → Content) (values : List α) : Fields :=
  values.map fun a => (number, write a)

/-! ## Descriptors -/

/-- The numbers of the fields of the declaration of a oneof. -/
def oneofNumbers : List Nat := [1]

/-- The fields of the declaration of a oneof. -/
def oneofFields (d : OneofDescriptor) : Fields :=
  optionalField 1 .text d.name

/-- The numbers of the fields of an enum value. -/
def enumValueNumbers : List Nat := [1, 2]

/-- The fields of an enum value. -/
def enumValueFields (d : EnumValueDescriptor) : Fields :=
  optionalField 1 .text d.name ++ optionalField 2 .integer d.number

/-- The numbers of the fields of a field. -/
def fieldNumbers : List Nat := [1, 3, 4, 5, 6, 9, 10, 17]

/-- The fields of a field. -/
def fieldFields (d : FieldDescriptor) : Fields :=
  optionalField 1 .text d.name ++ optionalField 3 .integer d.number ++
    optionalField 4 .integer d.label ++ optionalField 5 .integer d.type ++
    optionalField 6 .text d.typeName ++ optionalField 9 .integer d.oneofIndex ++
    optionalField 10 .text d.jsonName ++ optionalField 17 .truth d.proto3Optional

/-- The numbers of the fields of message options. -/
def messageOptionsNumbers : List Nat := [7]

/-- The fields of message options. -/
def messageOptionsFields (d : MessageOptions) : Fields :=
  optionalField 7 .truth d.mapEntry

/-- The numbers of the fields of service options. -/
def serviceOptionsNumbers : List Nat := [1049]

/-- The fields of service options. -/
def serviceOptionsFields (d : ServiceOptions) : Fields :=
  optionalField 1049 .text d.defaultHost

/-- The numbers of the fields of a custom pattern. -/
def customPatternNumbers : List Nat := [1, 2]

/-- The fields of a custom pattern: a kind and a path. -/
def customPatternFields (d : String × String) : Fields :=
  [(1, .plain d.1), (2, .plain d.2)]

/-- The numbers of the fields of an HTTP rule. -/
def httpRuleNumbers : List Nat := [1, 2, 3, 4, 5, 6, 7, 8]

/-- The field of the pattern of an HTTP rule. -/
def patternField : HttpPattern → Nat × Content
  | .get path => (2, .text path)
  | .put path => (3, .text path)
  | .post path => (4, .text path)
  | .delete path => (5, .text path)
  | .patch path => (6, .text path)
  | .custom kind path => (8, .message customPatternNumbers (customPatternFields (kind, path)))

/-- The fields of an HTTP rule. -/
def httpRuleFields (d : HttpRule) : Fields :=
  (1, .plain d.selector) :: d.pattern.toList.map patternField ++ [(7, .plain d.body)]

/-- The numbers of the fields of method options. -/
def methodOptionsNumbers : List Nat := [72295728]

/-- The fields of method options. -/
def methodOptionsFields (d : MethodOptions) : Fields :=
  optionalField 72295728 (.message httpRuleNumbers ∘ httpRuleFields) d.http

/-- The numbers of the fields of a method. -/
def methodNumbers : List Nat := [1, 2, 3, 4]

/-- The fields of a method. -/
def methodFields (d : MethodDescriptor) : Fields :=
  optionalField 1 .text d.name ++ optionalField 2 .text d.inputType ++
    optionalField 3 .text d.outputType ++
    optionalField 4 (.message methodOptionsNumbers ∘ methodOptionsFields) d.options

/-- The numbers of the fields of a service. -/
def serviceNumbers : List Nat := [1, 2, 3]

/-- The fields of a service. -/
def serviceFields (d : ServiceDescriptor) : Fields :=
  optionalField 1 .text d.name ++
    repeatedField 2 (.message methodNumbers ∘ methodFields) d.methods ++
    optionalField 3 (.message serviceOptionsNumbers ∘ serviceOptionsFields) d.options

/-- The numbers of the fields of an enum. -/
def enumNumbers : List Nat := [1, 2]

/-- The fields of an enum. -/
def enumFields (d : EnumDescriptor) : Fields :=
  optionalField 1 .text d.name ++
    repeatedField 2 (.message enumValueNumbers ∘ enumValueFields) d.values

/-- The numbers of the fields of a message. -/
def messageNumbers : List Nat := [1, 2, 3, 4, 7, 8]

mutual

/-- The fields of a message. -/
def messageFields : MessageDescriptor → List (Nat × Content)
  | ⟨name, fields, nestedTypes, enumTypes, options, oneofDecls⟩ =>
      optionalField 1 .text name ++
        repeatedField 2 (.message fieldNumbers ∘ fieldFields) fields ++
        nestedTypeFields nestedTypes ++
        repeatedField 4 (.message enumNumbers ∘ enumFields) enumTypes ++
        optionalField 7 (.message messageOptionsNumbers ∘ messageOptionsFields) options ++
        repeatedField 8 (.message oneofNumbers ∘ oneofFields) oneofDecls

/-- The fields that hold nested messages. -/
def nestedTypeFields : List MessageDescriptor → List (Nat × Content)
  | [] => []
  | d :: ds => (3, .message messageNumbers (messageFields d)) :: nestedTypeFields ds

end

/-- The numbers of the fields of the comment of an element. -/
def locationNumbers : List Nat := [1, 3]

/-- The fields of the comment of an element. -/
def locationFields (d : Location) : Fields :=
  (1, .integers d.path) :: optionalField 3 .text d.leadingComments

/-- The numbers of the fields of the comments of a file. -/
def sourceInfoNumbers : List Nat := [1]

/-- The fields of the comments of a file. -/
def sourceInfoFields (d : SourceInfo) : Fields :=
  repeatedField 1 (.message locationNumbers ∘ locationFields) d.locations

/-- The numbers of the fields of a file. -/
def fileNumbers : List Nat := [1, 2, 4, 5, 6, 9]

/-- The fields of a file. -/
def fileFields (d : FileDescriptor) : Fields :=
  optionalField 1 .text d.name ++ optionalField 2 .text d.package ++
    repeatedField 4 (.message messageNumbers ∘ messageFields) d.messageTypes ++
    repeatedField 5 (.message enumNumbers ∘ enumFields) d.enumTypes ++
    repeatedField 6 (.message serviceNumbers ∘ serviceFields) d.services ++
    optionalField 9 (.message sourceInfoNumbers ∘ sourceInfoFields) d.sourceInfo

/-- The numbers of the fields of a set of files. -/
def descriptorSetNumbers : List Nat := [1]

/-- The fields of a set of files. -/
def descriptorSetFields (d : DescriptorSet) : Fields :=
  repeatedField 1 (.message fileNumbers ∘ fileFields) d.files

/-- The bytes of a set of descriptors. -/
def encodeDescriptorSet (d : DescriptorSet) : List UInt8 :=
  encodeFields (descriptorSetFields d)

end ClientGen.Wire
