import ClientGen.Api.Identifier
import ClientGen.Api.SymbolTable
import ClientGen.Schema.Descriptor

/-!
# Registering descriptors

Enters the messages and enums of schema files into a symbol table.  What is nested in a message is
entered before the message itself: a map field is recognised by its entry, which must be in the
table when the field is made.
-/

namespace ClientGen

/-! ## Fields -/

/-- The kind of a field, the element it refers to, and how often it occurs, as far as the wire type
decides.  A repeated field whose type is a map entry is one map. -/
def Field.withWireType (f : Field) (t : SymbolTable) (d : FieldDescriptor) : Field :=
  match d.type.bind fun n => TypeKind.ofNumber? n.toInt with
  | none => { f with kind := .undefined }
  | some .message =>
      let typeId := textOf d.typeName
      let isMap := match t.message? typeId with
        | some m => m.isMap
        | none => false
      { f with
        kind := .message
        typeId := some typeId
        optional := !f.repeated
        repeated := f.repeated && !isMap }
  | some .enum => { f with kind := .enum, typeId := some (textOf d.typeName) }
  | some .group => { f with kind := .group, typeId := some (textOf d.typeName) }
  | some kind => { f with kind := kind }

/-- The index of the group a field is declared in, if the field is a real member. -/
def FieldDescriptor.groupIndex? (d : FieldDescriptor) (groups : Nat) : Option Nat :=
  match d.oneofIndex with
  | none => none
  | some index =>
      if d.proto3Optional.getD false then none
      else if index < 0 then none
      else if index.toInt.toNat < groups then some index.toInt.toNat else none

/-- A field of the message `messageId`, which declares `groups` groups. -/
def Field.ofDescriptor (t : SymbolTable) (messageId : String) (groups : Nat)
    (d : FieldDescriptor) : Field :=
  let start : Field :=
    { id := Identifier.child messageId (textOf d.name)
      name := textOf d.name
      jsonName := textOf d.jsonName
      optional := d.proto3Optional.getD false
      repeated := d.label = some repeatedLabel
      isOneOf := (d.groupIndex? groups).isSome }
  start.withWireType t d

/-! ## Groups -/

/-- The identifiers of the fields declared in the group of an index. -/
def groupMembers (messageId : String) (groups : Nat) (fields : List FieldDescriptor) (index : Nat) :
    List String :=
  (fields.filter fun d => d.groupIndex? groups = some index).map fun d =>
    Identifier.child messageId (textOf d.name)

/-- The groups of a message that have members.  Those without are the artificial groups around an
optional field. -/
def OneOf.ofMessage (messageId : String) (d : MessageDescriptor) : List OneOf :=
  (d.oneofDecls.zipIdx.map fun (decl, index) =>
    ({ id := Identifier.child messageId (textOf decl.name)
       name := textOf decl.name
       parent := messageId
       fields := groupMembers messageId d.oneofDecls.length d.fields index } : OneOf)).filter
    fun group => !group.fields.isEmpty

/-! ## Enums and messages -/

/-- The values of an enum. -/
def EnumValue.ofEnum (enumId : String) (d : EnumDescriptor) : List EnumValue :=
  d.values.map fun v =>
    { name := textOf v.name, number := (v.number.getD 0).toInt, parent := enumId }

/-- The enum of a descriptor. -/
def Enum.ofDescriptor (d : EnumDescriptor) (id package : String) (parent : Option String) : Enum :=
  { id, name := textOf d.name, package, parent, values := EnumValue.ofEnum id d }

/-- Enters an enum. -/
def SymbolTable.registerEnum (t : SymbolTable) (d : EnumDescriptor) (id package : String)
    (parent : Option String) : SymbolTable :=
  t.addEnum (Enum.ofDescriptor d id package parent)

/-- The message of a descriptor, given the table with everything nested in it. -/
def Message.ofDescriptor (t : SymbolTable) (d : MessageDescriptor) (id package : String)
    (parent : Option String) : Message :=
  { id
    name := textOf d.name
    package
    parent
    messages := d.nestedTypes.map fun m => Identifier.child id (textOf m.name)
    enums := d.enumTypes.map fun e => Identifier.child id (textOf e.name)
    oneOfs := OneOf.ofMessage id d
    fields := d.fields.map (Field.ofDescriptor t id d.oneofDecls.length)
    isMap := (d.options.bind (·.mapEntry)).getD false }

/-- Enters the enums declared in a scope. -/
def SymbolTable.registerEnums (t : SymbolTable) (scope package : String) (parent : Option String)
    (ds : List EnumDescriptor) : SymbolTable :=
  ds.foldl (fun t d => t.registerEnum d (Identifier.child scope (textOf d.name)) package parent) t

mutual

/-- Enters a message after everything nested in it. -/
def SymbolTable.registerMessage (t : SymbolTable) (d : MessageDescriptor) (id package : String)
    (parent : Option String) : SymbolTable :=
  match d with
  | ⟨name, fields, nestedTypes, enumTypes, options, oneofDecls⟩ =>
      let t := t.registerMessages nestedTypes id package (some id)
      let t := t.registerEnums id package (some id) enumTypes
      t.addMessage (Message.ofDescriptor t
        ⟨name, fields, nestedTypes, enumTypes, options, oneofDecls⟩ id package parent)

/-- Enters the messages declared in a scope. -/
def SymbolTable.registerMessages (t : SymbolTable) (ds : List MessageDescriptor)
    (scope package : String) (parent : Option String) : SymbolTable :=
  match ds with
  | [] => t
  | d :: ds =>
      (t.registerMessage d (Identifier.child scope (textOf d.name)) package parent).registerMessages
        ds scope package parent

end

/-- Enters the messages and the enums of a file. -/
def SymbolTable.registerFile (t : SymbolTable) (file : FileDescriptor) : SymbolTable :=
  let package := textOf file.package
  let scope := Identifier.ofPackage package
  (t.registerMessages file.messageTypes scope package none).registerEnums scope package none
    file.enumTypes

end ClientGen
