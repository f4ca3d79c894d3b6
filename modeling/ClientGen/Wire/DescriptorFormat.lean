import ClientGen.Schema.Descriptor
import ClientGen.Wire.Record

/-!
# The descriptor format

The field numbers of the descriptor messages, and how each field is read.  A field that stands twice
in a message replaces the first, adds to a list, or is merged into a nested message.  The HTTP rule
and the default host are extensions of the options; they are read like any other field.
-/

namespace ClientGen.Wire

/-! ## Leaves -/

/-- Reads a field into a oneof declaration. -/
def oneofStep (d : OneofDescriptor) (number : Nat) (token : Token) : Step OneofDescriptor :=
  match number with
  | 1 => .known ((readText token).map fun s => { d with name := some s })
  | _ => .unknown

/-- Reads a field into an enum value. -/
def enumValueStep (d : EnumValueDescriptor) (number : Nat) (token : Token) :
    Step EnumValueDescriptor :=
  match number with
  | 1 => .known ((readText token).map fun s => { d with name := some s })
  | 2 => .known ((readInt32 token).map fun n => { d with number := some n })
  | _ => .unknown

/-- Reads a field into a field. -/
def fieldStep (d : FieldDescriptor) (number : Nat) (token : Token) : Step FieldDescriptor :=
  match number with
  | 1 => .known ((readText token).map fun s => { d with name := some s })
  | 3 => .known ((readInt32 token).map fun n => { d with number := some n })
  | 4 => .known ((readInt32 token).map fun n => { d with label := some n })
  | 5 => .known ((readInt32 token).map fun n => { d with type := some n })
  | 6 => .known ((readText token).map fun s => { d with typeName := some s })
  | 9 => .known ((readInt32 token).map fun n => { d with oneofIndex := some n })
  | 10 => .known ((readText token).map fun s => { d with jsonName := some s })
  | 17 => .known ((readBool token).map fun b => { d with proto3Optional := some b })
  | _ => .unknown

/-- Reads a field into message options. -/
def messageOptionsStep (d : MessageOptions) (number : Nat) (token : Token) : Step MessageOptions :=
  match number with
  | 7 => .known ((readBool token).map fun b => { d with mapEntry := some b })
  | _ => .unknown

/-- Reads a field into service options. -/
def serviceOptionsStep (d : ServiceOptions) (number : Nat) (token : Token) : Step ServiceOptions :=
  match number with
  | 1049 => .known ((readText token).map fun s => { d with defaultHost := some s })
  | _ => .unknown

/-- Reads a field into a custom pattern: a kind and a path. -/
def customPatternStep (d : String × String) (number : Nat) (token : Token) :
    Step (String × String) :=
  match number with
  | 1 => .known ((readText token).map fun s => (s, d.2))
  | 2 => .known ((readText token).map fun s => (d.1, s))
  | _ => .unknown

/-- Reads a field into the comment of an element. -/
def locationStep (d : Location) (number : Nat) (token : Token) : Step Location :=
  match number with
  | 1 => .known ((readRepeatedInt32 token).map fun ns => { d with path := d.path ++ ns })
  | 3 => .known ((readText token).map fun s => { d with leadingComments := some s })
  | _ => .unknown

/-! ## Messages of messages -/

/-- Reads a message inside the current one into what is known of it. -/
def nest {α : Type} (limit : Nat) (step : Nat → α → Nat → Token → Step α) (value : α)
    (token : Token) : Option α :=
  readNested (deeper limit fun limit => mergeFields limit (step limit)) value token

/-- The parts of a custom pattern, empty for any other. -/
def customParts : Option HttpPattern → String × String
  | some (.custom kind path) => (kind, path)
  | _ => ("", "")

/-- Reads a field into an HTTP rule.  The last pattern stays. -/
def httpRuleStep (limit : Nat) (d : HttpRule) (number : Nat) (token : Token) : Step HttpRule :=
  match number with
  | 1 => .known ((readText token).map fun s => { d with selector := s })
  | 2 => .known ((readText token).map fun s => { d with pattern := some (.get s) })
  | 3 => .known ((readText token).map fun s => { d with pattern := some (.put s) })
  | 4 => .known ((readText token).map fun s => { d with pattern := some (.post s) })
  | 5 => .known ((readText token).map fun s => { d with pattern := some (.delete s) })
  | 6 => .known ((readText token).map fun s => { d with pattern := some (.patch s) })
  | 7 => .known ((readText token).map fun s => { d with body := s })
  | 8 =>
      .known ((nest limit (fun _ => customPatternStep) (customParts d.pattern) token).map
        fun (kind, path) => { d with pattern := some (.custom kind path) })
  | _ => .unknown

/-- Reads a field into method options. -/
def methodOptionsStep (limit : Nat) (d : MethodOptions) (number : Nat) (token : Token) :
    Step MethodOptions :=
  match number with
  | 72295728 =>
      .known ((nest limit httpRuleStep (d.http.getD {}) token).map
        fun rule => { d with http := some rule })
  | _ => .unknown

/-- Reads a field into a method. -/
def methodStep (limit : Nat) (d : MethodDescriptor) (number : Nat) (token : Token) :
    Step MethodDescriptor :=
  match number with
  | 1 => .known ((readText token).map fun s => { d with name := some s })
  | 2 => .known ((readText token).map fun s => { d with inputType := some s })
  | 3 => .known ((readText token).map fun s => { d with outputType := some s })
  | 4 =>
      .known ((nest limit methodOptionsStep (d.options.getD {}) token).map
        fun o => { d with options := some o })
  | _ => .unknown

/-- Reads a field into a service. -/
def serviceStep (limit : Nat) (d : ServiceDescriptor) (number : Nat) (token : Token) :
    Step ServiceDescriptor :=
  match number with
  | 1 => .known ((readText token).map fun s => { d with name := some s })
  | 2 =>
      .known ((nest limit methodStep {} token).map fun m => { d with methods := d.methods ++ [m] })
  | 3 =>
      .known ((nest limit (fun _ => serviceOptionsStep) (d.options.getD {}) token).map
        fun o => { d with options := some o })
  | _ => .unknown

/-- Reads a field into an enum. -/
def enumStep (limit : Nat) (d : EnumDescriptor) (number : Nat) (token : Token) :
    Step EnumDescriptor :=
  match number with
  | 1 => .known ((readText token).map fun s => { d with name := some s })
  | 2 =>
      .known ((nest limit (fun _ => enumValueStep) {} token).map
        fun v => { d with values := d.values ++ [v] })
  | _ => .unknown

/-- Reads a field into a message, given how nested messages are read. -/
def messageStep (limit : Nat) (mergeNested : MessageDescriptor → List UInt8 →
    Option MessageDescriptor) (d : MessageDescriptor) (number : Nat) (token : Token) :
    Step MessageDescriptor :=
  match number with
  | 1 => .known ((readText token).map fun s => { d with name := some s })
  | 2 =>
      .known ((nest limit (fun _ => fieldStep) {} token).map
        fun f => { d with fields := d.fields ++ [f] })
  | 3 =>
      .known ((readNested mergeNested {} token).map
        fun m => { d with nestedTypes := d.nestedTypes ++ [m] })
  | 4 =>
      .known ((nest limit enumStep {} token).map
        fun e => { d with enumTypes := d.enumTypes ++ [e] })
  | 7 =>
      .known ((nest limit (fun _ => messageOptionsStep) (d.options.getD {}) token).map
        fun o => { d with options := some o })
  | 8 =>
      .known ((nest limit (fun _ => oneofStep) {} token).map
        fun o => { d with oneofDecls := d.oneofDecls ++ [o] })
  | _ => .unknown

/-- Reads a message. -/
def mergeMessage : (limit : Nat) → MessageDescriptor → List UInt8 → Option MessageDescriptor
  | 0 => mergeFields 0 (messageStep 0 fun _ _ => none)
  | limit + 1 => mergeFields (limit + 1) (messageStep (limit + 1) (mergeMessage limit))

/-- Reads a field into the comments of a file. -/
def sourceInfoStep (limit : Nat) (d : SourceInfo) (number : Nat) (token : Token) :
    Step SourceInfo :=
  match number with
  | 1 =>
      .known ((nest limit (fun _ => locationStep) {} token).map
        fun l => { d with locations := d.locations ++ [l] })
  | _ => .unknown

/-- Reads a field into a file. -/
def fileStep (limit : Nat) (d : FileDescriptor) (number : Nat) (token : Token) :
    Step FileDescriptor :=
  match number with
  | 1 => .known ((readText token).map fun s => { d with name := some s })
  | 2 => .known ((readText token).map fun s => { d with package := some s })
  | 4 =>
      .known ((readNested (deeper limit mergeMessage) {} token).map
        fun m => { d with messageTypes := d.messageTypes ++ [m] })
  | 5 =>
      .known ((nest limit enumStep {} token).map
        fun e => { d with enumTypes := d.enumTypes ++ [e] })
  | 6 =>
      .known ((nest limit serviceStep {} token).map
        fun s => { d with services := d.services ++ [s] })
  | 9 =>
      .known ((nest limit sourceInfoStep (d.sourceInfo.getD {}) token).map
        fun i => { d with sourceInfo := some i })
  | _ => .unknown

/-- Reads a field into a set of files. -/
def descriptorSetStep (limit : Nat) (d : DescriptorSet) (number : Nat) (token : Token) :
    Step DescriptorSet :=
  match number with
  | 1 => .known ((nest limit fileStep {} token).map fun f => { d with files := d.files ++ [f] })
  | _ => .unknown

/-- How deep messages may lie inside the outermost one. -/
def depthLimit : Nat := 100

/-- The descriptors that some bytes hold. -/
def decodeDescriptorSet (bytes : List UInt8) : Option DescriptorSet :=
  mergeFields depthLimit (descriptorSetStep depthLimit) {} bytes

end ClientGen.Wire
