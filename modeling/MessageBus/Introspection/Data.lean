import MessageBus.Xml.Document
import MessageBus.Text.Utf8
import MessageBus.Text.Quoted

namespace MessageBus

/-- The direction of a method argument. -/
inductive Direction where
  | input
  | output
  deriving DecidableEq, Repr

/-- The name of a direction. -/
def Direction.name : Direction → String
  | .input => "in"
  | .output => "out"

/-- One argument of a method. -/
structure Argument where
  name : Option Text
  type : Text
  direction : Direction

/-- A method: its name and arguments. -/
structure MethodData where
  name : Text
  arguments : List Argument

namespace MethodData

/-- The types of the arguments in one direction, one after another. -/
def signature (m : MethodData) (d : Direction) : Text :=
  Text.join ((m.arguments.filter (·.direction == d)).map (·.type))

/-- The signature a call of the method carries. -/
def inputSignature (m : MethodData) : Text := m.signature .input

/-- The signature of the method's reply. -/
def outputSignature (m : MethodData) : Text := m.signature .output

end MethodData

/-- A property's type and access. -/
structure PropertyData where
  type : Text
  access : Text

/-- One interface: its methods, signals and properties. -/
structure InterfaceData where
  name : Text
  methods : List MethodData
  signals : List Text
  properties : List (Text × PropertyData)

/-- The method of a name, if the interface declares one. -/
def InterfaceData.method? (i : InterfaceData) (name : Text) : Option MethodData :=
  i.methods.find? (·.name == name)

/-- What an object says about itself. -/
structure Introspection where
  interfaces : List InterfaceData
  children : List Text

namespace Introspection

/-- The introspection of an object that said nothing: no interfaces, no children. -/
def empty : Introspection := ⟨[], []⟩

/-- Whether the object has any interface. -/
def truthy (d : Introspection) : Bool := !d.interfaces.isEmpty

/-- The interface of a name, if the object has one. -/
def interface? (d : Introspection) (name : Text) : Option InterfaceData :=
  d.interfaces.find? (·.name == name)

/-- Whether the object has an interface of a name. -/
def has (d : Introspection) (name : Text) : Bool := (d.interface? name).isSome

end Introspection

/-- Items with `x` added by its key: in the place of an item with the same key, or at the end. -/
def upsert {α : Type} (key : α → Text) (x : α) (items : List α) : List α :=
  if items.any (fun y => key y == key x) then
    items.map (fun y => if key y == key x then x else y)
  else items ++ [x]

/-- Why introspection data cannot be read. -/
inductive IntrospectionError where
  | undecodable (e : Utf8.DecodeError)
  | unencodable (e : Utf8.EncodeError)
  | malformed
  | rootElement (tag : Text)
  | missingAttribute (element : Text) (attr : String)
  | badDirection (direction : Text)

/-- The kind of an introspection failure, as the caller's language classes it. -/
def IntrospectionError.kind : IntrospectionError → String
  | .undecodable _ => "UnicodeDecodeError"
  | .unencodable _ => "UnicodeEncodeError"
  | _ => "ProtocolError"

/-- The message of an introspection failure. -/
def IntrospectionError.message : IntrospectionError → String
  | .undecodable e => e.message
  | .unencodable e => e.message
  | .malformed => "malformed introspection data"
  | .rootElement tag => "introspection root element is " ++ tag.quoted ++ ", expected node"
  | .missingAttribute element attr =>
    "<" ++ element.toString ++ "> element is missing its " ++ attr ++ " attribute"
  | .badDirection d => "invalid argument direction: " ++ d.quoted

namespace Xml.Element

/-- The value of an attribute the element must have. -/
def required (e : Element) (attr : String) : Except IntrospectionError Text :=
  match e.get attr with
  | some v => .ok v
  | none => .error (.missingAttribute e.tag attr)

/-- Whether the element has a given plain name. -/
def named (e : Element) (tag : String) : Bool := e.tag == Text.ofString tag

/-- The `arg` children of a method, in order. -/
def arguments (e : Element) : Except IntrospectionError (List Argument) :=
  (e.children.filter (·.named "arg")).mapM fun child => do
    let type ← child.required "type"
    let direction ← match child.get "direction" with
      | none => pure Direction.input
      | some d =>
        if d == Text.ofString "in" then pure .input
        else if d == Text.ofString "out" then pure .output
        else throw (.badDirection d)
    pure { name := child.get "name", type, direction }

/-- An `interface` element's contents. -/
def interfaceData (e : Element) : Except IntrospectionError InterfaceData := do
  let name ← e.required "name"
  e.children.foldlM (fun (i : InterfaceData) child =>
    if child.named "method" then do
      let arguments ← child.arguments
      let name ← child.required "name"
      pure { i with methods := upsert (·.name) { name, arguments } i.methods }
    else if child.named "signal" then do
      let name ← child.required "name"
      pure { i with signals := i.signals ++ [name] }
    else if child.named "property" then do
      let name ← child.required "name"
      let type ← child.required "type"
      let access := (child.get "access").getD (Text.ofString "read")
      pure { i with properties := upsert (·.1) (name, { type, access }) i.properties }
    else pure i) { name, methods := [], signals := [], properties := [] }

end Xml.Element

namespace Introspection

/-- Introspection data from a document's text. -/
def parse (text : Text) : Except IntrospectionError Introspection := do
  match Utf8.encode text with
  | .error e => throw (.unencodable e)
  | .ok _ => pure ()
  let root ← match Xml.parse text with
    | some root => pure root
    | none => throw .malformed
  if !root.named "node" then throw (.rootElement root.tag)
  root.children.foldlM (fun (d : Introspection) child =>
    if child.named "interface" then do
      let i ← child.interfaceData
      pure { d with interfaces := upsert (·.name) i d.interfaces }
    else if child.named "node" then
      match child.get "name" with
      | some n => pure (if n.isEmpty then d else { d with children := d.children ++ [n] })
      | none => pure d
    else pure d) empty

/-- Introspection data from a document's UTF-8 octets. -/
def parseOctets (bytes : List UInt8) : Except IntrospectionError Introspection :=
  match Utf8.decode bytes with
  | .error e => .error (.undecodable e)
  | .ok text => parse text

end Introspection

end MessageBus
