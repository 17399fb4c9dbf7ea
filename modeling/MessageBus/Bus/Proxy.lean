import MessageBus.Bus.Error
import MessageBus.Introspection.Data
import MessageBus.Message.Builder
import MessageBus.Signature.Check

namespace MessageBus

/-- A remote object and what its introspection said. -/
structure RemoteObject where
  destination : Text
  path : Text
  introspection : Introspection := .empty

/-- An interface of a remote object. -/
structure RemoteInterface where
  object : RemoteObject
  name : Text
  data : InterfaceData

namespace RemoteObject

/-- The names of the object's interfaces, in code point order. -/
def interfaces (o : RemoteObject) : List Text :=
  (o.introspection.interfaces.map (·.name)).mergeSort (fun a b => !Text.lt b a)

/-- The interface of a name, if the introspection has it. -/
def interface? (o : RemoteObject) (name : Text) : Option RemoteInterface :=
  (o.introspection.interface? name).map (⟨o, name, ·⟩)

end RemoteObject

/-- Arguments with trailing `None`s dropped. -/
def dropTrailingNone (args : List Value) : List Value :=
  (args.reverse.dropWhile (fun v => match v with | .none => true | _ => false)).reverse

namespace RemoteInterface

/-- The method of a name, if the interface declares one. -/
def method? (i : RemoteInterface) (name : Text) : Option MethodData := i.data.method? name

/-- The call of method `name` with arguments `args` through an interface, if there is one: the
method must be declared, and the arguments, trailing `None`s dropped, must fit its input
signature. -/
def callMessage (i : Option RemoteInterface) (name : Text) (args : List Value) :
    Except BusError Message :=
  match i with
  | none => .error (.invalidMethod ("no such interface for method " ++ name.quoted))
  | some i =>
    match i.method? name with
    | none =>
      .error (.invalidMethod ("'" ++ i.name.toString ++ "' has no method '" ++ name.toString ++ "'"))
    | some method =>
      let args := dropTrailingNone args
      let declared := method.inputSignature
      match Signature.validate (.str declared) args with
      | .error e =>
        .error (.invalidArguments (i.name.toString ++ "." ++ name.toString ++ ": " ++ e.message))
      | .ok () =>
        .ok (Message.methodCall i.object.destination i.object.path i.name name declared args)

end RemoteInterface

end MessageBus
