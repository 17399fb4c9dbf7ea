import MessageBus.Message.Basic

namespace MessageBus

/-- Bitwise or of integers, as of two's complement numbers of unbounded width. -/
def bitOr : Int → Int → Int
  | .ofNat x, .ofNat y => .ofNat (x ||| y)
  | .ofNat x, .negSucc y => .negSucc (y ^^^ (y &&& x))
  | .negSucc x, .ofNat y => .negSucc (x ^^^ (x &&& y))
  | .negSucc x, .negSucc y => .negSucc (x &&& y)

/-- A message under construction. -/
structure MessageBuilder where
  kind : Option MessageKind := none
  path : Option Text := none
  interface : Option Text := none
  member : Option Text := none
  destination : Option Text := none
  signature : Text := Text.empty
  body : List Value := []
  flags : Int := 0
  replySerial : Option Int := none
  errorName : Option Text := none

namespace MessageBuilder

/-- Make the message a call of `member`. -/
def call (b : MessageBuilder) (member : Text) : MessageBuilder :=
  { b with kind := some .methodCall, member := some member }

/-- Make the message the reply to the call with serial `serial`. -/
def reply (b : MessageBuilder) (serial : Int) : MessageBuilder :=
  { b with kind := some .methodReturn, replySerial := some serial }

/-- Make the message the error `name` answering the call with serial `serial`. -/
def error (b : MessageBuilder) (serial : Int) (name : Text) : MessageBuilder :=
  { b with kind := some .error, replySerial := some serial, errorName := some name }

/-- Address the message to an object and, optionally, an interface. -/
def on (b : MessageBuilder) (path : Text) (interface : Option Text := none) : MessageBuilder :=
  { b with path := some path, interface }

/-- Send the message to a destination, or to none. -/
def sendTo (b : MessageBuilder) (destination : Option Text) : MessageBuilder :=
  { b with destination }

/-- Give the message a body and its signature. -/
def withBody (b : MessageBuilder) (signature : Text) (values : List Value) : MessageBuilder :=
  { b with signature, body := values }

/-- Set flag bits, keeping those set before. -/
def withFlags (b : MessageBuilder) (flags : Int) : MessageBuilder :=
  { b with flags := bitOr b.flags flags }

/-- The message, once a kind has been given. -/
def build (b : MessageBuilder) : Except String Message :=
  match b.kind with
  | none => .error "Message type not specified"
  | some kind =>
    .ok { kind, path := b.path, interface := b.interface, member := b.member,
          destination := b.destination, signature := b.signature, body := b.body,
          replySerial := b.replySerial, errorName := b.errorName, flags := b.flags }

end MessageBuilder

/-- The bus's own name, object and interface. -/
def busName : Text := Text.ofString "org.freedesktop.DBus"

/-- The object path of the bus itself. -/
def busPath : Text := Text.ofString "/org/freedesktop/DBus"

/-- The interface of the bus itself. -/
def busInterface : Text := Text.ofString "org.freedesktop.DBus"

/-- The interface through which objects describe themselves. -/
def introspectableInterface : Text := Text.ofString "org.freedesktop.DBus.Introspectable"

namespace Message

/-- A call of `member` on an interface of an object at a destination. -/
def methodCall (destination path interface member : Text) (signature : Text := Text.empty)
    (body : List Value := []) : Message :=
  { kind := .methodCall, path := some path, interface := some interface, member := some member,
    destination := some destination, signature, body }

/-- The call by which a connection introduces itself to the bus; the reply gives its unique
name. -/
def hello : Message :=
  methodCall busName busPath busInterface (Text.ofString "Hello")

/-- The call asking an object to describe itself. -/
def introspect (destination path : Text) : Message :=
  methodCall destination path introspectableInterface (Text.ofString "Introspect")

/-- The reply to a call, sent back to its sender. -/
def methodReturn (call : Message) (signature : Text := Text.empty) (body : List Value := []) :
    Message :=
  { kind := .methodReturn, replySerial := some call.serial, destination := call.sender,
    signature, body }

/-- The error `name` answering a call, sent back to its sender, with `text` as its body unless
the text is empty. -/
def errorReply (call : Message) (name : Text) (text : Text := Text.empty) : Message :=
  { kind := .error, replySerial := some call.serial, errorName := some name,
    destination := call.sender,
    signature := if text.isEmpty then Text.empty else Text.ofString "s",
    body := if text.isEmpty then [] else [.str text] }

end Message

end MessageBus
