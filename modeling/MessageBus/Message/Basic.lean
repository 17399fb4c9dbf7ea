import MessageBus.Value.Basic
import MessageBus.Signature.Basic

namespace MessageBus

/-- The four kinds of message. -/
inductive MessageKind where
  | methodCall
  | methodReturn
  | error
  | signal
  deriving DecidableEq, Repr, Inhabited

namespace MessageKind

/-- The number of a kind on the wire. -/
def code : MessageKind → Nat
  | .methodCall => 1
  | .methodReturn => 2
  | .error => 3
  | .signal => 4

/-- The kind a wire number stands for. -/
def ofCode? : Nat → Option MessageKind
  | 1 => some .methodCall
  | 2 => some .methodReturn
  | 3 => some .error
  | 4 => some .signal
  | _ => none

/-- The name of a kind. -/
def name : MessageKind → String
  | .methodCall => "METHOD_CALL"
  | .methodReturn => "METHOD_RETURN"
  | .error => "ERROR"
  | .signal => "SIGNAL"

/-- The kind a name stands for. -/
def ofName? (s : String) : Option MessageKind :=
  [MessageKind.methodCall, .methodReturn, .error, .signal].find? (·.name == s)

/-- The kind a number stands for, or the message refusing the number. -/
def ofInt (n : Int) : Except String MessageKind :=
  match ofCode? n.toNat with
  | some kind => .ok kind
  | none => .error s!"{Digits.int n} is not a valid MessageType"

end MessageKind

/-- A message. The serial is given when the message is sent; a reply carries the serial of the
call it answers. -/
structure Message where
  kind : MessageKind
  serial : Int := 0
  flags : Int := 0
  path : Option Text := none
  interface : Option Text := none
  member : Option Text := none
  errorName : Option Text := none
  replySerial : Option Int := none
  destination : Option Text := none
  sender : Option Text := none
  unixFds : Option Int := none
  signature : Text := Text.empty
  body : List Value := []
  deriving Inhabited

/-- The flag bit by which a call asks for no reply. -/
def Message.noReplyExpected : Int := 1

namespace Message

/-- Whether a reply is owed: a call that does not set the no-reply flag. -/
def expectsReply (m : Message) : Bool :=
  m.kind == .methodCall && m.flags % 2 == 0

/-- The first value of the body, or `default` when the body is empty. -/
def first (m : Message) (default : Value := .none) : Value := m.body.head?.getD default

end Message

/-- A header field value: text or an unsigned integer. -/
inductive FieldValue where
  | text (t : Text)
  | number (n : Int)

/-- The header fields, by wire code. -/
inductive HeaderField where
  | path
  | interface
  | member
  | errorName
  | replySerial
  | destination
  | sender
  | signature
  | unixFds
  deriving DecidableEq, Repr

namespace HeaderField

/-- Every header field, in the order of their codes. -/
def all : List HeaderField :=
  [.path, .interface, .member, .errorName, .replySerial, .destination, .sender, .signature,
    .unixFds]

/-- The wire code of a header field. -/
def code : HeaderField → Nat
  | .path => 1
  | .interface => 2
  | .member => 3
  | .errorName => 4
  | .replySerial => 5
  | .destination => 6
  | .sender => 7
  | .signature => 8
  | .unixFds => 9

/-- The header field a code stands for. -/
def ofCode? (c : Nat) : Option HeaderField := all.find? (·.code == c)

/-- The name of a header field. -/
def name : HeaderField → String
  | .path => "path"
  | .interface => "interface"
  | .member => "member"
  | .errorName => "error_name"
  | .replySerial => "reply_serial"
  | .destination => "destination"
  | .sender => "sender"
  | .signature => "signature"
  | .unixFds => "unix_fds"

/-- The basic type a header field's value has. -/
def basic : HeaderField → Basic
  | .path => .objectPath
  | .replySerial => .uint32
  | .signature => .signature
  | .unixFds => .uint32
  | _ => .string

/-- A header field's value in a message, if set. The signature field is always set. -/
def get (m : Message) : HeaderField → Option FieldValue
  | .path => m.path.map .text
  | .interface => m.interface.map .text
  | .member => m.member.map .text
  | .errorName => m.errorName.map .text
  | .replySerial => m.replySerial.map .number
  | .destination => m.destination.map .text
  | .sender => m.sender.map .text
  | .signature => some (.text m.signature)
  | .unixFds => m.unixFds.map .number

/-- A message with one header field set. -/
def set (m : Message) (f : HeaderField) (v : FieldValue) : Message :=
  match f, v with
  | .path, .text t => { m with path := some t }
  | .interface, .text t => { m with interface := some t }
  | .member, .text t => { m with member := some t }
  | .errorName, .text t => { m with errorName := some t }
  | .replySerial, .number n => { m with replySerial := some n }
  | .destination, .text t => { m with destination := some t }
  | .sender, .text t => { m with sender := some t }
  | .signature, .text t => { m with signature := t }
  | .unixFds, .number n => { m with unixFds := some n }
  | _, _ => m

end HeaderField

/-- The header fields a message of a kind must carry, in the order they are checked. -/
def MessageKind.required : MessageKind → List HeaderField
  | .methodCall => [.path, .member]
  | .methodReturn => [.replySerial]
  | .error => [.errorName, .replySerial]
  | .signal => [.path, .interface, .member]

/-- A header field value as a caller's value. -/
def FieldValue.toValue : FieldValue → Value
  | .text t => .str t
  | .number n => .int n

end MessageBus
