import MessageBus.Wire.Codec

namespace MessageBus

/-- An error of a bus connection. -/
inductive BusError where
  | connection (message : String)
  | auth (message : String)
  | frame (e : FrameError)
  /-- A message to be sent cannot be put on the wire. -/
  | marshal (e : MarshalError)
  | protocol (message : String)
  | invalidMethod (message : String)
  | invalidArguments (message : String)
  | timeout (message : String)
  | cancelled (serial : Int)
  | closed (reason : String)
  /-- The peer answered a call with the error `name`, and `text` as its description. -/
  | remote (name : Text) (text : Text)
  | foreign (kind message : String)
  deriving Inhabited

namespace BusError

/-- The kind of an error, as the caller's language classes it. -/
def kind : BusError → String
  | .connection _ => "ConnectionError"
  | .auth _ => "AuthError"
  | .frame e => e.kind
  | .marshal e => e.kind
  | .protocol _ => "ProtocolError"
  | .invalidMethod _ => "InvalidMethod"
  | .invalidArguments _ => "InvalidArguments"
  | .timeout _ => "Timeout"
  | .cancelled _ => "Cancelled"
  | .closed _ => "ConnectionClosed"
  | .remote _ _ => "RemoteError"
  | .foreign kind _ => kind

/-- How an error the peer answered with describes itself, its name and text being any values:
`name: text`, or the name alone when the text counts as false. -/
def remoteDescription (name text : Value) : String :=
  if text.truthy then name.plain ++ ": " ++ text.plain else name.plain

/-- The message of an error. A remote error reads `name: text`, or just its name when the text
is empty. -/
def message : BusError → String
  | .connection m | .auth m | .protocol m | .invalidMethod m | .invalidArguments m
  | .timeout m | .closed m => m
  | .frame e => e.message
  | .marshal e => e.message
  | .cancelled serial => s!"call with serial {Digits.int serial} was cancelled"
  | .remote name text => remoteDescription (.str name) (.str text)
  | .foreign _ m => m

/-- Whether the error belongs to the connection's own family, as opposed to one raised by a
caller's code. -/
def isBusError : BusError → Bool
  | .foreign _ _ => false
  | .marshal e => e.kind == "InvalidArguments"
  | _ => true

/-- Whether the error says that octets from the peer do not read as frames: a garbled or an
oversized frame. -/
def isProtocolError : BusError → Bool
  | .protocol _ => true
  | .frame .incomplete => false
  | .frame _ => true
  | _ => false

/-- Whether the error is one after which an introspection is taken to have said nothing: the
peer answered with an error, the answer does not read, or no answer came in time. -/
def leavesObjectBare (e : BusError) : Bool :=
  match e with
  | .remote _ _ | .timeout _ => true
  | _ => e.isProtocolError

end BusError

/-- The error an error reply stands for: its name, and its first body value as the text when the
body's signature starts with a string. -/
def Message.remoteError (m : Message) : BusError :=
  let text := if m.signature.codes.head? == some 115 then
      match m.body.head? with
      | some (.str t) => t
      | _ => Text.empty
    else Text.empty
  .remote (m.errorName.getD Text.empty) text

end MessageBus
