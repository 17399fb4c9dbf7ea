import MessageBus.Bus.Registry
import MessageBus.Message.Builder
import MessageBus.Wire.Buffer
import MessageBus.Config.Settings

namespace MessageBus

/-- What comes from the bus on the connection's socket: octets, or the end of the stream. -/
inductive Arrival where
  | data (bytes : ByteArray)
  | hangUp

/-- Octets cut into pieces of at most `size` octets, in order. Each piece but the last takes
`size` octets, so `fuel` pieces are enough when `fuel` is at least the number of octets. -/
def ByteArray.pieces (size : Nat) (bytes : ByteArray) : List ByteArray :=
  go bytes.size 0
where
  go : Nat → Nat → List ByteArray
    | 0, _ => []
    | fuel + 1, start =>
      if start ≥ bytes.size || size = 0 then []
      else bytes.extract start (start + size) :: go fuel (start + size)

/-- The client end of a bus connection. -/
structure Connection where
  settings : Settings
  /-- The guid the bus must show in the handshake, when the address names one. -/
  expected : Option Text := none
  /-- The bus's guid, once the handshake is done. -/
  guid : Option Text := none
  /-- The name the bus gave the connection, from the reply to `Hello`. -/
  uniqueName : Option Value := none
  buffer : FrameBuffer
  replies : ReplyRegistry := {}
  /-- Reported errors no one has taken yet, oldest first. -/
  errors : List BusError := []
  /-- Whether an error handler is installed. -/
  handler : Bool := false
  /-- The errors passed to the error handler, oldest first. -/
  handled : List BusError := []
  /-- Whether reading has stopped, because the connection was lost or closed. -/
  shutdown : Bool := false
  closed : Bool := false

namespace Connection

/-- A fresh connection with the given settings: its buffer takes frames up to the settings'
largest frame, with room for one more read. -/
def create (settings : Settings) (expected : Option Text := none) (handler : Bool := false) :
    Connection :=
  { settings, expected, handler, buffer := FrameBuffer.create settings.maxBuffer settings.readSize }

/-- Report an error: queue it, and pass it to the error handler if there is one. -/
def report (c : Connection) (e : BusError) : Connection :=
  { c with errors := c.errors ++ [e], handled := if c.handler then c.handled ++ [e] else c.handled }

/-- Take every queued error, oldest first. -/
def takeErrors (c : Connection) : List BusError × Connection := (c.errors, { c with errors := [] })

/-- Route one incoming message: a reply finishes the call it answers, an error reply fails it;
an error reply that answers no waiting call is reported. -/
def dispatch (c : Connection) (m : Message) : Connection :=
  match m.kind with
  | .methodReturn =>
    match c.replies.pop (m.replySerial.getD 0) with
    | (some h, replies) => { c with replies := replies.complete h m }
    | (none, _) => c
  | .error =>
    let e := m.remoteError
    match c.replies.pop (m.replySerial.getD 0) with
    | (some h, replies) => { c with replies := replies.fail h e }
    | (none, _) => c.report e
  | _ => c

/-- Dispatch buffered frames while reading goes on, for at most `fuel` frames: stops when no
complete frame is left, or at the first failure, which leaves the buffer as it was. -/
def drainFor : Nat → Connection → Connection × Option FrameError
  | 0, c => (c, none)
  | fuel + 1, c =>
    if c.shutdown then (c, none)
    else
      match c.buffer.pop with
      | .error e => (c, some e)
      | .ok (none, buffer) => ({ c with buffer }, none)
      | .ok (some m, buffer) => drainFor fuel ({ c with buffer }.dispatch m)

/-- Dispatch every complete frame buffered. A frame takes at least one octet, so there are no
more frames than octets. -/
def drain (c : Connection) : Connection × Option FrameError := drainFor (c.buffer.size + 1) c

/-- Buffer octets from the bus and drain: the connection, and the failure that stopped it. -/
def feed (c : Connection) (bytes : ByteArray) : Connection × Option BusError :=
  match c.buffer.append bytes with
  | .error e => (c, some (.frame e))
  | .ok buffer =>
    let (c, e) := { c with buffer }.drain
    (c, e.map .frame)

/-- Lose the connection to a failure of its dispatcher: report the failure, stop reading, and
fail every waiting call. A connection that stopped reading already is left as it is. -/
def lose (c : Connection) (e : BusError) : Connection :=
  if c.shutdown then c
  else
    let c := c.report e
    let (_, replies) := c.replies.close (.closed ("connection lost: " ++ e.message))
    { c with shutdown := true, replies }

/-- Start the dispatcher: it drains what is buffered, and is lost if that fails. -/
def start (c : Connection) : Connection :=
  match c.drain with
  | (c, none) => c
  | (c, some e) => c.lose (.frame e)

/-- The dispatcher reads one piece: it feeds the piece, and is lost at a failure. Nothing is read
once it has stopped. -/
def readPiece (c : Connection) (piece : ByteArray) : Connection :=
  if c.shutdown then c
  else
    match c.feed piece with
    | (c, none) => c
    | (c, some e) => c.lose e

/-- The dispatcher takes what comes from the bus: it reads octets in pieces of the settings'
read size, feeding each piece, and is lost at the first failure or at the end of the stream. -/
def take (c : Connection) : Arrival → Connection
  | .hangUp => c.lose (.closed "the bus closed the connection")
  | .data bytes => (ByteArray.pieces c.settings.readSize.toNat bytes).foldl readPiece c

/-- Register a call under a fresh serial and make its frame. A call that cannot be put on the
wire is taken back, its serial spent. -/
def post (c : Connection) (m : Message) (callback : Option Callback := none) :
    Outcome (Handle × ByteArray) × Connection :=
  match c.replies.register m callback with
  | .failed e => (.failed e, c)
  | .forever => (.forever, c)
  | .ok (h, replies) =>
    let call := ((replies.call? h).map (·.message)).getD m
    match call.marshal (Text.ofString "l") with
    | .error e => (.failed (.marshal e), { c with replies := (replies.discard h).2 })
    | .ok frame => (.ok (h, frame), { c with replies })

/-- Take back a call whose frame could not be written, with the system's description `why`. -/
def abandon (c : Connection) (h : Handle) (m : Message) (why : String) : BusError × Connection :=
  (.closed ("cannot send " ++ m.memberLabel ++ ": " ++ why),
    { c with replies := (c.replies.discard h).2 })

/-- Close the connection: stop reading and fail every waiting call. Closing twice is closing
once. -/
def close (c : Connection) : Connection :=
  if c.closed then c
  else
    let (_, replies) := c.replies.close (.closed "connection closed")
    { c with closed := true, shutdown := true, replies }

/-- What the dispatcher meets each time it looks at the socket: a read that returns octets (none
at all once the bus has hung up), a read that fails with an error of the system, given by kind
and message, or the closing of the connection. -/
inductive Event where
  | read (chunk : ByteArray)
  | readFailed (kind message : String)
  | close

/-- The dispatcher meets one event: it feeds the octets of a read, takes a read of nothing for
the bus hanging up, and is lost when a read fails. -/
def meet (c : Connection) : Event → Connection
  | .read chunk => if chunk.size = 0 then c.take .hangUp else c.readPiece chunk
  | .readFailed kind message => c.lose (.foreign kind message)
  | .close => c.close

/-- The dispatcher's run: it drains what is buffered, then meets the events in order. -/
def serve (c : Connection) (events : List Event) : Connection := events.foldl meet c.start

/-- Wait for the reply of a call, for `timeout` seconds (`none`: without end). -/
def wait (c : Connection) (h : Handle) (timeout : Option Binary64) : Outcome Message × Connection :=
  let (o, replies) := c.replies.wait h timeout
  (o, { c with replies })

/-- Withdraw a call; whether it was still waiting. -/
def cancel (c : Connection) (h : Handle) : Bool × Connection :=
  let (b, replies) := c.replies.cancel h
  (b, { c with replies })

end Connection

end MessageBus
