import MessageBus.Bus.Connection
import MessageBus.Bus.Proxy
import MessageBus.Transport.Address
import MessageBus.Transport.Auth

namespace MessageBus

/-- The far end of a connection, as an operation on its state `π`. -/
structure Peer (π : Type) where
  /-- Take the octets the client writes: what the far end sends back, in order, or why the
  write failed, as the system describes it. -/
  accept : π → ByteArray → π × Except String (List Arrival)

/-- How what the far end sends reaches the connection. -/
inductive Intake where
  /-- Each arrival is buffered and drained at once; a failure is set aside. -/
  | direct
  /-- A dispatcher reads arrivals in pieces; its first failure loses the connection. -/
  | dispatcher

/-- A connection and its far end. -/
structure Session (π : Type) where
  conn : Connection
  peer : Peer π
  /-- The far end's state. -/
  state : π
  intake : Intake
  /-- The failures of direct intake, oldest first. -/
  faults : List BusError := []
  /-- What the far end sent that the dispatcher has not read yet, in order. -/
  inFlight : List Arrival := []

namespace Session

variable {π : Type}

/-- Open a session to the first entry of a bus address that `dial` connects to: the guid the
entry names, if any, is the one the handshake must show. -/
def connect (dial : Text → Except String π) (address : Text) (settings : Settings) (peer : Peer π)
    (intake : Intake) (handler : Bool := false) : Except BusError (Session π) :=
  (connectAddress dial address).map fun (state, entry) =>
    { conn := Connection.create settings entry.guid handler, peer, state, intake }

/-- Let what the far end sent reach the connection: at once with direct intake, and into the
socket for the dispatcher to read. -/
def deliver (s : Session π) (arrivals : List Arrival) : Session π :=
  match s.intake with
  | .direct =>
    arrivals.foldl (fun s a =>
      match a with
      | .data bytes =>
        let (conn, e) := s.conn.feed bytes
        { s with conn, faults := s.faults ++ e.toList }
      | .hangUp => s) s
  | .dispatcher => { s with inFlight := s.inFlight ++ arrivals }

/-- Let the dispatcher read everything the far end has sent. -/
def settle (s : Session π) : Session π :=
  { s with conn := s.inFlight.foldl Connection.take s.conn, inFlight := [] }

/-- Buffer octets from the far end as they arrive. -/
def feed (s : Session π) (bytes : ByteArray) : Session π := s.deliver [.data bytes]

/-- Send a call: register it, write its frame, and take in what the far end sends back. A
write that fails takes the call back and closes nothing. -/
def send (s : Session π) (m : Message) (callback : Option Callback := none) :
    Outcome Handle × Session π :=
  match s.conn.post m callback with
  | (.failed e, conn) => (.failed e, { s with conn })
  | (.forever, conn) => (.forever, { s with conn })
  | (.ok (h, frame), conn) =>
    match s.peer.accept s.state frame with
    | (state, .error why) =>
      let (e, conn) := conn.abandon h m why
      (.failed e, { s with conn, state })
    | (state, .ok arrivals) => (.ok h, { s with conn, state }.deliver arrivals)

/-- Wait for the reply of a call, for `timeout` seconds (`none`: without end), once the
dispatcher has read what the far end sent. -/
def wait (s : Session π) (h : Handle) (timeout : Option Binary64) : Outcome Message × Session π :=
  let s := s.settle
  let (o, conn) := s.conn.wait h timeout
  (o, { s with conn })

/-- Send a call and wait for its reply. -/
def sendSync (s : Session π) (m : Message) (callback : Option Callback := none)
    (timeout : Option Binary64) : Outcome Message × Session π :=
  match s.send m callback with
  | (.failed e, s) => (.failed e, s)
  | (.forever, s) => (.forever, s)
  | (.ok h, s) => s.wait h timeout

/-- What an introspection reply says: its first value read as introspection data. A reply
that is not text, or text that does not read, says nothing; text that cannot be encoded is an
error. -/
def introspectionOf (reply : Message) : Except BusError Introspection :=
  match reply.first with
  | .str t =>
    match Introspection.parse t with
    | .ok d => .ok d
    | .error e =>
      if e.kind == "ProtocolError" then .ok .empty else .error (.foreign e.kind e.message)
  | _ => .ok .empty

/-- Look up a remote object by introspection. An introspection that fails by an error reply, an
unreadable answer or a time-out leaves the object without interfaces; other failures are
errors. -/
def getObject (s : Session π) (destination path : Text) (timeout : Option Binary64) :
    Outcome RemoteObject × Session π :=
  let object (d : Introspection) : RemoteObject := { destination, path, introspection := d }
  match s.sendSync (Message.introspect destination path) none timeout with
  | (.ok reply, s) =>
    match introspectionOf reply with
    | .ok d => (.ok (object d), s)
    | .error e => (.failed e, s)
  | (.failed e, s) => if e.leavesObjectBare then (.ok (object .empty), s) else (.failed e, s)
  | (.forever, s) => (.forever, s)

/-- Call method `name` through an interface, if there is one, and wait for the reply. -/
def callMethod (s : Session π) (i : Option RemoteInterface) (name : Text) (args : List Value)
    (callback : Option Callback := none) (timeout : Option Binary64) :
    Outcome Message × Session π :=
  match RemoteInterface.callMessage i name args with
  | .error e => (.failed e, s)
  | .ok m => s.sendSync m callback timeout

/-- Close the connection. -/
def close (s : Session π) : Session π := { s with conn := s.conn.close }

/-- Set the connection up: run the handshake over `sock`, buffer what the bus sent after it,
start the dispatcher, and introduce the connection with `Hello`, whose reply names it. A
failure closes the connection. -/
def setUp (s : Session π) (sock : Socket π) (uid : Value) : Outcome Unit × Session π :=
  let fail (e : BusError) (s : Session π) : Outcome Unit × Session π := (.failed e, s.close)
  match authenticate sock s.state s.conn.expected uid s.conn.settings with
  | (state, .error e) => fail e { s with state }
  | (state, .ok (guid, leftover)) =>
    let s := { s with state, conn := { s.conn with guid := some guid } }
    let buffered : Except BusError Connection :=
      if leftover.isEmpty then .ok s.conn
      else
        match s.conn.buffer.append ⟨leftover.toArray⟩ with
        | .error e => .error (.frame e)
        | .ok buffer => .ok { s.conn with buffer }
    match buffered with
    | .error e => fail e s
    | .ok conn =>
      let s := { s with conn := conn.start }
      match s.sendSync Message.hello none s.conn.settings.timeout with
      | (.ok reply, s) => (.ok (), { s with conn := { s.conn with uniqueName := some reply.first } })
      | (.failed e, s) => fail e s
      | (.forever, s) => (.forever, s)

end Session

end MessageBus
