import MessageBus.Bus.Session

namespace MessageBus

/-- Where a daemon is in its conversation with the client. -/
inductive DaemonPhase where
  /-- Waiting for the client's first handshake line. -/
  | greeting
  /-- It sent `OK` and waits for `BEGIN`. -/
  | beginning
  /-- It refused the client, and only reads. -/
  | refused
  | frames
  /-- It shut its socket. -/
  | gone
  /-- It stopped on a call it could not handle. -/
  | stopped
  deriving DecidableEq

/-- The answer a daemon gives the client's handshake line by default. -/
def Daemon.defaultAnswer : List UInt8 :=
  Utf8.ofString "OK 0123456789abcdef0123456789abcdef\r\n"

/-- A bus daemon in miniature. -/
structure Daemon where
  /-- The introspection data of each object path. -/
  objects : List (Text × Text)
  /-- What it answers the client's handshake line with, line end and any octets after it
  included. -/
  answer : List UInt8 := Daemon.defaultAnswer
  phase : DaemonPhase := .greeting
  /-- Octets received and not yet taken as a line or a frame. -/
  received : List UInt8 := []
  /-- The handshake lines received, without their line ends and leading NUL. -/
  lines : List (List UInt8) := []
  /-- Octets sent during the handshake and not yet read by the client. -/
  unread : List UInt8 := []
  /-- The serial of its next message. -/
  next : Int := 1

namespace Daemon

/-- The daemon after the client's second handshake line: frames flow after `BEGIN`, and any
other line stops it. -/
def begin (d : Daemon) (line rest : List UInt8) : Daemon :=
  { d with received := rest, lines := d.lines ++ [line],
           phase := if line == Utf8.ofString "BEGIN" then .frames else .stopped }

/-- Take handshake lines from the octets received, as far as the phase asks for them. -/
def hear (d : Daemon) : Daemon :=
  match d.phase with
  | .greeting =>
    match Auth.lineEnd? d.received with
    | none => d
    | some (0 :: line, rest) =>
      let accepted := d.answer.take 2 == [79, 75]
      let d := { d with received := rest, lines := d.lines ++ [line], unread := d.unread ++ d.answer,
                        phase := if accepted then .beginning else .refused }
      if accepted then
        match Auth.lineEnd? d.received with
        | some (line, rest) => d.begin line rest
        | none => d
      else d
    | some _ => { d with phase := .stopped }
  | .beginning =>
    match Auth.lineEnd? d.received with
    | some (line, rest) => d.begin line rest
    | none => d
  | .refused => { d with received := [] }
  | _ => d

/-- The daemon's end of the socket during the handshake. -/
def socket : Socket Daemon where
  send d bytes := ((({ d with received := d.received ++ bytes } : Daemon)).hear, none)
  recv d n :=
    if d.unread.isEmpty then
      if d.phase = .gone then (d, .data []) else (d, .timedOut)
    else ({ d with unread := d.unread.drop n }, .data (d.unread.take n))
  timeout _ := none
  setTimeout d _ := d

/-- Send a reply to `call` under the next serial; a reply that cannot be put on the wire is
replaced by the error `com.example.Error.Internal` with the reason, under the serial after. -/
def reply (d : Daemon) (call m : Message) : Daemon × List Arrival :=
  match { m with serial := d.next }.marshal (Text.ofString "l") with
  | .ok bytes => ({ d with next := d.next + 1 }, [.data bytes])
  | .error e =>
    let internal := Message.errorReply call (Text.ofString "com.example.Error.Internal")
      (Text.ofString e.message)
    let d := { d with next := d.next + 2 }
    match { internal with serial := d.next - 1 }.marshal (Text.ofString "l") with
    | .ok bytes => (d, [.data bytes])
    | .error _ => (d, [])

/-- A value as a binary64 number, for sums: truth values and integers convert, when they fit. -/
def asFloat? : Value → Option Binary64
  | .float x => some x
  | .int n => Binary64.ofInt? n
  | .bool b => some (Binary64.ofDecimal false (if b then 1 else 0) 0)
  | _ => none

/-- The sum of two values as the demonstration interface adds them: integers add (a truth value
counting as one or zero), a binary64 number with a number gives their binary64 sum, and texts,
byte strings, lists and tuples join. Other values have no sum. -/
def plus? : Value → Value → Option Value
  | .str a, .str b => some (.str (a ++ b))
  | .bytes a, .bytes b => some (.bytes (a ++ b))
  | .list a, .list b => some (.list (a ++ b))
  | .tuple a, .tuple b => some (.tuple (a ++ b))
  | a, b =>
    let whole : Value → Option Int := fun v => match v with
      | .int n => some n
      | .bool t => some (if t then 1 else 0)
      | _ => none
    match whole a, whole b with
    | some x, some y => some (.int (x + y))
    | _, _ =>
      let isNumber : Value → Bool := fun v => match v with
        | .int _ | .bool _ | .float _ => true
        | _ => false
      if isNumber a && isNumber b then
        match asFloat? a, asFloat? b with
        | some x, some y => some (.float ⟨(Float.ofBits x.bits + Float.ofBits y.bits).toBits⟩)
        | _, _ => none
      else none

/-- Answer one method call by its member. -/
def answerCall (d : Daemon) (call : Message) : Daemon × List Arrival :=
  let ret (signature : String) (body : List Value) : Message :=
    Message.methodReturn call (Text.ofString signature) body
  let err (name text : String) : Message :=
    Message.errorReply call (Text.ofString name) (Text.ofString text)
  let stop : Daemon × List Arrival := ({ d with phase := .stopped }, [])
  match (call.member.map Text.toString).getD "", call.body with
  | "Hello", _ => d.reply call (ret "s" [Value.ofString ":1.42"])
  | "Introspect", _ =>
    let path := call.path.getD Text.empty
    match (d.objects.find? (·.1 == path)).map Prod.snd with
    | some xml => d.reply call (ret "s" [.str xml])
    | none => d.reply call (err "org.freedesktop.DBus.Error.UnknownObject"
        ("no object at " ++ path.toString))
  | "Ping", v :: _ => d.reply call (ret "s" [v])
  | "Add", a :: b :: _ =>
    match plus? a b with
    | some sum => d.reply call (ret "i" [sum])
    | none => stop
  | "Fail", _ => d.reply call (err "com.example.Error.Failed" "failed on purpose")
  | "Twice", _ =>
    let (d, first) := d.reply call (ret "s" [Value.ofString "first"])
    let (d, second) := d.reply call (ret "s" [Value.ofString "second"])
    (d, first ++ second)
  | "Silent", _ => (d, [])
  | "Garbage", _ => (d, [.data ⟨(List.replicate 32 (88 : UInt8)).toArray⟩])
  | "Inject", .bytes raw :: _ =>
    let (d, empty) := d.reply call (ret "" [])
    (d, .data raw :: empty)
  | "HangUp", _ => ({ d with phase := .gone }, [.hangUp])
  | "Ping", _ | "Add", _ | "Inject", _ => stop
  | member, _ => d.reply call (err "org.freedesktop.DBus.Error.UnknownMethod" member)

/-- Answer the frames received, in order, for at most `fuel` frames; a frame takes at least one
octet. -/
def serve : Nat → Daemon → Daemon × List Arrival
  | 0, d => (d, [])
  | fuel + 1, d =>
    if d.phase != .frames then (d, [])
    else
      match Message.unmarshal ⟨d.received.toArray⟩ with
      | .error .incomplete => (d, [])
      | .error _ => ({ d with phase := .stopped }, [])
      | .ok (m, used) =>
        let d := { d with received := d.received.drop used }
        let (d, first) := if m.kind == .methodCall then d.answerCall m else (d, [])
        let (d, rest) := serve fuel d
        (d, first ++ rest)

/-- Take a frame the client writes and answer what it completes. Writing to a daemon that shut
its socket fails. -/
def accept (d : Daemon) (frame : ByteArray) : Daemon × Except String (List Arrival) :=
  if d.phase = .gone then (d, .error "[Errno 32] Broken pipe")
  else
    let d := { d with received := d.received ++ frame.toList }
    let (d, arrivals) := serve (d.received.length + 1) d
    (d, .ok arrivals)

/-- The daemon as a peer. -/
def peer : Peer Daemon := ⟨accept⟩

end Daemon

end MessageBus
