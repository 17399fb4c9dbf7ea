import MessageBus.Bus.Error
import MessageBus.Decimal.Format

namespace MessageBus

/-- The largest serial; after it, serials start again from one. -/
def serialMax : Int := 0xFFFFFFFF

/-- A reply callback, as far as the registry can see it: it runs with the reply, and may raise
an error. -/
structure Callback where
  raises : Option BusError := none

/-- A registered call and what became of it. -/
structure PendingReply where
  /-- The call, carrying its serial. -/
  message : Message
  callback : Option Callback := none
  response : Option Message := none
  error : Option BusError := none
  /-- Whether the call is finished: completed or failed. -/
  done : Bool := false

namespace PendingReply

/-- The serial of the call. -/
def serial (p : PendingReply) : Int := p.message.serial

/-- Finish the call with its reply, after running its callback. -/
def complete (p : PendingReply) (reply : Message) : PendingReply :=
  let error := match p.callback with
    | some { raises := some e } => some e
    | _ => p.error
  { p with error, response := some reply, done := true }

/-- Finish the call with an error. -/
def fail (p : PendingReply) (e : BusError) : PendingReply :=
  { p with error := some e, done := true }

end PendingReply

/-- A handle on a registered call. -/
abbrev Handle := Nat

/-- The calls registered on a connection. -/
structure ReplyRegistry where
  /-- Every call ever registered, by handle. -/
  calls : List PendingReply := []
  /-- The calls waiting for their reply: serial and handle, in the order registered. -/
  waiting : List (Int × Handle) := []
  /-- The serial the counter gives next. -/
  next : Int := 1
  /-- The error the registry was closed with. -/
  closed : Option BusError := none
  /-- The callbacks run so far: the call's handle and the reply. -/
  ran : List (Handle × Message) := []

/-- What an operation that may wait for a reply comes to: its result, an error, or no return
at all, when it waits for a reply that no one will give. -/
inductive Outcome (α : Type) where
  | ok (a : α)
  | failed (e : BusError)
  | forever

/-- How a message names its member in error messages: the member, or `None`. -/
def Message.memberLabel (m : Message) : String :=
  match m.member with
  | some t => t.toString
  | none => "None"

namespace ReplyRegistry

/-- The number of calls waiting. -/
def size (r : ReplyRegistry) : Nat := r.waiting.length

/-- Whether a call with a serial is waiting. -/
def contains (r : ReplyRegistry) (serial : Int) : Bool := r.waiting.any (·.1 == serial)

/-- The call of a handle. -/
def call? (r : ReplyRegistry) (h : Handle) : Option PendingReply := r.calls[h]?

/-- The registry with the call of a handle changed. -/
def modify (r : ReplyRegistry) (h : Handle) (f : PendingReply → PendingReply) : ReplyRegistry :=
  { r with calls := r.calls.modify h f }

/-- The next free serial and the counter after it. A serial past `serialMax` restarts the count
at one; a serial still waiting is skipped. A free serial, when there is one, is found after at
most one restart and one skip per waiting call, which the count `fuel` allows for; when the
count runs out every serial is waiting, and the search would go on for ever. -/
def freshSerial (waiting : List (Int × Handle)) : Nat → Int → Option (Int × Int)
  | 0, _ => none
  | fuel + 1, next =>
    if next > serialMax then freshSerial waiting fuel 1
    else if waiting.any (·.1 == next) then freshSerial waiting fuel (next + 1)
    else some (next, next + 1)

/-- Register a call with a fresh serial: the handle, and the registry. A closed registry
refuses the call, and one in which every serial is waiting never gives one. -/
def register (r : ReplyRegistry) (m : Message) (callback : Option Callback := none) :
    Outcome (Handle × ReplyRegistry) :=
  match r.closed with
  | some e => .failed (.closed e.message)
  | none =>
    match freshSerial r.waiting (r.waiting.length + 3) r.next with
    | none => .forever
    | some (serial, next) =>
      let h := r.calls.length
      .ok (h, { r with calls := r.calls ++ [{ message := { m with serial }, callback }],
                       waiting := r.waiting ++ [(serial, h)], next })

/-- Take the call with a serial out of the registry, if it is waiting. -/
def pop (r : ReplyRegistry) (serial : Int) : Option Handle × ReplyRegistry :=
  match r.waiting.find? (·.1 == serial) with
  | some (_, h) => (some h, { r with waiting := r.waiting.filter (·.1 != serial) })
  | none => (none, r)

/-- Take the call of a handle out of the registry, if it is still waiting; whether it was. -/
def discard (r : ReplyRegistry) (h : Handle) : Bool × ReplyRegistry :=
  match r.call? h with
  | none => (false, r)
  | some p =>
    if r.waiting.contains (p.serial, h) then
      (true, { r with waiting := r.waiting.filter (·.1 != p.serial) })
    else (false, r)

/-- Complete the call of a handle with its reply, running its callback. -/
def complete (r : ReplyRegistry) (h : Handle) (reply : Message) : ReplyRegistry :=
  match r.call? h with
  | none => r
  | some p =>
    let r := if p.callback.isSome then { r with ran := r.ran ++ [(h, reply)] } else r
    r.modify h (·.complete reply)

/-- Fail the call of a handle. -/
def fail (r : ReplyRegistry) (h : Handle) (e : BusError) : ReplyRegistry := r.modify h (·.fail e)

/-- Whether the call of a handle is finished. -/
def poll (r : ReplyRegistry) (h : Handle) : Bool := (r.call? h).any (·.done)

/-- Withdraw a call: if it was still waiting, it fails as cancelled. Whether it was. -/
def cancel (r : ReplyRegistry) (h : Handle) : Bool × ReplyRegistry :=
  match r.discard h with
  | (true, r) =>
    let serial := ((r.call? h).map (·.serial)).getD 0
    (true, r.fail h (.cancelled serial))
  | (false, r) => (false, r)

/-- Close the registry with an error: the first error it is closed with is kept for refusing
new calls, and every waiting call fails with the given error. The failed calls' handles. -/
def close (r : ReplyRegistry) (e : BusError) : List Handle × ReplyRegistry :=
  let failed := r.waiting.map (·.2)
  let r := { r with closed := r.closed.orElse (fun _ => some e), waiting := [] }
  (failed, failed.foldl (fun r h => r.fail h e) r)

/-- What a finished call gives its caller. -/
def outcome (p : PendingReply) : Outcome Message :=
  match p.error, p.response with
  | some e, _ => .failed e
  | none, some m => .ok m
  | none, none => .forever

/-- Wait for the reply of a call that no one will finish any more: a finished call gives its
outcome; an unfinished one waiting for `timeout` seconds (`none`: without end) is withdrawn and
times out, unless someone else withdrew it, in which case it never returns. -/
def wait (r : ReplyRegistry) (h : Handle) (timeout : Option Binary64) :
    Outcome Message × ReplyRegistry :=
  match r.call? h with
  | none => (.forever, r)
  | some p =>
    if p.done then (outcome p, r)
    else
      match timeout with
      | none => (.forever, r)
      | some seconds =>
        match r.discard h with
        | (true, r) =>
          let waited := Binary64.fixed 2 seconds
          (.failed (.timeout (p.message.memberLabel ++
            s!": no reply to serial {Digits.int p.serial} in {waited} sec")), r)
        | (false, r) => (.forever, r)

end ReplyRegistry

end MessageBus
