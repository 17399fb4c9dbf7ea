import Mathlib
import MessageBus.Proofs.Wire.Chunking
import MessageBus.Proofs.Replies.Correlation

namespace MessageBus

namespace Connection

@[simp] theorem buffer_dispatch (c : Connection) (m : Message) : (c.dispatch m).buffer = c.buffer := by
  unfold dispatch report
  split <;> (try split) <;> rfl

@[simp] theorem shutdown_dispatch (c : Connection) (m : Message) : (c.dispatch m).shutdown = c.shutdown := by
  unfold dispatch report
  split <;> (try split) <;> rfl

@[simp] theorem closed_dispatch (c : Connection) (m : Message) : (c.dispatch m).closed = c.closed := by
  unfold dispatch report
  split <;> (try split) <;> rfl

theorem dispatch_buffer (c : Connection) (b : FrameBuffer) (m : Message) :
    ({ c with buffer := b } : Connection).dispatch m = { c.dispatch m with buffer := b } := by
  cases popped : c.replies.pop (m.replySerial.getD 0) with
  | mk taken r => cases kind : m.kind <;> cases taken <;> simp [dispatch, report, kind, popped]

theorem foldl_dispatch_buffer (ms : List Message) (c : Connection) (b : FrameBuffer) :
    ms.foldl dispatch { c with buffer := b } = { ms.foldl dispatch c with buffer := b } := by
  induction ms generalizing c with
  | nil => rfl
  | cons m rest ih => rw [List.foldl_cons, dispatch_buffer, ih, List.foldl_cons]

/-- What dispatching one message keeps, dispatching any messages keeps. -/
theorem foldl_dispatch_keeps {β : Type} (view : Connection → β) (keeps : ∀ c m, view (c.dispatch m) = view c)
    (ms : List Message) (c : Connection) : view (ms.foldl dispatch c) = view c := by
  induction ms generalizing c with
  | nil => rfl
  | cons m rest ih => rw [List.foldl_cons, ih, keeps]

@[simp] theorem shutdown_foldl_dispatch (ms : List Message) (c : Connection) :
    (ms.foldl dispatch c).shutdown = c.shutdown :=
  foldl_dispatch_keeps shutdown shutdown_dispatch ms c

@[simp] theorem closed_foldl_dispatch (ms : List Message) (c : Connection) :
    (ms.foldl dispatch c).closed = c.closed :=
  foldl_dispatch_keeps closed closed_dispatch ms c

theorem drainFor_of_pop_error {c : Connection} {e : FrameError} (up : c.shutdown = false)
    (popped : c.buffer.pop = .error e) (fuel : Nat) : c.drainFor (fuel + 1) = (c, some e) := by
  simp only [drainFor, up, popped, Bool.false_eq_true, if_false]

theorem drainFor_of_pop_none {c : Connection} {b : FrameBuffer} (up : c.shutdown = false)
    (popped : c.buffer.pop = .ok (none, b)) (fuel : Nat) : c.drainFor (fuel + 1) = ({ c with buffer := b }, none) := by
  simp only [drainFor, up, popped, Bool.false_eq_true, if_false]

theorem drainFor_of_pop_some {c : Connection} {b : FrameBuffer} {m : Message} (up : c.shutdown = false)
    (popped : c.buffer.pop = .ok (some m, b)) (fuel : Nat) :
    c.drainFor (fuel + 1) = drainFor fuel ({ c with buffer := b }.dispatch m) := by
  simp only [drainFor, up, popped, Bool.false_eq_true, if_false]

/-- With enough fuel, a reading dispatcher drains its buffer by dispatching every message popping
gives, in order, and keeps what is left. -/
theorem drainFor_of_ok {c : Connection} {fuel : Nat} {ms : List Message} {left : FrameBuffer}
    (up : c.shutdown = false) (enough : c.buffer.size < fuel) (drained : c.buffer.popAll = (ms, .ok left)) :
    c.drainFor fuel = ({ ms.foldl dispatch c with buffer := left }, none) := by
  obtain ⟨b, held⟩ : ∃ b, c.buffer = b := ⟨_, rfl⟩
  rw [held] at enough drained
  induction b using FrameBuffer.popAll.induct generalizing c fuel ms with
  | case1 b e popped =>
    rw [FrameBuffer.popAll_of_error popped] at drained
    cases drained
  | case2 b stays popped =>
    rw [FrameBuffer.popAll_of_none popped] at drained
    cases drained
    obtain rfl := FrameBuffer.pop_none popped
    obtain ⟨fuel, rfl⟩ : ∃ f, fuel = f + 1 := ⟨fuel - 1, by omega⟩
    rw [drainFor_of_pop_none up (held ▸ popped), ← held]
    rfl
  | case3 b m next popped ih =>
    rw [FrameBuffer.popAll_of_some popped] at drained
    obtain ⟨rfl, rest⟩ := Prod.mk.inj drained
    obtain ⟨fuel, rfl⟩ : ∃ f, fuel = f + 1 := ⟨fuel - 1, by omega⟩
    have shrinks := FrameBuffer.size_pop_lt popped
    rw [drainFor_of_pop_some up (held ▸ popped), @ih (({ c with buffer := next } : Connection).dispatch m) fuel _
      (by simp [up]) (Prod.ext rfl rest) (by omega) (by simp), dispatch_buffer, foldl_dispatch_buffer]
    rfl

/-- With enough fuel, a reading dispatcher that meets a failure has dispatched every message
popped before it. -/
theorem drainFor_of_error {c : Connection} {fuel : Nat} {ms : List Message} {e : FrameError}
    (up : c.shutdown = false) (enough : c.buffer.size < fuel) (drained : c.buffer.popAll = (ms, .error e)) :
    ∃ b, c.drainFor fuel = ({ ms.foldl dispatch c with buffer := b }, some e) := by
  obtain ⟨b, held⟩ : ∃ b, c.buffer = b := ⟨_, rfl⟩
  rw [held] at enough drained
  induction b using FrameBuffer.popAll.induct generalizing c fuel ms with
  | case1 b failure popped =>
    rw [FrameBuffer.popAll_of_error popped] at drained
    cases drained
    obtain ⟨fuel, rfl⟩ : ∃ f, fuel = f + 1 := ⟨fuel - 1, by omega⟩
    refine ⟨c.buffer, ?_⟩
    rw [drainFor_of_pop_error up (held ▸ popped)]
    rfl
  | case2 b stays popped =>
    rw [FrameBuffer.popAll_of_none popped] at drained
    cases drained
  | case3 b m next popped ih =>
    rw [FrameBuffer.popAll_of_some popped] at drained
    obtain ⟨rfl, rest⟩ := Prod.mk.inj drained
    obtain ⟨fuel, rfl⟩ : ∃ f, fuel = f + 1 := ⟨fuel - 1, by omega⟩
    have shrinks := FrameBuffer.size_pop_lt popped
    obtain ⟨stuck, drains⟩ := @ih (({ c with buffer := next } : Connection).dispatch m) fuel _ (by simp [up])
      (Prod.ext rfl rest) (by omega) (by simp)
    refine ⟨stuck, ?_⟩
    rw [drainFor_of_pop_some up (held ▸ popped), drains, dispatch_buffer, foldl_dispatch_buffer]
    rfl

theorem drain_of_ok {c : Connection} {ms : List Message} {left : FrameBuffer} (up : c.shutdown = false)
    (drained : c.buffer.popAll = (ms, .ok left)) : c.drain = ({ ms.foldl dispatch c with buffer := left }, none) :=
  drainFor_of_ok up (Nat.lt_succ_self _) drained

theorem drain_of_error {c : Connection} {ms : List Message} {e : FrameError} (up : c.shutdown = false)
    (drained : c.buffer.popAll = (ms, .error e)) : ∃ b, c.drain = ({ ms.foldl dispatch c with buffer := b }, some e) :=
  drainFor_of_error up (Nat.lt_succ_self _) drained

theorem start_of_ok {c : Connection} {ms : List Message} {left : FrameBuffer} (up : c.shutdown = false)
    (drained : c.buffer.popAll = (ms, .ok left)) : c.start = { ms.foldl dispatch c with buffer := left } := by
  rw [start, drain_of_ok up drained]

theorem start_of_error {c : Connection} {ms : List Message} {e : FrameError} (up : c.shutdown = false)
    (drained : c.buffer.popAll = (ms, .error e)) :
    ∃ b, c.start = ({ ms.foldl dispatch c with buffer := b } : Connection).lose (.frame e) := by
  obtain ⟨b, drains⟩ := drain_of_error up drained
  exact ⟨b, by rw [start, drains]⟩

/-- A read that passes the buffer's capacity loses the connection. -/
theorem readPiece_of_refused {c : Connection} {chunk : ByteArray} {e : FrameError} (up : c.shutdown = false)
    (refused : c.buffer.append chunk = .error e) : c.readPiece chunk = c.lose (.frame e) := by
  simp only [readPiece, feed, up, refused, Bool.false_eq_true, if_false]

theorem meet_hangUp {c : Connection} {chunk : ByteArray} (empty : chunk.size = 0) :
    c.meet (.read chunk) = c.lose (.closed "the bus closed the connection") := by
  simp [meet, take, empty]

theorem meet_read {c : Connection} {chunk : ByteArray} (full : chunk.size ≠ 0) :
    c.meet (.read chunk) = c.readPiece chunk := by
  simp [meet, full]

@[simp] theorem meet_readFailed (c : Connection) (kind message : String) :
    c.meet (.readFailed kind message) = c.lose (.foreign kind message) := rfl

@[simp] theorem meet_close (c : Connection) : c.meet .close = c.close := rfl

/-- Whether an event is the closing of the connection. -/
def Event.isClose : Event → Bool
  | .close => true
  | _ => false

theorem lose_of_stopped {c : Connection} (stopped : c.shutdown = true) (e : BusError) : c.lose e = c := by
  simp [lose, stopped]

theorem readPiece_of_stopped {c : Connection} (stopped : c.shutdown = true) (chunk : ByteArray) :
    c.readPiece chunk = c := by
  simp [readPiece, stopped]

theorem shutdown_close {c : Connection} (either : c.closed = false ∨ c.shutdown = true) : c.close.shutdown = true := by
  unfold close
  split
  · rename_i closed
    rcases either with opened | stopped
    · simp_all
    · exact stopped
  · rfl

theorem close_close (c : Connection) : c.close.close = c.close := by
  unfold close
  split
  · rfl
  · simp

/-- A connection that has stopped reading only changes by being closed. -/
theorem meet_of_stopped {c : Connection} (stopped : c.shutdown = true) (event : Event) :
    c.meet event = if event.isClose then c.close else c := by
  cases event with
  | read chunk =>
    by_cases empty : chunk.size = 0
    · rw [meet_hangUp empty, lose_of_stopped stopped]
      rfl
    · rw [meet_read empty, readPiece_of_stopped stopped]
      rfl
  | readFailed kind message => exact lose_of_stopped stopped _
  | close => rfl

theorem foldl_meet_of_stopped {c : Connection} (stopped : c.shutdown = true) (events : List Event) :
    events.foldl meet c = if events.any Event.isClose then c.close else c := by
  induction events generalizing c with
  | nil => rfl
  | cons event rest ih =>
    rw [List.foldl_cons, meet_of_stopped stopped]
    by_cases closing : event.isClose
    · rw [if_pos closing, ih (shutdown_close (.inr stopped)), close_close]
      simp [closing]
    · rw [if_neg closing, ih stopped]
      simp [closing]

/-- A read that the buffer takes starts the dispatcher again on the grown buffer. -/
theorem readPiece_of_append {c : Connection} {chunk : ByteArray} {grown : FrameBuffer} (up : c.shutdown = false)
    (appended : c.buffer.append chunk = .ok grown) : c.readPiece chunk = ({ c with buffer := grown } : Connection).start := by
  rw [readPiece, if_neg (by simp [up]), feed]
  simp only [appended, start]
  cases ({ c with buffer := grown } : Connection).drain with
  | mk c' failure => cases failure <;> rfl

/-- What losing a connection to the failure `e` leaves of the connection `c` it was: the failure
reported once, every call that waited failed with `connection lost: ` and the failure's message,
no call waiting, reading stopped, and the registry closed, so that every later call is refused
before it is registered. -/
structure LostTo (c : Connection) (e : BusError) (c' : Connection) : Prop where
  reported : c'.errors = c.errors ++ [e]
  handled : c'.handled = if c.handler then c.handled ++ [e] else c.handled
  failed : ∀ h, c'.replies.call? h =
    if h ∈ c.replies.waiting.map Prod.snd then
      (c.replies.call? h).map (·.fail (.closed ("connection lost: " ++ e.message)))
    else c.replies.call? h
  cleared : c'.replies.waiting = []
  stopped : c'.shutdown = true
  registryClosed : c'.replies.closed.isSome
  refuses : ∀ m callback, ∃ reason, c'.post m callback = (.failed (.closed reason), c')

theorem post_of_closed {c : Connection} (closed : c.replies.closed.isSome) (m : Message) (callback : Option Callback) :
    ∃ reason, c.post m callback = (.failed (.closed reason), c) := by
  obtain ⟨e, closedWith⟩ := Option.isSome_iff_exists.mp closed
  exact ⟨e.message, by rw [post, ReplyRegistry.register_closed closedWith]⟩

theorem lose_lostTo {c : Connection} (up : c.shutdown = false) (e : BusError) : LostTo c e (c.lose e) := by
  obtain ⟨cleared, closed, -⟩ := c.replies.close_frame (.closed ("connection lost: " ++ e.message))
  have registry : (c.lose e).replies = (c.replies.close (.closed ("connection lost: " ++ e.message))).2 := by
    simp [lose, up, report]
  have registryClosed : (c.lose e).replies.closed.isSome := by
    rw [registry, closed]
    cases c.replies.closed <;> rfl
  exact
    { reported := by simp [lose, up, report]
      handled := by simp [lose, up, report]
      failed := fun h => by rw [registry, ReplyRegistry.call?_close]
      cleared := by rw [registry, cleared]
      stopped := by simp [lose, up]
      registryClosed
      refuses := post_of_closed registryClosed }

theorem close_eq (c : Connection) : c.close =
    if c.closed then c
    else { c with closed := true, shutdown := true, replies := (c.replies.close (.closed "connection closed")).2 } := by
  unfold close
  split <;> rfl

/-- Closing a lost connection keeps what the loss left: the calls that waited failed with the
loss's reason, and closing finds none waiting. -/
theorem LostTo.close {c c' : Connection} {e : BusError} (lost : LostTo c e c') : LostTo c e c'.close := by
  rw [close_eq]
  split
  · exact lost
  · obtain ⟨cleared, closed, -⟩ := c'.replies.close_frame (.closed "connection closed")
    have registryClosed : (c'.replies.close (.closed "connection closed")).2.closed.isSome := by
      rw [closed]
      obtain ⟨reason, closedWith⟩ := Option.isSome_iff_exists.mp lost.registryClosed
      rw [closedWith]
      rfl
    exact
      { reported := lost.reported
        handled := lost.handled
        failed := fun h => by rw [ReplyRegistry.call?_close, lost.cleared, List.map_nil, if_neg List.not_mem_nil, lost.failed]
        cleared
        stopped := rfl
        registryClosed
        refuses := post_of_closed registryClosed }

/-- Once lost, the rest of a run only closes the connection, if it is closed. -/
theorem foldl_meet_lose {c : Connection} (up : c.shutdown = false) (e : BusError) (events : List Event) :
    events.foldl meet (c.lose e) =
      if events.any Event.isClose then (c.lose e).close else c.lose e :=
  foldl_meet_of_stopped (lose_lostTo up e).stopped events

end Connection

/-- How the dispatcher's run ends, as its receive buffer sees it: still reading, with the octets
left over; stopped by a failure, after which the connection may have been closed; or closed while
reading. -/
inductive Ending where
  | reading (left : FrameBuffer)
  | failed (e : BusError) (closedAfter : Bool)
  | closed

/-- The connection a run ends in, from the connection that has dispatched the run's messages. -/
def Ending.finish : Ending → Connection → Connection
  | .reading left, c => { c with buffer := left }
  | .failed e closedAfter, c => if closedAfter then (c.lose e).close else c.lose e
  | .closed, c => c.close

namespace Connection.Event

/-- The chunks of the reads that start a run's events, up to the first event that is not a read
of some octets. -/
def received : List Event → List ByteArray
  | .read chunk :: rest => if chunk.size = 0 then [] else chunk :: received rest
  | _ => []

end Connection.Event

namespace FrameBuffer

open Connection (Event)

/-- What a drain that popped `popped` leads to: the messages popped, then the failure that stopped
it, or what follows from the buffer it left. -/
def afterDrain (popped : List Message × Except FrameError FrameBuffer) (closing : Bool)
    (next : FrameBuffer → List Message × Ending) : List Message × Ending :=
  match popped.2 with
  | .error e => (popped.1, .failed (.frame e) closing)
  | .ok left => (popped.1 ++ (next left).1, (next left).2)

/-- The messages a run pops from a buffer that holds no whole frame, in order, and how it ends: a
read of nothing, a failed read, a read the buffer refuses and a frame that cannot be read each
end the run with a failure, and the closing ends it too. -/
def follow (b : FrameBuffer) : List Event → List Message × Ending
  | [] => ([], .reading b)
  | .read chunk :: rest =>
    if chunk.size = 0 then ([], .failed (.closed "the bus closed the connection") (rest.any Event.isClose))
    else
      match b.append chunk with
      | .error e => ([], .failed (.frame e) (rest.any Event.isClose))
      | .ok grown => afterDrain grown.popAll (rest.any Event.isClose) (fun left => left.follow rest)
  | .readFailed kind message :: rest => ([], .failed (.foreign kind message) (rest.any Event.isClose))
  | .close :: _ => ([], .closed)

/-- The messages a run pops from a buffer, in order, and how it ends: it drains first. -/
def outcome (b : FrameBuffer) (events : List Event) : List Message × Ending :=
  afterDrain b.popAll (events.any Event.isClose) (fun left => left.follow events)

theorem follow_of_append {b grown : FrameBuffer} {chunk : ByteArray} (full : chunk.size ≠ 0)
    (appended : b.append chunk = .ok grown) (rest : List Event) :
    b.follow (.read chunk :: rest) = grown.outcome rest := by
  rw [follow, if_neg full, appended]
  rfl

theorem append_error {b : FrameBuffer} {chunk : ByteArray} {e : FrameError} (refused : b.append chunk = .error e) :
    ∃ size capacity, e = .overfull size capacity := by
  unfold append at refused
  dsimp only at refused
  split at refused
  · cases refused
    exact ⟨_, _, rfl⟩
  · cases refused

/-- Starting with octets buffered pops what following a settled buffer pops, after the frames
the buffer held, once following is known for the events from every settled buffer. -/
theorem outcome_frames_of_follow {b : FrameBuffer} {events : List Event}
    (follows : ∀ b' : FrameBuffer, b'.pop = .ok (none, b') → ∃ k,
      (b'.follow events).1 = (b'.grow (joined ((Event.received events).take k))).popAll.1 ∧
      (k < (Event.received events).length →
        ∃ size capacity closedAfter, (b'.follow events).2 = .failed (.frame (.overfull size capacity)) closedAfter)) :
    ∃ k, (b.outcome events).1 = (b.grow (joined ((Event.received events).take k))).popAll.1 ∧
      (k < (Event.received events).length →
        ∃ size capacity closedAfter, (b.outcome events).2 = .failed (.frame (.overfull size capacity)) closedAfter) := by
  cases drained : b.popAll with
  | mk ms r =>
    cases r with
    | error e =>
      refine ⟨(Event.received events).length, ?_, fun within => absurd within (Nat.lt_irrefl _)⟩
      rw [popAll_grow_of_error _ drained]
      simp only [outcome, afterDrain, drained]
    | ok left =>
      obtain ⟨k, frames, refused⟩ := follows left (popAll_ok drained).1
      refine ⟨k, ?_, ?_⟩
      · rw [popAll_grow_of_ok _ drained]
        simp only [outcome, afterDrain, drained, frames]
      · simpa only [outcome, afterDrain, drained] using refused

/-- Following a settled buffer pops the frames of the chunks read, as popping from the buffer
with those chunks behind it does; when a read is refused, the frames of the chunks before it. -/
theorem follow_frames (events : List Event) : ∀ {b : FrameBuffer}, b.pop = .ok (none, b) → ∃ k,
    (b.follow events).1 = (b.grow (joined ((Event.received events).take k))).popAll.1 ∧
    (k < (Event.received events).length →
      ∃ size capacity closedAfter, (b.follow events).2 = .failed (.frame (.overfull size capacity)) closedAfter) := by
  have nothing : ∀ {b : FrameBuffer} {events : List Event}, b.pop = .ok (none, b) → Event.received events = [] →
      (b.follow events).1 = [] → ∃ k,
        (b.follow events).1 = (b.grow (joined ((Event.received events).take k))).popAll.1 ∧
        (k < (Event.received events).length →
          ∃ size capacity closedAfter, (b.follow events).2 = .failed (.frame (.overfull size capacity)) closedAfter) := by
    intro b events settled none popsNone
    refine ⟨0, ?_, fun within => absurd within (by simp [none])⟩
    simp [popsNone, popAll_of_none settled]
  induction events with
  | nil => exact fun settled => nothing settled rfl rfl
  | cons event rest ih =>
    intro b settled
    cases event with
    | read chunk =>
      by_cases empty : chunk.size = 0
      · exact nothing settled (by simp [Event.received, empty]) (by simp [follow, empty])
      have received : Event.received (.read chunk :: rest) = chunk :: Event.received rest := by
        simp [Event.received, empty]
      cases appended : b.append chunk with
      | error e =>
        obtain ⟨size, capacity, rfl⟩ := append_error appended
        refine ⟨0, ?_, fun _ => ⟨size, capacity, rest.any Event.isClose, ?_⟩⟩
        · simp [follow, empty, appended, popAll_of_none settled]
        · simp [follow, empty, appended]
      | ok grown =>
        obtain ⟨k, frames, refused⟩ := @outcome_frames_of_follow grown rest (fun _ settled' => ih settled')
        refine ⟨k + 1, ?_, ?_⟩
        · rw [follow_of_append empty appended, frames, received, List.take_succ_cons, joined_cons, ← grow_grow,
            ← append_ok appended]
        · rw [received, List.length_cons, follow_of_append empty appended]
          exact fun within => refused (by omega)
    | readFailed kind message => exact nothing settled rfl rfl
    | close => exact nothing settled rfl rfl

end FrameBuffer

namespace Connection

/-- Starting the dispatcher drains the frames buffered and then goes on as following the settled
buffer does, once that is known for the events from every connection with a settled buffer. -/
theorem foldl_meet_start_of_follow {c : Connection} (up : c.shutdown = false) (opened : c.closed = false)
    {events : List Event}
    (follows : ∀ c' : Connection, c'.shutdown = false → c'.closed = false → c'.buffer.pop = .ok (none, c'.buffer) →
      ∃ b, events.foldl meet c' =
        (c'.buffer.follow events).2.finish { (c'.buffer.follow events).1.foldl dispatch c' with buffer := b }) :
    ∃ b, events.foldl meet c.start =
      (c.buffer.outcome events).2.finish { (c.buffer.outcome events).1.foldl dispatch c with buffer := b } := by
  cases drained : c.buffer.popAll with
  | mk ms r =>
    cases r with
    | error e =>
      obtain ⟨b, started⟩ := start_of_error up drained
      refine ⟨b, ?_⟩
      rw [started, foldl_meet_lose (by simp [up])]
      simp only [FrameBuffer.outcome, FrameBuffer.afterDrain, drained, Ending.finish]
    | ok left =>
      obtain ⟨b, run⟩ := follows { ms.foldl dispatch c with buffer := left } (by simp [up]) (by simp [opened])
        (FrameBuffer.popAll_ok drained).1
      refine ⟨b, ?_⟩
      rw [start_of_ok up drained, run]
      simp only [FrameBuffer.outcome, FrameBuffer.afterDrain, drained, List.foldl_append, foldl_dispatch_buffer]

/-- The dispatcher on a settled buffer dispatches what following the buffer pops, in order, and
ends as following says. -/
theorem foldl_meet_follow (events : List Event) : ∀ {c : Connection}, c.shutdown = false → c.closed = false →
    c.buffer.pop = .ok (none, c.buffer) → ∃ b, events.foldl meet c =
      (c.buffer.follow events).2.finish { (c.buffer.follow events).1.foldl dispatch c with buffer := b } := by
  induction events with
  | nil => exact fun _ _ _ => ⟨_, rfl⟩
  | cons event rest ih =>
    intro c up opened settled
    cases event with
    | read chunk =>
      by_cases empty : chunk.size = 0
      · refine ⟨c.buffer, ?_⟩
        rw [List.foldl_cons, meet_hangUp empty, foldl_meet_lose up, FrameBuffer.follow, if_pos empty]
        rfl
      cases appended : c.buffer.append chunk with
      | error e =>
        refine ⟨c.buffer, ?_⟩
        rw [List.foldl_cons, meet_read empty, readPiece_of_refused up appended, foldl_meet_lose up,
          FrameBuffer.follow, if_neg empty, appended]
        rfl
      | ok grown =>
        obtain ⟨b, run⟩ := @foldl_meet_start_of_follow { c with buffer := grown } up opened rest
          (fun _ up' opened' settled' => ih up' opened' settled')
        refine ⟨b, ?_⟩
        rw [List.foldl_cons, meet_read empty, readPiece_of_append up appended, run,
          FrameBuffer.follow_of_append empty appended, foldl_dispatch_buffer]
    | readFailed kind message =>
      refine ⟨c.buffer, ?_⟩
      rw [List.foldl_cons, meet_readFailed, foldl_meet_lose up]
      rfl
    | close =>
      refine ⟨c.buffer, ?_⟩
      rw [List.foldl_cons, meet_close, foldl_meet_of_stopped (shutdown_close (.inl opened)), close_close, ite_self]
      rfl

theorem serve_outcome {c : Connection} (up : c.shutdown = false) (opened : c.closed = false) (events : List Event) :
    ∃ b, c.serve events =
      (c.buffer.outcome events).2.finish { (c.buffer.outcome events).1.foldl dispatch c with buffer := b } :=
  foldl_meet_start_of_follow up opened fun _ up' opened' settled => foldl_meet_follow events up' opened' settled

theorem finish_lostTo {c : Connection} (up : c.shutdown = false) (e : BusError) (closedAfter : Bool) :
    LostTo c e ((Ending.failed e closedAfter).finish c) := by
  cases closedAfter
  · exact lose_lostTo up e
  · exact (lose_lostTo up e).close

/-- The dispatcher's run, on a connection neither lost nor closed: it dispatches the messages that
popping gives from the octets read, in order and each once, and nothing else. They are the frames
of every chunk read up to the first failure, or up to a read the buffer refuses. When the run
ends in a failure, the connection is lost to it just after the last of those messages. -/
theorem serve_fails_once {c : Connection} (running : c.shutdown = false) (opened : c.closed = false)
    (events : List Event) :
    (∃ k, (c.buffer.outcome events).1 =
        (c.buffer.grow (FrameBuffer.joined ((Event.received events).take k))).popAll.1 ∧
      (k < (Event.received events).length →
        ∃ size capacity closedAfter, (c.buffer.outcome events).2 = .failed (.frame (.overfull size capacity)) closedAfter)) ∧
    ∃ b, c.serve events =
        (c.buffer.outcome events).2.finish { (c.buffer.outcome events).1.foldl dispatch c with buffer := b } ∧
      ∀ e closedAfter, (c.buffer.outcome events).2 = .failed e closedAfter →
        LostTo { (c.buffer.outcome events).1.foldl dispatch c with buffer := b } e (c.serve events) := by
  have frames := @FrameBuffer.outcome_frames_of_follow c.buffer events
    fun _ settled => FrameBuffer.follow_frames events settled
  obtain ⟨b, served⟩ := serve_outcome running opened events
  refine ⟨frames, b, served, fun e closedAfter ended => ?_⟩
  rw [served, ended]
  exact finish_lostTo (by simp [running]) e closedAfter

/-- A new connection whose peer resets it after the first octet of a frame. -/
theorem serve_fails_once_reset :
    (Connection.create Settings.defaults).shutdown = false ∧ (Connection.create Settings.defaults).closed = false ∧
    (∃ k, ((Connection.create Settings.defaults).buffer.outcome [.read ⟨#[108]⟩, .readFailed "ConnectionResetError" "Connection reset by peer"]).1 =
        ((Connection.create Settings.defaults).buffer.grow (FrameBuffer.joined ((Event.received [.read ⟨#[108]⟩, .readFailed "ConnectionResetError" "Connection reset by peer"]).take k))).popAll.1 ∧
      (k < (Event.received [.read ⟨#[108]⟩, .readFailed "ConnectionResetError" "Connection reset by peer"]).length →
        ∃ size capacity closedAfter, ((Connection.create Settings.defaults).buffer.outcome [.read ⟨#[108]⟩, .readFailed "ConnectionResetError" "Connection reset by peer"]).2 = .failed (.frame (.overfull size capacity)) closedAfter)) ∧
    ∃ b, (Connection.create Settings.defaults).serve [.read ⟨#[108]⟩, .readFailed "ConnectionResetError" "Connection reset by peer"] =
        ((Connection.create Settings.defaults).buffer.outcome [.read ⟨#[108]⟩, .readFailed "ConnectionResetError" "Connection reset by peer"]).2.finish { ((Connection.create Settings.defaults).buffer.outcome [.read ⟨#[108]⟩, .readFailed "ConnectionResetError" "Connection reset by peer"]).1.foldl dispatch (Connection.create Settings.defaults) with buffer := b } ∧
      ∀ e closedAfter, ((Connection.create Settings.defaults).buffer.outcome [.read ⟨#[108]⟩, .readFailed "ConnectionResetError" "Connection reset by peer"]).2 = .failed e closedAfter →
        LostTo { ((Connection.create Settings.defaults).buffer.outcome [.read ⟨#[108]⟩, .readFailed "ConnectionResetError" "Connection reset by peer"]).1.foldl dispatch (Connection.create Settings.defaults) with buffer := b } e ((Connection.create Settings.defaults).serve [.read ⟨#[108]⟩, .readFailed "ConnectionResetError" "Connection reset by peer"]) :=
  ⟨rfl, rfl, serve_fails_once rfl rfl _⟩

/-- Reply correlation from the octets the bus sends. After a call is posted on a connection that
ran from an empty registry, the dispatcher's run over reads that carry the octets `stream`, in
whatever pieces, dispatches the frames popped from `stream`, when no read is refused; the call is
answered by the first of those frames that answers its serial. -/
theorem serve_correlates {c₀ c₁ c₁' : Connection} {before : List Traffic} {m : Message}
    {callback : Option Callback} {h : Handle} {frame : ByteArray} {events : List Event} {stream : ByteArray}
    (fresh : c₀.replies = {}) (first : c₀.run before = some c₁)
    (sent : c₁.post m callback = (.ok (h, frame), c₁'))
    (running : c₁'.shutdown = false) (opened : c₁'.closed = false)
    (octets : (Event.received events).flatMap ByteArray.toList = stream.toList)
    (taken : ∀ size capacity closedAfter,
      (c₁'.buffer.outcome events).2 ≠ .failed (.frame (.overfull size capacity)) closedAfter) :
    ∃ serial, 1 ≤ serial ∧ serial ≤ serialMax ∧ ∃ b,
      c₁'.serve events = (c₁'.buffer.outcome events).2.finish
        { ((c₁'.buffer.grow stream).popAll.1).foldl dispatch c₁' with buffer := b } ∧
      Answered (((c₁'.buffer.grow stream).popAll.1).foldl dispatch c₁') h serial
        { message := { m with serial }, callback } (((c₁'.buffer.grow stream).popAll.1).map .receive) := by
  obtain ⟨k, frames, refused⟩ := @FrameBuffer.outcome_frames_of_follow c₁'.buffer events
    fun _ settled => FrameBuffer.follow_frames events settled
  have whole : (Event.received events).take k = Event.received events := by
    refine List.take_of_length_le (Nat.le_of_not_lt fun within => ?_)
    obtain ⟨size, capacity, closedAfter, ended⟩ := refused within
    exact taken size capacity closedAfter ended
  have joined : FrameBuffer.joined (Event.received events) = stream :=
    ByteArray.eq_of_toList ((FrameBuffer.toList_joined _).trans octets)
  rw [whole, joined] at frames
  obtain ⟨b, served⟩ := serve_outcome running opened events
  rw [frames] at served
  obtain ⟨serial, positive, below, answered⟩ := post_answered fresh first sent (run_receive c₁' _)
  exact ⟨serial, positive, below, b, served, answered⟩

end Connection

end MessageBus
