import Mathlib
import MessageBus.Proofs.Replies.Correlation
import MessageBus.Peer.Scripted
import MessageBus.Proofs.Wire.Remarshal

namespace MessageBus

namespace ReplyRegistry

/-- Taking back the last call to wait, under a serial no earlier waiting call has, leaves the
calls that waited before it. -/
theorem waiting_discard_last {r : ReplyRegistry} {h : Handle} {p : PendingReply} {before : List (Int × Handle)}
    (found : r.call? h = some p) (last : r.waiting = before ++ [(p.serial, h)])
    (fresh : ∀ q ∈ before, q.1 ≠ p.serial) : (r.discard h).2.waiting = before := by
  have member : (p.serial, h) ∈ r.waiting := by simp [last]
  unfold discard
  rw [found]
  dsimp only
  rw [if_pos (List.contains_iff_mem.mpr member)]
  simp only [last, List.filter_append, List.filter_singleton, bne_self_eq_false, cond_false, List.append_nil]
  exact List.filter_eq_self.mpr fun q mem => by simpa using fresh q mem

end ReplyRegistry

namespace Connection

/-- A post that fails changes nothing but the registry, and leaves the same calls waiting: a
closed registry refuses the call, and one that cannot be put on the wire is taken back. -/
theorem post_failed {c c' : Connection} {m : Message} {callback : Option Callback} {e : BusError}
    (posted : c.post m callback = (.failed e, c')) :
    c' = { c with replies := c'.replies } ∧ c'.replies.waiting = c.replies.waiting := by
  rcases Connection.post_cases posted with ⟨rfl, -⟩ | ⟨h, r, registered, ⟨_, -, made, -⟩ | ⟨_, -, -, rfl⟩⟩
  · exact ⟨rfl, rfl⟩
  · cases made
  · -- the call was registered under a free serial, so taking it back leaves the others waiting
    obtain ⟨serial, -, found, rfl, rfl⟩ := ReplyRegistry.register_ok registered
    obtain ⟨-, fresh, -⟩ := ReplyRegistry.freshSerial_spec found
    exact ⟨rfl, ReplyRegistry.waiting_discard_last (ReplyRegistry.call?_add_self _ m callback serial) rfl fresh⟩

/-- A post that succeeds registers the call as the one new waiting call, under a serial no call
waited with, and gives the frame of the call with that serial. -/
theorem post_registers {c c' : Connection} {m : Message} {callback : Option Callback} {h : Handle}
    {frame : ByteArray} (posted : c.post m callback = (.ok (h, frame), c')) :
    ∃ serial, (∀ q ∈ c.replies.waiting, q.1 ≠ serial) ∧ c' = { c with replies := c'.replies } ∧
      c'.replies.waiting = c.replies.waiting ++ [(serial, h)] ∧
      c'.replies.call? h = some { message := { m with serial }, callback } ∧
      Message.marshal { m with serial } (Text.ofString "l") = .ok frame := by
  rcases Connection.post_cases posted with ⟨-, ⟨_, -, failed⟩ | ⟨-, forever⟩⟩ |
    ⟨h', r, registered, ⟨frame', written, made, rfl⟩ | ⟨_, -, failed, -⟩⟩
  · cases failed
  · cases forever
  · cases made
    obtain ⟨serial, -, found, rfl, rfl⟩ := ReplyRegistry.register_ok registered
    obtain ⟨-, fresh, -⟩ := ReplyRegistry.freshSerial_spec found
    have stored := ReplyRegistry.call?_add_self c.replies m callback serial
    rw [stored] at written
    exact ⟨serial, fresh, rfl, rfl, stored, written⟩
  · cases failed

end Connection

namespace ScriptedPeer

/-- Sending a line of the script keeps the frames written. -/
@[simp] theorem written_sendLine (p : ScriptedPeer) (call : Message) (line : ScriptLine) :
    (p.sendLine call line).1.written = p.written := by
  obtain ⟨cue, serial, replySerial⟩ := line
  unfold sendLine
  split
  · rfl
  · split
    · rfl
    · cases serial <;> cases replySerial <;> dsimp only <;> split <;> rfl

theorem written_foldl {α : Type} (f : ScriptedPeer × α → ScriptLine → ScriptedPeer × α)
    (keeps : ∀ x line, (f x line).1.written = x.1.written) (script : List ScriptLine) (x : ScriptedPeer × α) :
    (script.foldl f x).1.written = x.1.written := by
  induction script generalizing x with
  | nil => rfl
  | cons line rest ih => rw [List.foldl_cons, ih, keeps]

/-- The scripted far end refuses a write, keeping nothing, while it is set to; otherwise it keeps
the frame and answers. -/
theorem accept_cases (p : ScriptedPeer) (frame : ByteArray) :
    (∃ why, p.refusal = some why ∧ p.accept frame = (p, .error why)) ∨
      (p.refusal = none ∧ (p.accept frame).1.written = p.written ++ [frame] ∧
        ∃ arrivals, (p.accept frame).2 = .ok arrivals) := by
  cases refusal : p.refusal with
  | some why => exact .inl ⟨why, rfl, by simp [accept, refusal]⟩
  | none =>
    refine .inr ⟨rfl, ?_⟩
    unfold accept
    rw [refusal]
    dsimp only
    split
    · exact ⟨rfl, _, rfl⟩
    · refine ⟨?_, _, rfl⟩
      rw [written_foldl]
      intro x line
      exact written_sendLine x.1 _ line

/-- A far end with no script keeps the frame of a call to the member `M` and sends nothing back. -/
theorem accept_memberCallFrame : ScriptedPeer.peer.accept {} memberCallFrame = ({ written := [memberCallFrame] }, .ok []) := by
  show accept {} memberCallFrame = _
  unfold accept
  dsimp only
  rw [Message.unmarshal_memberCallFrame]
  rfl

end ScriptedPeer

namespace Session

variable {π : Type}

/-- A send that fails changes nothing but the registry, where the same calls wait, and the far
end: it either saw nothing, or refused the one frame it was handed, which the failure reports. -/
theorem send_failed {s s' : Session π} {m : Message} {callback : Option Callback} {e : BusError}
    (sent : s.send m callback = (.failed e, s')) :
    s' = { s with conn := { s.conn with replies := s'.conn.replies }, state := s'.state } ∧
      s'.conn.replies.waiting = s.conn.replies.waiting ∧
      (s'.state = s.state ∨ ∃ frame why, s.peer.accept s.state frame = (s'.state, .error why) ∧
        e = .closed ("cannot send " ++ m.memberLabel ++ ": " ++ why)) := by
  unfold send at sent
  split at sent
  · rename_i conn posted
    cases sent
    obtain ⟨same, waiting⟩ := Connection.post_failed posted
    exact ⟨by rw [← same], waiting, .inl rfl⟩
  · cases sent
  · rename_i h frame conn posted
    obtain ⟨serial, fresh, same, waiting, stored, -⟩ := Connection.post_registers posted
    split at sent
    · rename_i state why refused
      cases sent
      refine ⟨by rw [same], ?_, .inr ⟨frame, why, refused, rfl⟩⟩
      exact ReplyRegistry.waiting_discard_last stored waiting fresh
    · cases sent

/-- A send that succeeds registered the call as the one new waiting call, under a serial no call
waited with, handed the frame of the call with that serial to the far end once, and then took in
what the far end sent back. -/
theorem send_registered {s s' : Session π} {m : Message} {callback : Option Callback} {h : Handle}
    (sent : s.send m callback = (.ok h, s')) :
    ∃ serial frame conn state arrivals,
      (∀ q ∈ s.conn.replies.waiting, q.1 ≠ serial) ∧ conn = { s.conn with replies := conn.replies } ∧
      conn.replies.waiting = s.conn.replies.waiting ++ [(serial, h)] ∧
      conn.replies.call? h = some { message := { m with serial }, callback } ∧
      Message.marshal { m with serial } (Text.ofString "l") = .ok frame ∧
      s.peer.accept s.state frame = (state, .ok arrivals) ∧
      s' = { s with conn, state }.deliver arrivals := by
  unfold send at sent
  split at sent
  · cases sent
  · cases sent
  · rename_i h' frame conn posted
    obtain ⟨serial, fresh, same, waiting, stored, written⟩ := Connection.post_registers posted
    split at sent
    · cases sent
    · rename_i state arrivals accepted
      cases sent
      exact ⟨serial, frame, conn, state, arrivals, fresh, same, waiting, stored, written, accepted, rfl⟩

/-- A session with the scripted far end, on a new connection with the default settings, that takes
in what the far end sends directly. -/
def scripted : Session ScriptedPeer :=
  { conn := Connection.create Settings.defaults, peer := ScriptedPeer.peer, state := {}, intake := .direct }

/-- Sending a call is all or nothing. A send that fails leaves the calls waiting as they were and
the session as it was but for the registry, and hands the far end at most the one frame it refuses.
A send that succeeds leaves exactly one new waiting call, under a fresh serial with the call's
handle, after handing its frame to the far end once. -/
theorem send_all_or_nothing (s : Session π) (m : Message) (callback : Option Callback) :
    (∀ e s', s.send m callback = (.failed e, s') →
      s' = { s with conn := { s.conn with replies := s'.conn.replies }, state := s'.state } ∧
        s'.conn.replies.waiting = s.conn.replies.waiting ∧
        (s'.state = s.state ∨ ∃ frame why, s.peer.accept s.state frame = (s'.state, .error why) ∧
          e = .closed ("cannot send " ++ m.memberLabel ++ ": " ++ why))) ∧
    ∀ h s', s.send m callback = (.ok h, s') →
      ∃ serial frame conn state arrivals,
        (∀ q ∈ s.conn.replies.waiting, q.1 ≠ serial) ∧ conn = { s.conn with replies := conn.replies } ∧
        conn.replies.waiting = s.conn.replies.waiting ++ [(serial, h)] ∧
        conn.replies.call? h = some { message := { m with serial }, callback } ∧
        Message.marshal { m with serial } (Text.ofString "l") = .ok frame ∧
        s.peer.accept s.state frame = (state, .ok arrivals) ∧
        s' = { s with conn, state }.deliver arrivals :=
  ⟨fun _ _ sent => send_failed sent, fun _ _ sent => send_registered sent⟩

/-- A call whose path is no object path is registered, refused by marshalling and taken back: the
serial counter has moved on, and the same calls wait as before. A call to the member `M` of `/` is
sent: the far end got its frame, and it waits as the one new call. -/
theorem send_all_or_nothing_scripted :
    (∃ e s', scripted.send
        { kind := .methodCall, path := some (Text.ofString "bad"), member := some (Text.ofString "M") } none =
          (.failed e, s') ∧
      s'.conn.replies.next = 2 ∧ s'.conn.replies.waiting = scripted.conn.replies.waiting) ∧
    ∃ h s', scripted.send
        { kind := .methodCall, path := some (Text.ofString "/"), member := some (Text.ofString "M") } none =
          (.ok h, s') ∧
      s'.state.written = [memberCallFrame] ∧
      ∃ serial conn state arrivals, conn.replies.waiting = scripted.conn.replies.waiting ++ [(serial, h)] ∧
        s' = { scripted with conn, state }.deliver arrivals := by
  obtain ⟨conn, posted⟩ : ∃ conn, (Connection.create Settings.defaults).post
      { kind := .methodCall, path := some (Text.ofString "/"), member := some (Text.ofString "M") } none =
      (.ok (0, memberCallFrame), conn) := ⟨_, Connection.post_rootCall⟩
  have sent : scripted.send
      { kind := .methodCall, path := some (Text.ofString "/"), member := some (Text.ofString "M") } none =
      (.ok 0, { scripted with conn, state := { written := [memberCallFrame] } }.deliver []) := by
    unfold send scripted
    rw [posted]
    dsimp only
    rw [ScriptedPeer.accept_memberCallFrame]
  obtain ⟨serial, frame, conn', state, arrivals, -, -, waiting, -, -, -, delivered⟩ :=
    (send_all_or_nothing scripted _ none).2 0 _ sent
  refine ⟨⟨_, _, by with_unfolding_all rfl, by with_unfolding_all rfl, ((send_all_or_nothing scripted
    { kind := .methodCall, path := some (Text.ofString "bad"), member := some (Text.ofString "M") } none).1 _ _
    (by with_unfolding_all rfl)).2.1⟩, 0, _, sent, rfl, serial, conn', state, arrivals, waiting, delivered⟩

/-- Taking in what the far end sent leaves the far end as it is. -/
@[simp] theorem state_deliver (s : Session π) (arrivals : List Arrival) : (s.deliver arrivals).state = s.state := by
  unfold deliver
  split
  · induction arrivals generalizing s with
    | nil => rfl
    | cons a rest ih =>
      rw [List.foldl_cons]
      split <;> exact ih _ ‹_›
  · rfl

/-- With the scripted far end, a send that fails writes nothing, and one that succeeds writes the
frame of the call, under the serial it was given, once. -/
theorem send_written {s s' : Session ScriptedPeer} {m : Message} {callback : Option Callback}
    (scripted : s.peer = ScriptedPeer.peer) :
    (∀ e, s.send m callback = (.failed e, s') → s'.state.written = s.state.written) ∧
      ∀ h, s.send m callback = (.ok h, s') →
        ∃ serial frame, Message.marshal { m with serial } (Text.ofString "l") = .ok frame ∧
          s'.state.written = s.state.written ++ [frame] := by
  refine ⟨fun e sent => ?_, fun h sent => ?_⟩
  · obtain ⟨-, -, untouched | ⟨frame, why, refused, -⟩⟩ := send_failed sent
    · rw [untouched]
    · rw [scripted] at refused
      rcases ScriptedPeer.accept_cases s.state frame with ⟨why', -, closed⟩ | ⟨-, -, arrivals, answered⟩
      · change s.state.accept frame = _ at refused
        rw [closed] at refused
        rw [← (Prod.mk.inj refused).1]
      · change s.state.accept frame = _ at refused
        rw [refused] at answered
        cases answered
  · obtain ⟨serial, frame, conn, state, arrivals, -, -, -, -, written, accepted, rfl⟩ := send_registered sent
    rw [scripted] at accepted
    change s.state.accept frame = _ at accepted
    refine ⟨serial, frame, written, ?_⟩
    rw [state_deliver]
    rcases ScriptedPeer.accept_cases s.state frame with ⟨why, -, closed⟩ | ⟨-, kept, -⟩
    · rw [closed] at accepted
      cases (Prod.mk.inj accepted).2
    · rw [accepted] at kept
      exact kept

end Session

end MessageBus
