import Mathlib
import MessageBus.Bus.Connection
import MessageBus.Proofs.Replies.Registry

namespace MessageBus

/-- What happens on a connection: a call is sent, or a message is received and dispatched. -/
inductive Traffic where
  | send (m : Message) (callback : Option Callback)
  | receive (m : Message)

/-- Whether a message answers the call with a serial: a method return or an error reply whose
reply serial is that serial. -/
def Message.answers (m : Message) (serial : Int) : Bool :=
  (m.kind == .methodReturn || m.kind == .error) && m.replySerial == some serial

/-- How the dispatcher finishes the call a reply answers: a method return completes it, an error
reply fails it with the remote error. -/
def Finish.ofAnswer (m : Message) : Finish :=
  if m.kind = .methodReturn then .complete m else .fail m.remoteError

/-- The first message received in some traffic that answers a serial. -/
def Traffic.firstAnswer (serial : Int) : List Traffic → Option Message
  | [] => none
  | .send _ _ :: rest => firstAnswer serial rest
  | .receive m :: rest => if m.answers serial then some m else firstAnswer serial rest

namespace Connection

/-- One step of a connection's traffic: none when a call is sent while every serial is waiting,
which never returns. -/
def step (c : Connection) : Traffic → Option Connection
  | .send m callback =>
    match c.post m callback with
    | (.forever, _) => none
    | (_, c) => some c
  | .receive m => some (c.dispatch m)

/-- The connection after some traffic, when every step returns. -/
def run (c : Connection) (traffic : List Traffic) : Option Connection :=
  traffic.foldlM step c

theorem run_cons (c : Connection) (a : Traffic) (traffic : List Traffic) :
    c.run (a :: traffic) = (c.step a).bind (·.run traffic) := by
  simp only [run, List.foldlM_cons]
  rfl

/-- Traffic that only receives dispatches each message in turn. -/
theorem run_receive (c : Connection) (ms : List Message) : c.run (ms.map .receive) = some (ms.foldl dispatch c) := by
  induction ms generalizing c with
  | nil => rfl
  | cons x rest ih =>
    rw [List.map_cons, run_cons, List.foldl_cons]
    exact ih (c.dispatch x)

/-- What every step keeps, a run keeps. -/
theorem run_induction (P : Connection → Prop) (preserve : ∀ c c' a, P c → c.step a = some c' → P c')
    {traffic : List Traffic} {c c' : Connection} (start : P c) (ran : c.run traffic = some c') : P c' := by
  induction traffic generalizing c with
  | nil =>
    cases ran
    exact start
  | cons a rest ih =>
    rw [run_cons] at ran
    obtain ⟨c₁, first, later⟩ := Option.bind_eq_some_iff.mp ran
    exact ih (preserve c c₁ a start first) later

/-- Everything a post can do: the registry refuses the call or never gives a serial, and nothing
changes; or the call is registered, and its frame is made, or it cannot be and the call is taken
back. -/
theorem post_cases {c c' : Connection} {m : Message} {callback : Option Callback}
    {o : Outcome (Handle × ByteArray)} (posted : c.post m callback = (o, c')) :
    (c' = c ∧ ((∃ e, c.replies.register m callback = .failed e ∧ o = .failed e) ∨
      (c.replies.register m callback = .forever ∧ o = .forever))) ∨
    ∃ h r, c.replies.register m callback = .ok (h, r) ∧
      ((∃ frame, Message.marshal (((r.call? h).map (·.message)).getD m) (Text.ofString "l") = .ok frame ∧
          o = .ok (h, frame) ∧ c' = { c with replies := r }) ∨
        (∃ e, Message.marshal (((r.call? h).map (·.message)).getD m) (Text.ofString "l") = .error e ∧
          o = .failed (.marshal e) ∧ c' = { c with replies := (r.discard h).2 })) := by
  unfold post at posted
  split at posted
  · rename_i e registered
    cases posted
    exact .inl ⟨rfl, .inl ⟨e, registered, rfl⟩⟩
  · rename_i registered
    cases posted
    exact .inl ⟨rfl, .inr ⟨registered, rfl⟩⟩
  · rename_i h r registered
    dsimp only at posted
    split at posted
    · rename_i e unwritten
      cases posted
      exact .inr ⟨h, r, registered, .inr ⟨e, unwritten, rfl, rfl⟩⟩
    · rename_i frame written
      cases posted
      exact .inr ⟨h, r, registered, .inl ⟨frame, written, rfl, rfl⟩⟩

/-- What posting a call did to the registry: the registration was refused, or the call was
registered, and taken back when its frame could not be made. -/
theorem post_replies {c c' : Connection} {m : Message} {callback : Option Callback}
    {o : Outcome (Handle × ByteArray)} (posted : c.post m callback = (o, c')) :
    (c' = c ∧ ((∃ e, c.replies.register m callback = .failed e) ∨ o = .forever)) ∨
      ∃ h r, c.replies.register m callback = .ok (h, r) ∧ c' = { c with replies := c'.replies } ∧
        (c'.replies = r ∨ c'.replies = (r.discard h).2) := by
  rcases post_cases posted with ⟨rfl, ⟨e, refused, -⟩ | ⟨-, forever⟩⟩ |
    ⟨h, r, registered, ⟨_, -, -, rfl⟩ | ⟨_, -, -, rfl⟩⟩
  · exact .inl ⟨rfl, .inl ⟨e, refused⟩⟩
  · exact .inl ⟨rfl, .inr forever⟩
  · exact .inr ⟨h, r, registered, rfl, .inl rfl⟩
  · exact .inr ⟨h, r, registered, rfl, .inr rfl⟩

/-- A call posted with its frame is registered. -/
theorem post_ok {c c' : Connection} {m : Message} {callback : Option Callback} {h : Handle} {frame : ByteArray}
    (posted : c.post m callback = (.ok (h, frame), c')) :
    ∃ r, c.replies.register m callback = .ok (h, r) ∧ c'.replies = r := by
  rcases post_cases posted with ⟨-, ⟨_, -, failed⟩ | ⟨-, forever⟩⟩ |
    ⟨h', r, registered, ⟨_, -, made, rfl⟩ | ⟨_, -, failed, -⟩⟩
  · cases failed
  · cases forever
  · cases made
    exact ⟨r, registered, rfl⟩
  · cases failed

/-- Sending registers the call and, when its frame cannot be made, takes it back. -/
theorem step_send {c c' : Connection} {m : Message} {callback : Option Callback}
    (stepped : c.step (.send m callback) = some c') :
    c.replies.run [.register m callback] = some c'.replies ∨
      ∃ h r, c.replies.register m callback = .ok (h, r) ∧
        c.replies.run [.register m callback, .discard h .leave] = some c'.replies := by
  simp only [step] at stepped
  cases posted : c.post m callback with
  | mk o c₁ =>
    rw [posted] at stepped
    have returned : o ≠ .forever ∧ c₁ = c' := by
      cases o <;> simp_all
    obtain ⟨returned, rfl⟩ := returned
    rcases post_replies posted with ⟨rfl, ⟨e, refused⟩ | forever⟩ | ⟨h, r, registered, -, kept | discarded⟩
    · refine .inl ?_
      simp [ReplyRegistry.run, ReplyRegistry.step, refused]
    · exact absurd forever returned
    · refine .inl ?_
      simp [ReplyRegistry.run, ReplyRegistry.step, registered, kept]
    · refine .inr ⟨h, r, registered, ?_⟩
      have registerStep : c.replies.step (.register m callback) = some r := by
        simp [ReplyRegistry.step, registered]
      simp [registerStep, ReplyRegistry.step_discard_leave, discarded, ReplyRegistry.run]

/-- A method return or an error reply takes out the call waiting for its reply serial and
finishes it as an answer. -/
theorem dispatch_replies (c : Connection) {x : Message} (reply : x.kind = .methodReturn ∨ x.kind = .error) :
    c.replies.step (.pop (x.replySerial.getD 0) (Finish.ofAnswer x)) = some (c.dispatch x).replies := by
  have finish : Finish.ofAnswer x = if x.kind = .methodReturn then .complete x else .fail x.remoteError := rfl
  unfold dispatch
  simp only [ReplyRegistry.step]
  cases popped : c.replies.pop (x.replySerial.getD 0) with
  | mk taken r =>
    rcases reply with kind | kind
    · cases taken with
      | none => simp [kind, ReplyRegistry.pop_none popped]
      | some h => simp [kind, finish, ReplyRegistry.finish]
    · cases taken with
      | none => simp [kind, ReplyRegistry.pop_none popped, report]
      | some h => simp [kind, finish, ReplyRegistry.finish]

/-- Method calls and signals are ignored. -/
theorem dispatch_ignored (c : Connection) {x : Message} (ignored : x.kind = .methodCall ∨ x.kind = .signal) :
    c.dispatch x = c := by
  unfold dispatch
  rcases ignored with kind | kind <;> rw [kind]

theorem step_registry {c c' : Connection} {a : Traffic} (stepped : c.step a = some c') :
    ∃ steps : List RegistryStep, (∀ n, RegistryStep.restart n ∉ steps) ∧ c.replies.run steps = some c'.replies := by
  cases a with
  | send m callback =>
    rcases step_send stepped with registered | ⟨h, r, -, discarded⟩
    · exact ⟨_, by simp, registered⟩
    · exact ⟨_, by simp, discarded⟩
  | receive x =>
    cases stepped
    cases kind : x.kind
    · exact ⟨[], by simp, by rw [dispatch_ignored c (.inl kind)]; rfl⟩
    · refine ⟨[.pop (x.replySerial.getD 0) (Finish.ofAnswer x)], by simp, ?_⟩
      simp [ReplyRegistry.run, dispatch_replies c (.inl kind)]
    · refine ⟨[.pop (x.replySerial.getD 0) (Finish.ofAnswer x)], by simp, ?_⟩
      simp [ReplyRegistry.run, dispatch_replies c (.inr kind)]
    · exact ⟨[], by simp, by rw [dispatch_ignored c (.inr kind)]; rfl⟩

theorem run_coherent {traffic : List Traffic} {c c' : Connection} (coherent : c.replies.Coherent)
    (ran : c.run traffic = some c') : c'.replies.Coherent :=
  run_induction (fun c => c.replies.Coherent) (fun _ _ _ coherent stepped => by
    obtain ⟨steps, restarts, registry⟩ := step_registry stepped
    exact ReplyRegistry.run_coherent coherent (fun n member => absurd member (restarts n)) registry)
    coherent ran

/-- A registered call that is not waiting never changes again, and its callback does not run. -/
theorem run_frozen {traffic : List Traffic} {c c' : Connection} (ran : c.run traffic = some c') {g : Handle}
    {p : PendingReply} (call : c.replies.call? g = some p) (out : ∀ q ∈ c.replies.waiting, q.2 ≠ g) :
    c'.replies.call? g = some p ∧ (∀ q ∈ c'.replies.waiting, q.2 ≠ g) ∧
      c'.replies.ran.filter (·.1 == g) = c.replies.ran.filter (·.1 == g) :=
  run_induction (fun s => s.replies.call? g = some p ∧ (∀ q ∈ s.replies.waiting, q.2 ≠ g) ∧
      s.replies.ran.filter (·.1 == g) = c.replies.ran.filter (·.1 == g))
    (fun s s' _ held stepped => by
      obtain ⟨call, out, ran⟩ := held
      obtain ⟨steps, -, registry⟩ := step_registry stepped
      obtain ⟨same, out', ran'⟩ :=
        ReplyRegistry.run_frozen registry (ReplyRegistry.lt_of_call? _ g call) out
      exact ⟨same.trans call, out', ran'.trans ran⟩) ⟨call, out, rfl⟩ ran

/-- Sending another call leaves a waiting call waiting and unchanged. -/
theorem send_keeps {c c' : Connection} {m : Message} {callback : Option Callback} {s : Int} {h : Handle}
    (coherent : c.replies.Coherent) (member : (s, h) ∈ c.replies.waiting)
    (stepped : c.step (.send m callback) = some c') :
    (s, h) ∈ c'.replies.waiting ∧ c'.replies.call? h = c.replies.call? h := by
  rcases step_send stepped with registered | ⟨h', r, registeredOk, discarded⟩
  · exact coherent.keeps_register member (by simpa [ReplyRegistry.run] using registered)
  · rw [ReplyRegistry.run_cons] at discarded
    obtain ⟨r₁, first, later⟩ := Option.bind_eq_some_iff.mp discarded
    obtain ⟨kept, same⟩ := coherent.keeps_register member first
    obtain ⟨-, -, -, rfl, -⟩ := ReplyRegistry.register_ok registeredOk
    have other : c.replies.calls.length ≠ h := by
      obtain ⟨p, call, -⟩ := coherent.waiting _ member
      exact Nat.ne_of_gt (ReplyRegistry.lt_of_call? _ h call)
    have coherent₁ := coherent.step (fun n same => by cases same) first
    obtain ⟨kept', same'⟩ := coherent₁.keeps_discard kept other (by simpa [ReplyRegistry.run] using later)
    exact ⟨kept', same'.trans same⟩

/-- A received message that does not answer a waiting call's serial leaves the call waiting and
unchanged. -/
theorem receive_keeps {c : Connection} {x : Message} {s : Int} {h : Handle} (coherent : c.replies.Coherent)
    (member : (s, h) ∈ c.replies.waiting) (unanswered : x.answers s = false) :
    (s, h) ∈ (c.dispatch x).replies.waiting ∧ (c.dispatch x).replies.call? h = c.replies.call? h := by
  cases kind : x.kind
  · rw [dispatch_ignored c (.inl kind)]
    exact ⟨member, rfl⟩
  · have other : x.replySerial.getD 0 ≠ s := by
      have positive := coherent.serials.2 _ member
      cases named : x.replySerial with
      | none => simp only [Option.getD_none]; omega
      | some s' => simpa [Message.answers, kind, named] using unanswered
    exact coherent.keeps_pop member other (dispatch_replies c (.inl kind))
  · have other : x.replySerial.getD 0 ≠ s := by
      have positive := coherent.serials.2 _ member
      cases named : x.replySerial with
      | none => simp only [Option.getD_none]; omega
      | some s' => simpa [Message.answers, kind, named] using unanswered
    exact coherent.keeps_pop member other (dispatch_replies c (.inr kind))
  · rw [dispatch_ignored c (.inr kind)]
    exact ⟨member, rfl⟩

/-- A received message that answers a waiting call's serial takes that call out and finishes it
as an answer. -/
theorem receive_answers {c : Connection} {x : Message} {s : Int} {h : Handle} (coherent : c.replies.Coherent)
    (member : (s, h) ∈ c.replies.waiting) (answers : x.answers s = true) :
    (c.dispatch x).replies = (c.replies.withdraw s).finish h (Finish.ofAnswer x) := by
  simp only [Message.answers, Bool.and_eq_true, Bool.or_eq_true, beq_iff_eq] at answers
  obtain ⟨reply, named⟩ := answers
  have stepped := dispatch_replies c reply
  rw [named, Option.getD_some] at stepped
  simp only [ReplyRegistry.step, coherent.pop_of_mem member] at stepped
  exact (Option.some.inj stepped).symm

/-- A call whose callback has not run has nothing in the callback log. -/
theorem filter_ran_of_not_mem {r : ReplyRegistry} {h : Handle} (notRan : h ∉ r.ran.map Prod.fst) :
    r.ran.filter (·.1 == h) = [] := by
  rw [List.filter_eq_nil_iff]
  intro x member same
  exact notRan (List.mem_map.mpr ⟨x, member, by simpa using same⟩)

/-- A waiting call through any traffic: the first received message that answers its serial
finishes it as an answer, running its callback once with a return; until then it waits
unchanged, and afterwards it never changes. -/
theorem run_answers {traffic : List Traffic} {c c' : Connection} {s : Int} {h : Handle} {p : PendingReply}
    (coherent : c.replies.Coherent) (member : (s, h) ∈ c.replies.waiting) (call : c.replies.call? h = some p)
    (ran : c.run traffic = some c') :
    c'.replies.call? h = some ((Traffic.firstAnswer s traffic).elim p fun x => p.finish (Finish.ofAnswer x)) ∧
      ((∃ q ∈ c'.replies.waiting, q.2 = h) ↔ Traffic.firstAnswer s traffic = none) ∧
      c'.replies.ran.filter (·.1 == h) = ((Traffic.firstAnswer s traffic).filter
        (fun x => x.kind == .methodReturn && p.callback.isSome)).toList.map ((h, ·)) := by
  induction traffic generalizing c with
  | nil =>
    cases ran
    obtain ⟨-, -, -, -, notRan⟩ := coherent.waiting _ member
    exact ⟨call, by simpa [Traffic.firstAnswer] using ⟨s, member⟩, by simp [Traffic.firstAnswer, filter_ran_of_not_mem notRan]⟩
  | cons a rest ih =>
    rw [run_cons] at ran
    obtain ⟨c₁, stepped, later⟩ := Option.bind_eq_some_iff.mp ran
    obtain ⟨steps, restarts, registry⟩ := step_registry stepped
    have coherent₁ := ReplyRegistry.run_coherent coherent (fun n member => absurd member (restarts n)) registry
    cases a with
    | send m callback =>
      obtain ⟨member₁, same⟩ := send_keeps coherent member stepped
      simpa [Traffic.firstAnswer] using ih coherent₁ member₁ (same.trans call) later
    | receive x =>
      cases stepped
      cases answers : x.answers s with
      | false =>
        obtain ⟨member₁, same⟩ := receive_keeps coherent member answers
        simpa [Traffic.firstAnswer, answers] using ih coherent₁ member₁ (same.trans call) later
      | true =>
        have taken := receive_answers coherent member answers
        obtain ⟨-, -, -, -, notRan⟩ := coherent.waiting _ member
        have call₁ : (c.dispatch x).replies.call? h = some (p.finish (Finish.ofAnswer x)) := by
          rw [taken, ReplyRegistry.call?_finish, if_pos rfl]
          show (c.replies.call? h).map (·.finish (Finish.ofAnswer x)) = _
          rw [call]
          rfl
        have out₁ : ∀ q ∈ (c.dispatch x).replies.waiting, q.2 ≠ h := by
          rw [taken]
          intro q kept same
          simp only [ReplyRegistry.waiting_finish, ReplyRegistry.withdraw, List.mem_filter, bne_iff_ne, ne_eq]
            at kept
          exact kept.2 ((coherent.serial_eq_iff kept.1 member).mpr same)
        obtain ⟨call₂, out₂, ran₂⟩ := run_frozen later call₁ out₁
        refine ⟨by simpa [Traffic.firstAnswer, answers] using call₂, ?_, ?_⟩
        · simp only [Traffic.firstAnswer, answers, if_true, reduceCtorEq, iff_false, not_exists, not_and]
          exact out₂
        · rw [ran₂, taken]
          have empty := filter_ran_of_not_mem notRan
          simp only [Traffic.firstAnswer, answers, if_true]
          by_cases kind : x.kind = .methodReturn
          · have finish : Finish.ofAnswer x = .complete x := if_pos kind
            have withdrawn : (c.replies.withdraw s).call? h = some p := call
            rw [finish]
            show ((c.replies.withdraw s).complete h x).ran.filter _ = _
            rw [ReplyRegistry.ran_complete, withdrawn, List.filter_append]
            show c.replies.ran.filter _ ++ _ = _
            rw [empty]
            cases found : p.callback <;> simp [found, kind, Option.filter_some]
          · have finish : Finish.ofAnswer x = .fail x.remoteError := if_neg kind
            rw [finish]
            simp [ReplyRegistry.finish, ReplyRegistry.fail, ReplyRegistry.modify, ReplyRegistry.withdraw, empty, kind]

/-- Waiting for an answered call gives the reply, or the error its callback raised, or the
remote error of an error reply. -/
theorem wait_answered {c : Connection} {h : Handle} {p : PendingReply} {x : Message}
    (call : c.replies.call? h = some (p.finish (Finish.ofAnswer x))) (unfailed : p.error = none)
    (timeout : Option Binary64) :
    (c.wait h timeout).1 = if x.kind = .methodReturn then (p.callback.bind (·.raises)).elim (.ok x) .failed
      else .failed x.remoteError := by
  have first : (c.wait h timeout).1 = (c.replies.wait h timeout).1 := by
    unfold wait
    cases c.replies.wait h timeout
    rfl
  rw [first]
  unfold ReplyRegistry.wait
  rw [call]
  by_cases kind : x.kind = .methodReturn
  · have finish : Finish.ofAnswer x = .complete x := if_pos kind
    rw [finish, if_pos kind]
    rcases found : p.callback with _ | ⟨_ | e⟩ <;>
      simp [PendingReply.finish, PendingReply.complete, ReplyRegistry.outcome, found, unfailed]
  · have finish : Finish.ofAnswer x = .fail x.remoteError := if_neg kind
    rw [finish, if_neg kind]
    simp [PendingReply.finish, PendingReply.fail, ReplyRegistry.outcome]

/-- A message that answers no waiting call changes nothing, except that an error reply is
reported. -/
theorem dispatch_unanswered {c : Connection} (coherent : c.replies.Coherent) {x : Message}
    (unanswered : ∀ q ∈ c.replies.waiting, x.answers q.1 = false) :
    c.dispatch x = if x.kind = .error then c.report x.remoteError else c := by
  have free (reply : x.kind = .methodReturn ∨ x.kind = .error) :
      ∀ q ∈ c.replies.waiting, q.1 ≠ x.replySerial.getD 0 := by
    intro q member same
    have positive := coherent.serials.2 q member
    have answered := unanswered q member
    cases named : x.replySerial with
    | none =>
      rw [named, Option.getD_none] at same
      omega
    | some s =>
      rw [named, Option.getD_some] at same
      subst same
      rcases reply with kind | kind <;> simp [Message.answers, kind, named] at answered
  unfold dispatch
  cases kind : x.kind
  · simp
  · simp [ReplyRegistry.pop_of_free (free (.inl kind))]
  · simp [ReplyRegistry.pop_of_free (free (.inr kind))]
  · simp

end Connection

/-- What becomes of the call `p`, registered under handle `h` and serial `serial`, through the
traffic `after`, which ends in `c`: the first message of the traffic that answers the serial
finishes it as an answer, and until then it waits unchanged; its callback runs once, with the
reply, when a return answers it; and waiting for it gives the reply, the error its callback
raised, or the remote error of an error reply. -/
structure Answered (c : Connection) (h : Handle) (serial : Int) (p : PendingReply) (after : List Traffic) :
    Prop where
  call : c.replies.call? h = some ((Traffic.firstAnswer serial after).elim p fun x => p.finish (Finish.ofAnswer x))
  waits : (∃ q ∈ c.replies.waiting, q.2 = h) ↔ Traffic.firstAnswer serial after = none
  callback : c.replies.ran.filter (·.1 == h) = ((Traffic.firstAnswer serial after).filter
    (fun x => x.kind == .methodReturn && p.callback.isSome)).toList.map ((h, ·))
  wait : ∀ x timeout, Traffic.firstAnswer serial after = some x →
    (c.wait h timeout).1 = if x.kind = .methodReturn then (p.callback.bind (·.raises)).elim (.ok x) .failed
      else .failed x.remoteError

set_option maxRecDepth 100000 in
/-- A new connection posts a call to member `M` of the object `/` as the call with serial one,
under handle zero, written little-endian. -/
theorem Connection.post_rootCall :
    (Connection.create Settings.defaults).post
      { kind := .methodCall, path := some (Text.ofString "/"), member := some (Text.ofString "M") } none =
      (.ok (0, ⟨#[108, 1, 0, 1, 0, 0, 0, 0, 1, 0, 0, 0, 26, 0, 0, 0, 1, 1, 111, 0, 1, 0, 0, 0, 47, 0, 0, 0,
        0, 0, 0, 0, 3, 1, 115, 0, 1, 0, 0, 0, 77, 0, 0, 0, 0, 0, 0, 0]⟩),
        { Connection.create Settings.defaults with
          replies :=
            { calls :=
                [{ message :=
                    { kind := .methodCall, serial := 1, path := some (Text.ofString "/")
                      member := some (Text.ofString "M") } }]
              waiting := [(1, 0)]
              next := 2 } }) := by
  with_unfolding_all rfl

/-- A call posted after a run from an empty registry leaves the registry coherent. -/
theorem Connection.post_coherent {c₀ c₁ c₁' : Connection} {before : List Traffic} {m : Message}
    {callback : Option Callback} {h : Handle} {frame : ByteArray}
    (fresh : c₀.replies = {}) (first : c₀.run before = some c₁)
    (sent : c₁.post m callback = (.ok (h, frame), c₁')) : c₁'.replies.Coherent := by
  have coherent₁ := Connection.run_coherent (fresh ▸ ReplyRegistry.coherent_empty) first
  obtain ⟨r, registered, replies⟩ := Connection.post_ok sent
  obtain ⟨serial, open_, found, rfl, rfl⟩ := ReplyRegistry.register_ok registered
  exact replies ▸ coherent₁.add open_ found

/-- A call posted after a run from an empty registry gets a serial from one to `serialMax`, and
any later traffic answers it as `Answered` says. -/
theorem Connection.post_answered {c₀ c₁ c₁' c₂ : Connection} {before after : List Traffic} {m : Message}
    {callback : Option Callback} {h : Handle} {frame : ByteArray}
    (fresh : c₀.replies = {}) (first : c₀.run before = some c₁)
    (sent : c₁.post m callback = (.ok (h, frame), c₁')) (second : c₁'.run after = some c₂) :
    ∃ serial, 1 ≤ serial ∧ serial ≤ serialMax ∧
      Answered c₂ h serial { message := { m with serial }, callback } after := by
  have coherent₁ := Connection.run_coherent (fresh ▸ ReplyRegistry.coherent_empty) first
  have coherent' := Connection.post_coherent fresh first sent
  obtain ⟨r, registered, replies⟩ := Connection.post_ok sent
  obtain ⟨serial, open_, found, rfl, rfl⟩ := ReplyRegistry.register_ok registered
  obtain ⟨-, -, below, positive⟩ := ReplyRegistry.freshSerial_spec found
  have member : (serial, c₁.replies.calls.length) ∈ c₁'.replies.waiting := by
    rw [replies]
    simp [ReplyRegistry.add]
  have call : c₁'.replies.call? c₁.replies.calls.length = some { message := { m with serial }, callback } := by
    rw [replies]
    exact ReplyRegistry.call?_add_self _ _ _ _
  obtain ⟨call₂, waiting₂, ran₂⟩ := Connection.run_answers coherent' member call second
  refine ⟨serial, positive coherent₁.counter, below, call₂, waiting₂, ran₂, fun x timeout answered => ?_⟩
  rw [answered] at call₂
  exact Connection.wait_answered call₂ rfl timeout

/-- Reply correlation over every run of a connection from an empty registry: a call sent with
its frame gets a serial from one to `serialMax` and is answered by the first message received
afterwards that answers that serial, and by nothing else (`Answered`); a message that answers
no waiting call changes nothing, except that an error reply is reported. -/
theorem Connection.run_correlates {c₀ c₁ c₁' c₂ : Connection} {before after : List Traffic} {m : Message}
    {callback : Option Callback} {h : Handle} {frame : ByteArray}
    (fresh : c₀.replies = {}) (first : c₀.run before = some c₁)
    (sent : c₁.post m callback = (.ok (h, frame), c₁')) (second : c₁'.run after = some c₂) :
    (∃ serial, 1 ≤ serial ∧ serial ≤ serialMax ∧ Answered c₂ h serial { message := { m with serial }, callback } after) ∧
    ∀ x, (∀ q ∈ c₂.replies.waiting, x.answers q.1 = false) →
      c₂.dispatch x = if x.kind = .error then c₂.report x.remoteError else c₂ :=
  ⟨Connection.post_answered fresh first sent second, fun _ unanswered => Connection.dispatch_unanswered
    (Connection.run_coherent (Connection.post_coherent fresh first sent) second) unanswered⟩

/-- A call to member `M` of the object `/` on a fresh connection, answered by a method return. -/
theorem Connection.run_correlates_return :
    ∃ (c₁ c₂ : Connection) (frame : ByteArray),
      (Connection.create Settings.defaults).post
        { kind := .methodCall, path := some (Text.ofString "/"), member := some (Text.ofString "M") } none =
        (.ok (0, frame), c₁) ∧
      c₁.run [.receive { kind := .methodReturn, serial := 1, replySerial := some 1 }] = some c₂ ∧
      (∃ serial, 1 ≤ serial ∧ serial ≤ serialMax ∧
        Answered c₂ 0 serial
          { message := { kind := .methodCall, serial, path := some (Text.ofString "/")
                         member := some (Text.ofString "M") } }
          [.receive { kind := .methodReturn, serial := 1, replySerial := some 1 }]) ∧
      ∀ x, (∀ q ∈ c₂.replies.waiting, x.answers q.1 = false) →
        c₂.dispatch x = if x.kind = .error then c₂.report x.remoteError else c₂ := by
  exact ⟨_, _, _, Connection.post_rootCall, rfl,
    @Connection.run_correlates _ _ _ _ [] _ _ _ _ _ rfl rfl Connection.post_rootCall rfl⟩

end MessageBus
