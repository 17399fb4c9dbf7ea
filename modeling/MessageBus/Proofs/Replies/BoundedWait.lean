import Mathlib
import MessageBus.Proofs.Replies.Registry

namespace MessageBus

/-- Whether a step is one the connection takes on its registry: registering a call, the
dispatcher taking a call out by its serial and at once completing or failing it, cancelling,
waiting, closing. A bare discard, a call taken out and left, and a counter restart are not. -/
def RegistryStep.Disciplined : RegistryStep → Prop
  | .register _ _ => True
  | .pop _ (.complete _) => True
  | .pop _ (.fail _) => True
  | .pop _ .leave => False
  | .discard _ _ => False
  | .cancel _ => True
  | .wait _ _ => True
  | .close _ => True
  | .restart _ => False

/-- A call that is finished with an answer for its caller: a reply or an error. -/
def PendingReply.Resolved (p : PendingReply) : Prop := p.done = true ∧ (p.error.isSome ∨ p.response.isSome)

theorem PendingReply.resolved_finish (p : PendingReply) {how : Finish} (settles : how ≠ .leave) :
    (p.finish how).Resolved := by
  cases how with
  | complete reply => exact ⟨rfl, .inr rfl⟩
  | fail e => exact ⟨rfl, .inl rfl⟩
  | leave => exact absurd rfl settles

namespace ReplyRegistry

/-- A resolved call's outcome is the reply or the error it recorded, never a wait without end. -/
theorem outcome_ne_forever {p : PendingReply} (resolved : p.Resolved) : outcome p ≠ .forever := by
  unfold outcome
  obtain ⟨-, error | response⟩ := resolved
  · obtain ⟨e, found⟩ := Option.isSome_iff_exists.mp error
    simp [found]
  · obtain ⟨m, found⟩ := Option.isSome_iff_exists.mp response
    cases p.error <;> simp [found]

/-- The call that a step takes out of the registry and leaves unfinished: the call of a wait whose
time runs out while it is still waiting. -/
def lapses (r : ReplyRegistry) : RegistryStep → Option Handle
  | .wait h (some _) => if (r.discard h).1 && !r.poll h then some h else none
  | _ => none

/-- The calls that waits took out of the registry when their time ran out, over a run. -/
def lapsed (r : ReplyRegistry) : List RegistryStep → List Handle
  | [] => []
  | a :: rest =>
    match r.step a with
    | none => []
    | some r' => (r.lapses a).toList ++ r'.lapsed rest

/-- What a bounded wait on a call returns, when it returns: the call's outcome, the reply or the
error it recorded, once it is resolved; a time-out while it is still waiting. -/
def WaitReturns (r : ReplyRegistry) (h : Handle) (o : Outcome Message) : Prop :=
  ∃ p, r.call? h = some p ∧
    ((p.Resolved ∧ o = outcome p) ∨ ((∃ s, (s, h) ∈ r.waiting) ∧ ∃ text, o = .failed (.timeout text)))

section Wait

variable {r : ReplyRegistry} {h : Handle} {p : PendingReply}

theorem discard_of_waiting (coherent : r.Coherent) {s : Int} (member : (s, h) ∈ r.waiting) :
    ∃ p, r.call? h = some p ∧ p.done = false ∧ r.discard h = (true, r.withdraw p.serial) := by
  obtain ⟨p, call, serial, undone, -⟩ := coherent.waiting _ member
  simp only at call serial
  subst serial
  refine ⟨p, call, undone, ?_⟩
  unfold discard
  simp [call, member, withdraw]

theorem discard_of_out (call : r.call? h = some p) (out : ∀ q ∈ r.waiting, q.2 ≠ h) : r.discard h = (false, r) := by
  unfold discard
  rw [call]
  have missing : ¬ (p.serial, h) ∈ r.waiting := fun member => out _ member rfl
  simp [missing]

theorem wait_of_done (call : r.call? h = some p) (done : p.done = true) (timeout : Option Binary64) :
    r.wait h timeout = (outcome p, r) := by
  unfold wait
  simp [call, done]

/-- A bounded wait on a waiting call times out and takes the call out. -/
theorem wait_of_waiting (coherent : r.Coherent) {s : Int} (member : (s, h) ∈ r.waiting) (t : Binary64) :
    ∃ p text, r.call? h = some p ∧ p.done = false ∧ r.wait h (some t) = (.failed (.timeout text), r.withdraw p.serial) := by
  obtain ⟨p, call, undone, discarded⟩ := discard_of_waiting coherent member
  refine ⟨p, p.message.memberLabel ++ s!": no reply to serial {Digits.int p.serial} in {Binary64.fixed 2 t} sec",
    call, undone, ?_⟩
  unfold wait
  simp [call, undone, discarded]

/-- A bounded wait on an unfinished call that is out of the registry never returns. -/
theorem wait_of_out (call : r.call? h = some p) (undone : p.done = false) (out : ∀ q ∈ r.waiting, q.2 ≠ h)
    (t : Binary64) : r.wait h (some t) = (.forever, r) := by
  unfold wait
  simp [call, undone, discard_of_out call out]

/-- A wait without a time limit leaves the registry as it is. -/
theorem wait_unbounded_frame : (r.wait h none).2 = r := by
  unfold wait
  split
  · rfl
  · split <;> rfl

/-- A bounded wait leaves the registry as it is, or its time runs out on a waiting call, which it
takes out unfinished: the call lapses. -/
theorem wait_bounded_cases (t : Binary64) :
    ((r.wait h (some t)).2 = r ∧ r.lapses (.wait h (some t)) = none) ∨
    (∃ p, r.call? h = some p ∧ p.done = false ∧ (p.serial, h) ∈ r.waiting ∧
      (r.wait h (some t)).2 = r.withdraw p.serial ∧ r.lapses (.wait h (some t)) = some h) := by
  cases found : r.call? h with
  | none =>
    have unchanged : r.discard h = (false, r) := by simp [discard, found]
    refine .inl ⟨?_, by simp [lapses, unchanged]⟩
    unfold wait
    rw [found]
  | some p =>
    cases done : p.done with
    | true =>
      have polled : r.poll h = true := by simp [poll, found, done]
      exact .inl ⟨by rw [wait_of_done found done], by simp [lapses, polled]⟩
    | false =>
      have polled : r.poll h = false := by simp [poll, found, done]
      cases discarded : r.discard h with
      | mk taken r₁ =>
        cases taken with
        | true =>
          obtain ⟨p', found', member, rfl⟩ := discard_true discarded
          rw [found] at found'
          cases found'
          refine .inr ⟨p, rfl, done, member, ?_, by simp [lapses, discarded, polled]⟩
          unfold wait
          simp [found, done, discarded]
        | false =>
          obtain rfl := discard_false discarded
          refine .inl ⟨?_, by simp [lapses, discarded]⟩
          unfold wait
          simp [found, done, discarded]

end Wait

/-- Everything a disciplined step can do: nothing; register a call under a fresh serial; take a
waiting call out and finish it; let a bounded wait run out of time on a waiting call, which takes
it out unfinished and is the only step that lapses a call; or close. -/
theorem disciplined_step_cases {r r' : ReplyRegistry} {a : RegistryStep} (disciplined : a.Disciplined)
    (stepped : r.step a = some r') :
    (r' = r ∧ r.lapses a = none) ∨
    (∃ m callback serial, r.closed = none ∧
      freshSerial r.waiting (r.waiting.length + 3) r.next = some (serial, serial + 1) ∧
      r' = r.add m callback serial ∧ r.lapses a = none) ∨
    (∃ serial h how, (serial, h) ∈ r.waiting ∧ how ≠ .leave ∧ r' = (r.withdraw serial).finish h how ∧
      r.lapses a = none) ∨
    (∃ h p, r.call? h = some p ∧ p.done = false ∧ (p.serial, h) ∈ r.waiting ∧ r' = r.withdraw p.serial ∧
      r.lapses a = some h) ∨
    (∃ e, r' = (r.close e).2 ∧ r.lapses a = none) := by
  cases a with
  | register m callback =>
    rcases step_register stepped with same | ⟨serial, open_, found, rfl⟩
    · exact .inl ⟨same, rfl⟩
    · exact .inr (.inl ⟨m, callback, serial, open_, found, rfl, rfl⟩)
  | pop serial how =>
    have settles : how ≠ .leave := by
      rintro rfl
      exact disciplined
    rcases step_pop stepped with same | ⟨h, member, rfl⟩
    · exact .inl ⟨same, rfl⟩
    · exact .inr (.inr (.inl ⟨serial, h, how, member, settles, rfl, rfl⟩))
  | discard h how => exact absurd disciplined id
  | cancel h =>
    rcases step_cancel stepped with same | ⟨p, e, member, rfl⟩
    · exact .inl ⟨same, rfl⟩
    · exact .inr (.inr (.inl ⟨p.serial, h, .fail e, member, by simp, rfl, rfl⟩))
  | wait h timeout =>
    simp only [step] at stepped
    cases stepped
    cases timeout with
    | none => exact .inl ⟨wait_unbounded_frame, rfl⟩
    | some t =>
      rcases wait_bounded_cases t with ⟨kept, none_⟩ | ⟨p, call, undone, member, withdrawn, some_⟩
      · exact .inl ⟨kept, none_⟩
      · exact .inr (.inr (.inr (.inl ⟨h, p, call, undone, member, withdrawn, some_⟩)))
  | close e =>
    cases stepped
    exact .inr (.inr (.inr (.inr ⟨e, rfl, rfl⟩)))
  | restart next => exact absurd disciplined id

/-- What every registry a disciplined run reaches satisfies, `lapsed` being the calls that waits
took out when their time ran out: every registered call that has not lapsed is waiting or
resolved, and a lapsed call is registered, unfinished and out of the registry. -/
structure Accounted (r : ReplyRegistry) (lapsed : List Handle) : Prop where
  coherent : r.Coherent
  settled : ∀ h p, r.call? h = some p → h ∉ lapsed → (∃ s, (s, h) ∈ r.waiting) ∨ p.Resolved
  stuck : ∀ h ∈ lapsed, ∃ p, r.call? h = some p ∧ p.done = false ∧ ∀ q ∈ r.waiting, q.2 ≠ h

theorem accounted_empty : Accounted {} [] :=
  ⟨coherent_empty, fun _ _ found => by simp [call?] at found, by simp⟩

theorem Accounted.add {r : ReplyRegistry} {L : List Handle} (accounted : r.Accounted L) {m : Message}
    {callback : Option Callback} {serial : Int} (open_ : r.closed = none)
    (found : freshSerial r.waiting (r.waiting.length + 3) r.next = some (serial, serial + 1)) :
    (r.add m callback serial).Accounted L := by
  refine ⟨accounted.coherent.add open_ found, fun h p call fresh => ?_, fun h lapsedH => ?_⟩
  · rcases Nat.lt_or_ge h r.calls.length with old | new
    · rw [call?_add_of_lt r m callback serial old] at call
      rcases accounted.settled h p call fresh with ⟨s, member⟩ | resolved
      · exact .inl ⟨s, by simp [ReplyRegistry.add, member]⟩
      · exact .inr resolved
    · have registered : h < r.calls.length + 1 := by
        simpa [ReplyRegistry.add] using lt_of_call? _ _ call
      have same : h = r.calls.length := Nat.le_antisymm (Nat.lt_succ_iff.mp registered) new
      exact .inl ⟨serial, by simp [ReplyRegistry.add, same]⟩
  · obtain ⟨p, call, undone, out⟩ := accounted.stuck h lapsedH
    have old := lt_of_call? _ _ call
    refine ⟨p, by rw [call?_add_of_lt r m callback serial old, call], undone, fun q member => ?_⟩
    simp only [ReplyRegistry.add, List.mem_append, List.mem_singleton] at member
    rcases member with member | rfl
    · exact out q member
    · exact Nat.ne_of_gt old

theorem Accounted.withdraw_finish {r : ReplyRegistry} {L : List Handle} (accounted : r.Accounted L) {serial : Int}
    {h : Handle} (member : (serial, h) ∈ r.waiting) {how : Finish} (settles : how ≠ .leave) :
    ((r.withdraw serial).finish h how).Accounted L := by
  have coherent := accounted.coherent
  refine ⟨coherent.withdraw_finish member how, fun g p call fresh => ?_, fun g lapsedG => ?_⟩
  · rw [call?_finish] at call
    by_cases same : h = g
    · subst same
      rw [if_pos rfl] at call
      obtain ⟨p₀, call₀, rfl⟩ := Option.map_eq_some_iff.mp call
      exact .inr (p₀.resolved_finish settles)
    · rw [if_neg same] at call
      change r.call? g = some p at call
      rcases accounted.settled g p call fresh with ⟨s, waiting⟩ | resolved
      · exact .inl ⟨s, by simpa using coherent.waiting_withdraw waiting member (Ne.symm same)⟩
      · exact .inr resolved
  · obtain ⟨p, call, undone, out⟩ := accounted.stuck g lapsedG
    have other : h ≠ g := out _ member
    refine ⟨p, by rw [call?_finish, if_neg other]; exact call, undone, fun q kept => ?_⟩
    simp only [waiting_finish, withdraw, List.mem_filter] at kept
    exact out q kept.1

/-- A wait whose time runs out takes its call out unfinished: the call lapses. -/
theorem Accounted.lapse {r : ReplyRegistry} {L : List Handle} (accounted : r.Accounted L) {h : Handle}
    {p : PendingReply} (call : r.call? h = some p) (undone : p.done = false) (member : (p.serial, h) ∈ r.waiting) :
    (r.withdraw p.serial).Accounted (L ++ [h]) := by
  have coherent := accounted.coherent
  have kept : (r.withdraw p.serial).finish h .leave = r.withdraw p.serial := rfl
  refine ⟨kept ▸ coherent.withdraw_finish member .leave, fun g q call' fresh => ?_, fun g lapsedG => ?_⟩
  · have other : g ≠ h := fun same => fresh (by simp [same])
    have older : g ∉ L := fun old => fresh (List.mem_append_left _ old)
    change r.call? g = some q at call'
    rcases accounted.settled g q call' older with ⟨s, waiting⟩ | resolved
    · exact .inl ⟨s, coherent.waiting_withdraw waiting member other⟩
    · exact .inr resolved
  · rcases List.mem_append.mp lapsedG with old | new
    · obtain ⟨p', call', undone', out⟩ := accounted.stuck g old
      refine ⟨p', call', undone', fun q kept => out q (List.mem_filter.mp kept).1⟩
    · rw [List.mem_singleton.mp new]
      refine ⟨p, call, undone, fun q kept same => ?_⟩
      simp only [withdraw, List.mem_filter, bne_iff_ne, ne_eq] at kept
      obtain ⟨p', call', serial, -⟩ := coherent.waiting q kept.1
      rw [same, call] at call'
      cases call'
      exact kept.2 serial.symm

theorem Accounted.close {r : ReplyRegistry} {L : List Handle} (accounted : r.Accounted L) (e : BusError) :
    (r.close e).2.Accounted L := by
  have coherent := accounted.coherent
  obtain ⟨empty, -⟩ := close_frame r e
  refine ⟨coherent.close e, fun h p call fresh => ?_, fun h lapsedH => ?_⟩
  · rw [call?_close] at call
    split at call
    · obtain ⟨p₀, -, rfl⟩ := Option.map_eq_some_iff.mp call
      exact .inr (p₀.resolved_finish (show Finish.fail e ≠ .leave by simp))
    · rcases accounted.settled h p call fresh with ⟨s, member⟩ | resolved
      · rename_i notWaiting
        exact absurd (List.mem_map_of_mem (f := Prod.snd) member) notWaiting
      · exact .inr resolved
  · obtain ⟨p, call, undone, out⟩ := accounted.stuck h lapsedH
    have notWaiting : h ∉ r.waiting.map Prod.snd := by
      simpa using fun s member => out (s, h) member rfl
    refine ⟨p, by rw [call?_close, if_neg notWaiting, call], undone, by simp [empty]⟩

/-- One disciplined step keeps the invariant, the call it lapses, if any, added to the lapsed. -/
theorem Accounted.step {r r' : ReplyRegistry} {L : List Handle} {a : RegistryStep} (accounted : r.Accounted L)
    (disciplined : a.Disciplined) (stepped : r.step a = some r') : r'.Accounted (L ++ (r.lapses a).toList) := by
  rcases disciplined_step_cases disciplined stepped with
    ⟨rfl, none_⟩ | ⟨m, callback, serial, open_, found, rfl, none_⟩ | ⟨serial, h, how, member, settles, rfl, none_⟩ |
    ⟨h, p, call, undone, member, rfl, some_⟩ | ⟨e, rfl, none_⟩
  · simpa [none_] using accounted
  · simpa [none_] using accounted.add open_ found
  · simpa [none_] using accounted.withdraw_finish member settles
  · simpa [some_] using accounted.lapse call undone member
  · simpa [none_] using accounted.close e

/-- A disciplined run keeps the invariant, with the calls it lapsed added. -/
theorem Accounted.run {steps : List RegistryStep} {r r' : ReplyRegistry} {L : List Handle} (accounted : r.Accounted L)
    (disciplined : ∀ a ∈ steps, a.Disciplined) (ran : r.run steps = some r') :
    r'.Accounted (L ++ r.lapsed steps) := by
  induction steps generalizing r L with
  | nil =>
    cases ran
    simpa [lapsed] using accounted
  | cons a rest ih =>
    rw [run_cons] at ran
    obtain ⟨r₁, first, later⟩ := Option.bind_eq_some_iff.mp ran
    have next := accounted.step (disciplined a List.mem_cons_self) first
    have whole := ih next (fun b member => disciplined b (List.mem_cons_of_mem a member)) later
    simpa [lapsed, first, List.append_assoc] using whole

/-- Over every disciplined run from the empty registry: a registered call out of the registry is
resolved unless a wait on it timed out; and a bounded wait on a registered call blocks for ever
exactly when an earlier wait on it timed out, and otherwise returns the call's reply, the error it
recorded, or a time-out. -/
theorem bounded_wait_blocks_iff_lapsed {steps : List RegistryStep} {r : ReplyRegistry}
    (disciplined : ∀ a ∈ steps, a.Disciplined) (ran : ReplyRegistry.run {} steps = some r) :
    (∀ h p, r.call? h = some p → (∀ q ∈ r.waiting, q.2 ≠ h) → h ∉ lapsed {} steps → p.Resolved) ∧
    ∀ h < r.calls.length, ∀ t : Binary64,
      ((r.wait h (some t)).1 = .forever ↔ h ∈ lapsed {} steps) ∧
      (h ∉ lapsed {} steps → r.WaitReturns h (r.wait h (some t)).1) := by
  have accounted : r.Accounted (lapsed {} steps) := by
    simpa using accounted_empty.run disciplined ran
  refine ⟨fun h p call out fresh => ?_, fun h registered t => ?_⟩
  · rcases accounted.settled h p call fresh with ⟨s, member⟩ | resolved
    · exact absurd rfl (out _ member)
    · exact resolved
  · obtain ⟨p, call⟩ : ∃ p, r.call? h = some p := ⟨_, List.getElem?_eq_getElem registered⟩
    by_cases lapsedH : h ∈ lapsed {} steps
    · obtain ⟨p', call', undone, out⟩ := accounted.stuck h lapsedH
      rw [wait_of_out call' undone out t]
      exact ⟨⟨fun _ => lapsedH, fun _ => rfl⟩, fun fresh => absurd lapsedH fresh⟩
    · have returns : r.WaitReturns h (r.wait h (some t)).1 := by
        rcases accounted.settled h p call lapsedH with ⟨s, member⟩ | resolved
        · obtain ⟨p', text, call', -, waited⟩ := wait_of_waiting accounted.coherent member t
          exact ⟨p', call', .inr ⟨⟨s, member⟩, text, by rw [waited]⟩⟩
        · exact ⟨p, call, .inl ⟨resolved, by rw [wait_of_done call resolved.1]⟩⟩
      refine ⟨⟨fun blocked => ?_, fun lapsed' => absurd lapsed' lapsedH⟩, fun _ => returns⟩
      obtain ⟨p', call', (⟨resolved, answer⟩ | ⟨-, text, answer⟩)⟩ := returns
      · exact absurd (answer.symm.trans blocked) (outcome_ne_forever resolved)
      · rw [blocked] at answer
        cases answer

/-- A call registered, then waited on once until its time ran out: a second bounded wait on it
never returns. -/
theorem bounded_wait_blocks_after_timeout :
    ∃ r, ReplyRegistry.run {} [.register { kind := .methodCall } none, .wait 0 (some (Binary64.zero false))] = some r ∧
      (r.wait 0 (some (Binary64.zero false))).1 = .forever :=
  ⟨_, rfl, ((@bounded_wait_blocks_iff_lapsed
    [.register { kind := .methodCall } none, .wait 0 (some (Binary64.zero false))] _
    (by simp [RegistryStep.Disciplined]) rfl).2 0 (by decide) (Binary64.zero false)).1.mpr (by decide)⟩

end ReplyRegistry

end MessageBus
