import Mathlib
import MessageBus.Bus.Registry

namespace MessageBus

/-- How whoever took a call out of the registry finishes it: with a reply, with an error, or not
at all. -/
inductive Finish where
  | complete (reply : Message)
  | fail (e : BusError)
  | leave

/-- One operation on a reply registry. -/
inductive RegistryStep where
  /-- A caller registers a call. -/
  | register (m : Message) (callback : Option Callback)
  /-- The dispatcher takes out the call waiting for a serial, if any, and finishes it. -/
  | pop (serial : Int) (how : Finish)
  /-- A caller takes out its call, if still waiting, and finishes it. -/
  | discard (h : Handle) (how : Finish)
  /-- A caller cancels its call. -/
  | cancel (h : Handle)
  /-- A caller waits for the reply of its call, for a time or without end. -/
  | wait (h : Handle) (timeout : Option Binary64)
  /-- The connection closes the registry. -/
  | close (e : BusError)
  /-- The serial counter is set to count on from `next`. -/
  | restart (next : Int)

/-- What finishing does to a call. -/
def PendingReply.finish (p : PendingReply) : Finish → PendingReply
  | .complete reply => p.complete reply
  | .fail e => p.fail e
  | .leave => p

namespace ReplyRegistry

/-- Finish the call of a handle as `how` says. -/
def finish (r : ReplyRegistry) (h : Handle) : Finish → ReplyRegistry
  | .complete reply => r.complete h reply
  | .fail e => r.fail h e
  | .leave => r

/-- One step of a run: the registry after it, or none when the step never ends, as a
registration does when every serial is waiting. A refused registration changes nothing. -/
def step (r : ReplyRegistry) : RegistryStep → Option ReplyRegistry
  | .register m callback =>
    match r.register m callback with
    | .ok (_, r) => some r
    | .failed _ => some r
    | .forever => none
  | .pop serial how =>
    match r.pop serial with
    | (some h, r) => some (r.finish h how)
    | (none, r) => some r
  | .discard h how =>
    match r.discard h with
    | (true, r) => some (r.finish h how)
    | (false, r) => some r
  | .cancel h => some (r.cancel h).2
  | .wait h timeout => some (r.wait h timeout).2
  | .close e => some (r.close e).2
  | .restart next => some { r with next }

/-- The registry after a run of steps, when every step ends. -/
def run (r : ReplyRegistry) (steps : List RegistryStep) : Option ReplyRegistry :=
  steps.foldlM step r

/-- The registry with a call registered under `serial`. -/
def add (r : ReplyRegistry) (m : Message) (callback : Option Callback) (serial : Int) : ReplyRegistry :=
  { r with calls := r.calls ++ [{ message := { m with serial }, callback }],
           waiting := r.waiting ++ [(serial, r.calls.length)], next := serial + 1 }

/-- The registry with every waiting entry of a serial taken out. -/
def withdraw (r : ReplyRegistry) (serial : Int) : ReplyRegistry :=
  { r with waiting := r.waiting.filter (·.1 != serial) }

section Operations

variable (r : ReplyRegistry) (h g : Handle)

theorem call?_modify (f : PendingReply → PendingReply) :
    (r.modify h f).call? g = if h = g then (r.call? g).map f else r.call? g := by
  unfold modify call?
  rw [List.getElem?_modify]
  by_cases same : h = g <;> simp [same]

theorem call?_finish (how : Finish) :
    (r.finish h how).call? g = if h = g then (r.call? g).map (·.finish how) else r.call? g := by
  cases how with
  | complete reply =>
    show (r.complete h reply).call? g = _
    unfold complete
    cases found : r.call? h with
    | none =>
      by_cases same : h = g
      · subst same
        simp [found]
      · simp [same]
    | some p =>
      have calls : (if p.callback.isSome = true then { r with ran := r.ran ++ [(h, reply)] } else r).call? g =
          r.call? g := by
        split <;> rfl
      simp only
      rw [call?_modify, calls]
      rfl
  | fail e => exact call?_modify r h g _
  | leave =>
    by_cases same : h = g <;> simp [finish, same, PendingReply.finish]

/-- Completing a call changes only the calls and the callback log. -/
theorem complete_frame (reply : Message) :
    (r.complete h reply).waiting = r.waiting ∧ (r.complete h reply).closed = r.closed ∧
      (r.complete h reply).next = r.next ∧ (r.complete h reply).calls.length = r.calls.length := by
  unfold complete
  split
  · exact ⟨rfl, rfl, rfl, rfl⟩
  · dsimp only
    split <;> simp [modify]

@[simp] theorem waiting_finish (how : Finish) : (r.finish h how).waiting = r.waiting := by
  cases how with
  | complete reply => exact (complete_frame r h reply).1
  | fail e => rfl
  | leave => rfl

@[simp] theorem closed_finish (how : Finish) : (r.finish h how).closed = r.closed := by
  cases how with
  | complete reply => exact (complete_frame r h reply).2.1
  | fail e => rfl
  | leave => rfl

@[simp] theorem next_finish (how : Finish) : (r.finish h how).next = r.next := by
  cases how with
  | complete reply => exact (complete_frame r h reply).2.2.1
  | fail e => rfl
  | leave => rfl

@[simp] theorem length_calls_finish (how : Finish) : (r.finish h how).calls.length = r.calls.length := by
  cases how with
  | complete reply => exact (complete_frame r h reply).2.2.2
  | fail e => simp [finish, fail, modify]
  | leave => rfl

/-- Finishing a call runs its callback at most once: the log grows by at most that call. -/
theorem ran_finish (how : Finish) :
    (r.finish h how).ran = r.ran ∨ ∃ reply, (r.finish h how).ran = r.ran ++ [(h, reply)] := by
  cases how with
  | complete reply =>
    show (r.complete h reply).ran = r.ran ∨ ∃ reply', (r.complete h reply).ran = r.ran ++ [(h, reply')]
    unfold complete
    split
    · exact .inl rfl
    · dsimp only
      split
      · exact .inr ⟨reply, rfl⟩
      · exact .inl rfl
  | fail e => exact .inl rfl
  | leave => exact .inl rfl

/-- Completing a call runs its callback, when it has one, with the reply. -/
theorem ran_complete (reply : Message) :
    (r.complete h reply).ran = r.ran ++ (if (r.call? h).any (·.callback.isSome) then [(h, reply)] else []) := by
  unfold complete
  cases found : r.call? h with
  | none => simp
  | some p =>
    dsimp only
    by_cases callback : p.callback.isSome = true <;> simp [callback, modify]

theorem call?_add_of_lt (m : Message) (callback : Option Callback) (serial : Int) {g : Handle}
    (registered : g < r.calls.length) : (r.add m callback serial).call? g = r.call? g :=
  List.getElem?_append_left registered

theorem call?_add_self (m : Message) (callback : Option Callback) (serial : Int) :
    (r.add m callback serial).call? r.calls.length = some { message := { m with serial }, callback } :=
  List.getElem?_concat_length

theorem lt_of_call? {p : PendingReply} (found : r.call? g = some p) : g < r.calls.length := by
  obtain ⟨bound, -⟩ := List.getElem?_eq_some_iff.mp found
  exact bound

theorem fail_fail (p : PendingReply) (e : BusError) : (p.fail e).fail e = p.fail e := rfl

theorem call?_failEach (e : BusError) (L : List Handle) :
    (L.foldl (fun r h => r.fail h e) r).call? g = if g ∈ L then (r.call? g).map (·.fail e) else r.call? g := by
  induction L generalizing r with
  | nil => simp
  | cons h rest ih =>
    rw [List.foldl_cons, ih, fail, call?_modify]
    by_cases later : g ∈ rest
    · by_cases same : h = g
      · subst same
        cases r.call? h <;> simp [later, fail_fail]
      · simp [later, same]
    · by_cases same : h = g
      · simp [later, same]
      · simp [later, same, Ne.symm same]

/-- Closing fails every waiting call with the error, and leaves the other calls alone. -/
theorem call?_close (e : BusError) :
    (r.close e).2.call? g = if g ∈ r.waiting.map Prod.snd then (r.call? g).map (·.fail e) else r.call? g := by
  unfold close
  exact call?_failEach _ g e _

theorem failEach_frame (e : BusError) (L : List Handle) :
    (L.foldl (fun r h => r.fail h e) r).waiting = r.waiting ∧ (L.foldl (fun r h => r.fail h e) r).closed = r.closed ∧
      (L.foldl (fun r h => r.fail h e) r).next = r.next ∧ (L.foldl (fun r h => r.fail h e) r).ran = r.ran ∧
      (L.foldl (fun r h => r.fail h e) r).calls.length = r.calls.length := by
  induction L generalizing r with
  | nil => simp
  | cons h rest ih =>
    rw [List.foldl_cons]
    obtain ⟨waiting, closed, next, ran, length⟩ := ih (r.fail h e)
    exact ⟨waiting, closed, next, ran, length.trans (by simp [fail, modify])⟩

/-- After closing, nothing waits, the first error closed with is kept, and the counter, the
callback log and the number of calls are as they were. -/
theorem close_frame (e : BusError) :
    (r.close e).2.waiting = [] ∧ (r.close e).2.closed = r.closed.orElse (fun _ => some e) ∧
      (r.close e).2.next = r.next ∧ (r.close e).2.ran = r.ran ∧ (r.close e).2.calls.length = r.calls.length := by
  unfold close
  exact failEach_frame _ e _

end Operations

theorem pop_some {r r' : ReplyRegistry} {serial : Int} {h : Handle} (popped : r.pop serial = (some h, r')) :
    (serial, h) ∈ r.waiting ∧ r' = r.withdraw serial := by
  unfold pop at popped
  split at popped
  · rename_i s h' found
    cases popped
    have same : s = serial := by simpa using List.find?_some found
    subst same
    exact ⟨List.mem_of_find?_eq_some found, rfl⟩
  · cases popped

theorem pop_none {r r' : ReplyRegistry} {serial : Int} (popped : r.pop serial = (none, r')) : r' = r := by
  unfold pop at popped
  split at popped
  · cases popped
  · cases popped
    rfl

theorem discard_true {r r' : ReplyRegistry} {h : Handle} (discarded : r.discard h = (true, r')) :
    ∃ p, r.call? h = some p ∧ (p.serial, h) ∈ r.waiting ∧ r' = r.withdraw p.serial := by
  unfold discard at discarded
  split at discarded
  · cases discarded
  · rename_i p found
    split at discarded
    · rename_i waiting
      cases discarded
      exact ⟨p, found, List.contains_iff_mem.mp waiting, rfl⟩
    · cases discarded

theorem discard_false {r r' : ReplyRegistry} {h : Handle} (discarded : r.discard h = (false, r')) : r' = r := by
  unfold discard at discarded
  split at discarded
  · cases discarded
    rfl
  · split at discarded
    · cases discarded
    · cases discarded
      rfl

/-- A fresh serial is free, below `serialMax`, one or more when the counter is, and the counter
goes on after it. -/
theorem freshSerial_spec {waiting : List (Int × Handle)} {fuel : Nat} {next serial next' : Int}
    (found : freshSerial waiting fuel next = some (serial, next')) :
    next' = serial + 1 ∧ (∀ q ∈ waiting, q.1 ≠ serial) ∧ serial ≤ serialMax ∧ (1 ≤ next → 1 ≤ serial) := by
  induction fuel generalizing next with
  | zero => cases found
  | succ fuel ih =>
    unfold freshSerial at found
    split at found
    · exact ⟨(ih found).1, (ih found).2.1, (ih found).2.2.1, fun _ => (ih found).2.2.2 (by omega)⟩
    · rename_i below
      split at found
      · exact ⟨(ih found).1, (ih found).2.1, (ih found).2.2.1, fun positive => (ih found).2.2.2 (by omega)⟩
      · rename_i free
        cases found
        refine ⟨rfl, fun q member same => free ?_, by omega, id⟩
        exact List.any_eq_true.mpr ⟨q, member, by simp [same]⟩

theorem register_ok {r r' : ReplyRegistry} {m : Message} {callback : Option Callback} {h : Handle}
    (registered : r.register m callback = .ok (h, r')) :
    ∃ serial, r.closed = none ∧ freshSerial r.waiting (r.waiting.length + 3) r.next = some (serial, serial + 1) ∧
      h = r.calls.length ∧ r' = r.add m callback serial := by
  unfold register at registered
  split at registered
  · cases registered
  · rename_i open_
    split at registered
    · cases registered
    · rename_i serial next found
      cases registered
      obtain ⟨rfl, -⟩ := freshSerial_spec found
      exact ⟨serial, open_, found, rfl, rfl⟩

theorem register_closed {r : ReplyRegistry} {e : BusError} (closed : r.closed = some e) (m : Message)
    (callback : Option Callback) : r.register m callback = .failed (.closed e.message) := by
  unfold register
  rw [closed]

theorem step_discard_leave (r : ReplyRegistry) (h : Handle) : r.step (.discard h .leave) = some (r.discard h).2 := by
  simp only [step]
  cases r.discard h with
  | mk taken r₁ => cases taken <;> rfl

/-- A registration registers the call under a fresh serial, or is refused and changes nothing. -/
theorem step_register {r r' : ReplyRegistry} {m : Message} {callback : Option Callback}
    (stepped : r.step (.register m callback) = some r') :
    r' = r ∨ ∃ serial, r.closed = none ∧
      freshSerial r.waiting (r.waiting.length + 3) r.next = some (serial, serial + 1) ∧
      r' = r.add m callback serial := by
  simp only [step] at stepped
  split at stepped
  · rename_i h r₁ registered
    cases stepped
    obtain ⟨serial, open_, found, -, rfl⟩ := register_ok registered
    exact .inr ⟨serial, open_, found, rfl⟩
  · cases stepped
    exact .inl rfl
  · cases stepped

/-- A pop takes out the call waiting for the serial, with every entry of that serial, and
finishes it; when no call waits for the serial it changes nothing. -/
theorem step_pop {r r' : ReplyRegistry} {serial : Int} {how : Finish} (stepped : r.step (.pop serial how) = some r') :
    r' = r ∨ ∃ h, (serial, h) ∈ r.waiting ∧ r' = (r.withdraw serial).finish h how := by
  simp only [step] at stepped
  split at stepped
  · rename_i h r₁ popped
    cases stepped
    obtain ⟨waiting, rfl⟩ := pop_some popped
    exact .inr ⟨h, waiting, rfl⟩
  · rename_i r₁ popped
    cases stepped
    exact .inl (pop_none popped)

/-- A caller's discard takes its call out and finishes it, when it is still waiting; otherwise it
changes nothing. -/
theorem step_discard {r r' : ReplyRegistry} {h : Handle} {how : Finish} (stepped : r.step (.discard h how) = some r') :
    r' = r ∨ ∃ p : PendingReply, (p.serial, h) ∈ r.waiting ∧ r' = (r.withdraw p.serial).finish h how := by
  simp only [step] at stepped
  split at stepped
  · rename_i r₁ discarded
    cases stepped
    obtain ⟨p, -, waiting, rfl⟩ := discard_true discarded
    exact .inr ⟨p, waiting, rfl⟩
  · rename_i r₁ discarded
    cases stepped
    exact .inl (discard_false discarded)

/-- A cancellation takes the call out and fails it, when it is still waiting; otherwise it
changes nothing. -/
theorem step_cancel {r r' : ReplyRegistry} {h : Handle} (stepped : r.step (.cancel h) = some r') :
    r' = r ∨ ∃ (p : PendingReply) (e : BusError), (p.serial, h) ∈ r.waiting ∧ r' = (r.withdraw p.serial).finish h (.fail e) := by
  simp only [step, cancel] at stepped
  cases stepped
  split
  · rename_i r₁ discarded
    obtain ⟨p, -, waiting, rfl⟩ := discard_true discarded
    exact .inr ⟨p, _, waiting, rfl⟩
  · rename_i r₁ discarded
    exact .inl (discard_false discarded)

/-- Everything one step can do: nothing; register a call under a fresh serial; take a waiting
call out, with every entry of its serial, and finish it; close; or restart the counter. -/
theorem step_cases {r r' : ReplyRegistry} {a : RegistryStep} (stepped : r.step a = some r') :
    r' = r ∨
    (∃ m callback serial, r.closed = none ∧
      freshSerial r.waiting (r.waiting.length + 3) r.next = some (serial, serial + 1) ∧
      r' = r.add m callback serial) ∨
    (∃ serial h how, (serial, h) ∈ r.waiting ∧ r' = (r.withdraw serial).finish h how) ∨
    (∃ e, a = .close e ∧ r' = (r.close e).2) ∨
    (∃ next, a = .restart next ∧ r' = { r with next }) := by
  cases a with
  | register m callback =>
    rcases step_register stepped with same | ⟨serial, open_, found, rfl⟩
    · exact .inl same
    · exact .inr (.inl ⟨m, callback, serial, open_, found, rfl⟩)
  | pop serial how =>
    rcases step_pop stepped with same | ⟨h, waiting, rfl⟩
    · exact .inl same
    · exact .inr (.inr (.inl ⟨serial, h, how, waiting, rfl⟩))
  | discard h how =>
    rcases step_discard stepped with same | ⟨p, waiting, rfl⟩
    · exact .inl same
    · exact .inr (.inr (.inl ⟨p.serial, h, how, waiting, rfl⟩))
  | cancel h =>
    rcases step_cancel stepped with same | ⟨p, e, waiting, rfl⟩
    · exact .inl same
    · exact .inr (.inr (.inl ⟨p.serial, h, .fail e, waiting, rfl⟩))
  | wait h timeout =>
    simp only [step, wait] at stepped
    cases stepped
    split
    · exact .inl rfl
    · split
      · exact .inl rfl
      · split
        · exact .inl rfl
        · split
          · rename_i r₁ discarded
            obtain ⟨p, -, waiting, rfl⟩ := discard_true discarded
            exact .inr (.inr (.inl ⟨p.serial, h, .leave, waiting, rfl⟩))
          · rename_i r₁ discarded
            exact .inl (discard_false discarded)
  | close e =>
    cases stepped
    exact .inr (.inr (.inr (.inl ⟨e, rfl, rfl⟩)))
  | restart next =>
    cases stepped
    exact .inr (.inr (.inr (.inr ⟨next, rfl, rfl⟩)))

/-- What every registry a run reaches satisfies. -/
structure Coherent (r : ReplyRegistry) : Prop where
  /-- The counter stands at one or more. -/
  counter : 1 ≤ r.next
  /-- A waiting call is registered under its own serial, is unfinished, and its callback has not
  run. -/
  waiting : ∀ q ∈ r.waiting, ∃ p, r.call? q.2 = some p ∧ p.serial = q.1 ∧ p.done = false ∧
    q.2 ∉ r.ran.map Prod.fst
  /-- No two waiting calls share a serial, and every waiting serial is one or more. -/
  serials : (r.waiting.map Prod.fst).Nodup ∧ ∀ q ∈ r.waiting, 1 ≤ q.1
  /-- The callback of a call ran at most once, and only for a registered call. -/
  ran : (r.ran.map Prod.fst).Nodup ∧ ∀ x ∈ r.ran, x.1 < r.calls.length
  /-- A closed registry has nothing waiting. -/
  closed : r.closed.isSome → r.waiting = []

theorem coherent_empty : Coherent {} :=
  ⟨le_rfl, by simp, by simp, by simp, by simp⟩

theorem Coherent.add {r : ReplyRegistry} (coherent : r.Coherent) {m : Message} {callback : Option Callback}
    {serial : Int} (open_ : r.closed = none)
    (found : freshSerial r.waiting (r.waiting.length + 3) r.next = some (serial, serial + 1)) :
    (r.add m callback serial).Coherent := by
  obtain ⟨-, free, -, positive⟩ := freshSerial_spec found
  have positive := positive coherent.counter
  refine ⟨by simp only [ReplyRegistry.add]; omega, ?_, ?_, ?_, by simp [ReplyRegistry.add, open_]⟩
  · intro q member
    simp only [ReplyRegistry.add, List.mem_append, List.mem_singleton] at member
    rcases member with old | rfl
    · obtain ⟨p, call, serialEq, done, notRan⟩ := coherent.waiting q old
      exact ⟨p, (call?_add_of_lt r m callback serial (lt_of_call? r q.2 call)).trans call, serialEq, done, notRan⟩
    · refine ⟨_, call?_add_self r m callback serial, rfl, rfl, fun logged => ?_⟩
      obtain ⟨x, member, same⟩ := List.mem_map.mp logged
      have below := coherent.ran.2 x member
      rw [same] at below
      exact lt_irrefl _ below
  · refine ⟨?_, fun q member => ?_⟩
    · simp only [ReplyRegistry.add, List.map_append, List.map_cons, List.map_nil]
      refine List.Nodup.append coherent.serials.1 (List.nodup_singleton serial) ?_
      intro a older single
      obtain ⟨q, member, rfl⟩ := List.mem_map.mp older
      exact free q member (List.mem_singleton.mp single)
    · simp only [ReplyRegistry.add, List.mem_append, List.mem_singleton] at member
      rcases member with old | rfl
      · exact coherent.serials.2 q old
      · exact positive
  · refine ⟨coherent.ran.1, fun x member => ?_⟩
    simpa [ReplyRegistry.add] using Nat.lt_succ_of_lt (coherent.ran.2 x member)

theorem Coherent.withdraw_finish {r : ReplyRegistry} (coherent : r.Coherent) {serial : Int} {h : Handle}
    (member : (serial, h) ∈ r.waiting) (how : Finish) : ((r.withdraw serial).finish h how).Coherent := by
  obtain ⟨p, call, serialEq, -, notRan⟩ := coherent.waiting _ member
  -- the calls left waiting have other serials than the one taken out, so other handles
  have others : ∀ q ∈ (r.withdraw serial).waiting, q ∈ r.waiting ∧ q.2 ≠ h := by
    intro q kept
    simp only [withdraw, List.mem_filter, bne_iff_ne, ne_eq] at kept
    refine ⟨kept.1, fun same => kept.2 ?_⟩
    obtain ⟨p', call', serialEq', -⟩ := coherent.waiting q kept.1
    rw [same, call] at call'
    cases call'
    exact serialEq'.symm.trans serialEq
  have registered : h < r.calls.length := lt_of_call? r h call
  refine ⟨by simpa [withdraw] using coherent.counter, ?_, ?_, ?_, ?_⟩
  · intro q kept
    obtain ⟨old, other⟩ := others q (by simpa using kept)
    obtain ⟨p', call', serialEq', done', notRan'⟩ := coherent.waiting q old
    refine ⟨p', by rw [call?_finish, if_neg (Ne.symm other)]; exact call', serialEq', done', ?_⟩
    rcases ran_finish (r.withdraw serial) h how with same | ⟨reply, grown⟩
    · rw [same]
      exact notRan'
    · rw [grown]
      simpa [other, withdraw] using notRan'
  · simp only [waiting_finish, withdraw]
    refine ⟨coherent.serials.1.sublist ((List.filter_sublist).map _), fun q kept => ?_⟩
    exact coherent.serials.2 q (List.mem_filter.mp kept).1
  · rcases ran_finish (r.withdraw serial) h how with same | ⟨reply, grown⟩
    · rw [same, length_calls_finish]
      exact coherent.ran
    · rw [grown, length_calls_finish]
      refine ⟨?_, fun x logged => ?_⟩
      · rw [List.map_append]
        exact List.Nodup.append coherent.ran.1 (List.nodup_singleton h)
          (fun a older single => by
            rw [List.mem_singleton.mp single] at older
            exact notRan older)
      · rcases List.mem_append.mp logged with old | new
        · exact coherent.ran.2 x old
        · rw [List.mem_singleton.mp new]
          exact registered
  · intro isClosed
    rw [closed_finish] at isClosed
    rw [coherent.closed isClosed] at member
    cases member

theorem Coherent.close {r : ReplyRegistry} (coherent : r.Coherent) (e : BusError) : (r.close e).2.Coherent := by
  obtain ⟨waiting, -, next, ran, length⟩ := close_frame r e
  refine ⟨by rw [next]; exact coherent.counter, by simp [waiting], by simp [waiting], ?_, fun _ => waiting⟩
  rw [ran, length]
  exact coherent.ran

/-- One step keeps the invariant, given that a restarted counter counts from one or more. -/
theorem Coherent.step {r r' : ReplyRegistry} {a : RegistryStep} (coherent : r.Coherent)
    (restart : ∀ n, a = .restart n → 1 ≤ n) (stepped : r.step a = some r') : r'.Coherent := by
  rcases step_cases stepped with rfl | ⟨m, callback, serial, open_, found, rfl⟩ |
    ⟨serial, h, how, member, rfl⟩ | ⟨e, -, rfl⟩ | ⟨next, rfl, rfl⟩
  · exact coherent
  · exact coherent.add open_ found
  · exact coherent.withdraw_finish member how
  · exact coherent.close e
  · exact { coherent with counter := restart next rfl }

/-- One step leaves alone every registered call that is not waiting, and that call does not
wait again. -/
theorem step_frozen {r r' : ReplyRegistry} {a : RegistryStep} (stepped : r.step a = some r') {g : Handle}
    (registered : g < r.calls.length) (out : ∀ q ∈ r.waiting, q.2 ≠ g) :
    r'.call? g = r.call? g ∧ g < r'.calls.length ∧ (∀ q ∈ r'.waiting, q.2 ≠ g) ∧
      r'.ran.filter (·.1 == g) = r.ran.filter (·.1 == g) := by
  rcases step_cases stepped with rfl | ⟨m, callback, serial, -, -, rfl⟩ |
    ⟨serial, h, how, member, rfl⟩ | ⟨e, -, rfl⟩ | ⟨next, -, rfl⟩
  · exact ⟨rfl, registered, out, rfl⟩
  · refine ⟨call?_add_of_lt r m callback serial registered,
      by simpa [ReplyRegistry.add] using Nat.lt_succ_of_lt registered, ?_, rfl⟩
    intro q member
    simp only [ReplyRegistry.add, List.mem_append, List.mem_singleton] at member
    rcases member with old | rfl
    · exact out q old
    · exact Nat.ne_of_gt registered
  · have other : h ≠ g := out _ member
    refine ⟨by rw [call?_finish, if_neg other]; rfl, by simpa [withdraw] using registered, ?_, ?_⟩
    · intro q kept
      simp only [waiting_finish, withdraw, List.mem_filter] at kept
      exact out q kept.1
    · rcases ran_finish (r.withdraw serial) h how with same | ⟨reply, grown⟩
      · rw [same]
        rfl
      · rw [grown, List.filter_append]
        simp [withdraw, other]
  · obtain ⟨waiting, -, -, ran, length⟩ := close_frame r e
    have outside : g ∉ r.waiting.map Prod.snd := by
      simpa using fun s member => out (s, g) member rfl
    refine ⟨by rw [call?_close, if_neg outside], by rw [length]; exact registered, by simp [waiting],
      by rw [ran]⟩
  · exact ⟨rfl, registered, out, rfl⟩

/-- One step keeps a closed and empty registry so, with the same error. -/
theorem step_closed {r r' : ReplyRegistry} {a : RegistryStep} (stepped : r.step a = some r') {e : BusError}
    (closed : r.closed = some e) (empty : r.waiting = []) : r'.closed = some e ∧ r'.waiting = [] := by
  rcases step_cases stepped with rfl | ⟨m, callback, serial, open_, -, rfl⟩ |
    ⟨serial, h, how, member, rfl⟩ | ⟨e', -, rfl⟩ | ⟨next, -, rfl⟩
  · exact ⟨closed, empty⟩
  · rw [closed] at open_
    cases open_
  · rw [empty] at member
    cases member
  · obtain ⟨waiting, closed', -⟩ := close_frame r e'
    rw [closed', closed, waiting]
    exact ⟨rfl, rfl⟩
  · exact ⟨closed, empty⟩

/-- Two waiting calls have the same serial exactly when they are the same call. -/
theorem Coherent.serial_eq_iff {r : ReplyRegistry} (coherent : r.Coherent) {s s' : Int} {h g : Handle}
    (member : (s, h) ∈ r.waiting) (other : (s', g) ∈ r.waiting) : s = s' ↔ h = g := by
  constructor
  · intro same
    have entry := List.inj_on_of_nodup_map coherent.serials.1 member other same
    exact (Prod.mk.inj entry).2
  · rintro rfl
    obtain ⟨p, call, serial, -⟩ := coherent.waiting _ member
    obtain ⟨p', call', serial', -⟩ := coherent.waiting _ other
    rw [call] at call'
    cases call'
    exact serial.symm.trans serial'

/-- A call left waiting when another serial is taken out stays waiting. -/
theorem Coherent.waiting_withdraw {r : ReplyRegistry} (coherent : r.Coherent) {s serial : Int} {g h : Handle}
    (member : (s, g) ∈ r.waiting) (removed : (serial, h) ∈ r.waiting) (other : g ≠ h) :
    (s, g) ∈ (r.withdraw serial).waiting := by
  have differ : s ≠ serial := fun same => other ((coherent.serial_eq_iff member removed).mp same)
  simp [withdraw, member, differ]

/-- Taking out another waiting call leaves a waiting call waiting, and unchanged. -/
theorem Coherent.keeps_of_remove {r : ReplyRegistry} (coherent : r.Coherent) {s serial : Int} {h g : Handle}
    (member : (s, h) ∈ r.waiting) (removed : (serial, g) ∈ r.waiting) (other : g ≠ h) (how : Finish) :
    (s, h) ∈ ((r.withdraw serial).finish g how).waiting ∧ ((r.withdraw serial).finish g how).call? h = r.call? h := by
  refine ⟨?_, ?_⟩
  · rw [waiting_finish]
    exact coherent.waiting_withdraw member removed other.symm
  · rw [call?_finish, if_neg other]
    rfl

theorem Coherent.keeps_register {r r' : ReplyRegistry} (coherent : r.Coherent) {m : Message}
    {callback : Option Callback} {s : Int} {h : Handle} (member : (s, h) ∈ r.waiting)
    (stepped : r.step (.register m callback) = some r') : (s, h) ∈ r'.waiting ∧ r'.call? h = r.call? h := by
  rcases step_register stepped with rfl | ⟨serial, -, -, rfl⟩
  · exact ⟨member, rfl⟩
  · obtain ⟨p, call, -⟩ := coherent.waiting _ member
    exact ⟨by simp [ReplyRegistry.add, member], call?_add_of_lt r m callback serial (lt_of_call? r h call)⟩

theorem Coherent.keeps_pop {r r' : ReplyRegistry} (coherent : r.Coherent) {s serial : Int} {h : Handle}
    {how : Finish} (member : (s, h) ∈ r.waiting) (other : serial ≠ s)
    (stepped : r.step (.pop serial how) = some r') : (s, h) ∈ r'.waiting ∧ r'.call? h = r.call? h := by
  rcases step_pop stepped with rfl | ⟨g, removed, rfl⟩
  · exact ⟨member, rfl⟩
  · exact coherent.keeps_of_remove member removed
      (fun same => other ((coherent.serial_eq_iff removed member).mpr same)) how

theorem Coherent.keeps_discard {r r' : ReplyRegistry} (coherent : r.Coherent) {s : Int} {h g : Handle}
    {how : Finish} (member : (s, h) ∈ r.waiting) (other : g ≠ h)
    (stepped : r.step (.discard g how) = some r') : (s, h) ∈ r'.waiting ∧ r'.call? h = r.call? h := by
  rcases step_discard stepped with rfl | ⟨p, removed, rfl⟩
  · exact ⟨member, rfl⟩
  · exact coherent.keeps_of_remove member removed other how

/-- The serial of a waiting call takes out that call. -/
theorem Coherent.pop_of_mem {r : ReplyRegistry} (coherent : r.Coherent) {s : Int} {h : Handle}
    (member : (s, h) ∈ r.waiting) : r.pop s = (some h, r.withdraw s) := by
  unfold pop
  cases found : r.waiting.find? (·.1 == s) with
  | none =>
    have := List.find?_eq_none.mp found _ member
    simp at this
  | some q =>
    obtain ⟨s', g⟩ := q
    have same : s' = s := by simpa using List.find?_some found
    subst same
    have : s' = s' ↔ g = h := coherent.serial_eq_iff (List.mem_of_find?_eq_some found) member
    rw [this.mp rfl]
    rfl

/-- A serial that no call waits for takes out nothing. -/
theorem pop_of_free {r : ReplyRegistry} {serial : Int} (free : ∀ q ∈ r.waiting, q.1 ≠ serial) :
    r.pop serial = (none, r) := by
  unfold pop
  rw [List.find?_eq_none.mpr fun q member => by simpa using free q member]

theorem run_cons (r : ReplyRegistry) (a : RegistryStep) (steps : List RegistryStep) :
    r.run (a :: steps) = (r.step a).bind (·.run steps) := by
  simp only [run, List.foldlM_cons]
  rfl

/-- What every step keeps, a run keeps. -/
theorem run_induction (P : ReplyRegistry → Prop) {steps : List RegistryStep}
    (preserve : ∀ r r' a, a ∈ steps → P r → r.step a = some r' → P r') {r r' : ReplyRegistry}
    (start : P r) (ran : r.run steps = some r') : P r' := by
  induction steps generalizing r with
  | nil =>
    cases ran
    exact start
  | cons a rest ih =>
    rw [run_cons] at ran
    obtain ⟨r₁, first, later⟩ := Option.bind_eq_some_iff.mp ran
    exact ih (fun r r' b member => preserve r r' b (List.mem_cons_of_mem a member))
      (preserve r r₁ a List.mem_cons_self start first) later

theorem run_coherent {steps : List RegistryStep} {r r' : ReplyRegistry} (coherent : r.Coherent)
    (restarts : ∀ n, RegistryStep.restart n ∈ steps → 1 ≤ n) (ran : r.run steps = some r') : r'.Coherent :=
  run_induction Coherent (fun _ _ _ member coherent stepped =>
    coherent.step (fun n same => restarts n (same ▸ member)) stepped) coherent ran

theorem run_frozen {steps : List RegistryStep} {r r' : ReplyRegistry} (ran : r.run steps = some r') {g : Handle}
    (registered : g < r.calls.length) (out : ∀ q ∈ r.waiting, q.2 ≠ g) :
    r'.call? g = r.call? g ∧ (∀ q ∈ r'.waiting, q.2 ≠ g) ∧ r'.ran.filter (·.1 == g) = r.ran.filter (·.1 == g) := by
  have kept := run_induction (fun s => s.call? g = r.call? g ∧ g < s.calls.length ∧ (∀ q ∈ s.waiting, q.2 ≠ g) ∧
      s.ran.filter (·.1 == g) = r.ran.filter (·.1 == g))
    (fun s s' _ _ held stepped => by
      obtain ⟨same, registered, out, ran⟩ := held
      obtain ⟨same', registered', out', ran'⟩ := step_frozen stepped registered out
      exact ⟨same'.trans same, registered', out', ran'.trans ran⟩) ⟨rfl, registered, out, rfl⟩ ran
  exact ⟨kept.1, kept.2.2.1, kept.2.2.2⟩

theorem run_closed {steps : List RegistryStep} {r r' : ReplyRegistry} (ran : r.run steps = some r') {e : BusError}
    (closed : r.closed = some e) (empty : r.waiting = []) : r'.closed = some e ∧ r'.waiting = [] :=
  run_induction (fun s => s.closed = some e ∧ s.waiting = [])
    (fun _ _ _ _ held stepped => step_closed stepped held.1 held.2) ⟨closed, empty⟩ ran

/-- What a registry guarantees between two points `r₁` and `r₂` of a run, the steps after `r₁`
being `after`. -/
structure RunContract (r₁ : ReplyRegistry) (after : List RegistryStep) (r₂ : ReplyRegistry) : Prop where
  /-- A registration gets a serial from one to `serialMax` that no waiting call has. -/
  fresh : ∀ m callback h r, r₂.register m callback = .ok (h, r) →
    ∃ p, r.call? h = some p ∧ 1 ≤ p.serial ∧ p.serial ≤ serialMax ∧ ∀ q ∈ r₂.waiting, q.1 ≠ p.serial
  /-- Every waiting call is registered under its own serial, and is unfinished. -/
  keyed : ∀ q ∈ r₂.waiting, ∃ p, r₂.call? q.2 = some p ∧ p.serial = q.1 ∧ p.done = false
  /-- A call taken out is never taken out again: it does not wait any more, and never changes. -/
  outStays : ∀ h < r₁.calls.length, (∀ q ∈ r₁.waiting, q.2 ≠ h) →
    r₂.call? h = r₁.call? h ∧ ∀ q ∈ r₂.waiting, q.2 ≠ h
  /-- A finished call never changes: its reply and error are final. -/
  finishedStays : ∀ h, r₁.poll h = true → r₂.call? h = r₁.call? h
  /-- The callback of each call runs at most once. -/
  callbacksOnce : (r₂.ran.map Prod.fst).Nodup
  /-- After the first closing, the registry stays empty and refuses every registration with the
  error it was closed with, changing nothing; every call that was waiting failed with it. -/
  closing : ∀ e rest, r₁.closed = none → after = .close e :: rest →
    r₂.waiting = [] ∧
    (∀ m callback, r₂.register m callback = .failed (.closed e.message) ∧
      r₂.step (.register m callback) = some r₂) ∧
    ∀ q ∈ r₁.waiting, ∃ p, r₁.call? q.2 = some p ∧ r₂.call? q.2 = some (p.fail e)

theorem Coherent.not_waiting_of_poll {r : ReplyRegistry} (coherent : r.Coherent) {h : Handle}
    (done : r.poll h = true) : ∃ p, r.call? h = some p ∧ ∀ q ∈ r.waiting, q.2 ≠ h := by
  obtain ⟨p, call, finished⟩ : ∃ p, r.call? h = some p ∧ p.done = true := by
    unfold poll at done
    cases found : r.call? h with
    | none => simp [found] at done
    | some p => exact ⟨p, rfl, by simpa [found] using done⟩
  refine ⟨p, call, fun q member same => ?_⟩
  obtain ⟨p', call', -, unfinished, -⟩ := coherent.waiting q member
  rw [same, call] at call'
  cases call'
  rw [finished] at unfinished
  cases unfinished

/-- Closing an open registry closes it with that error and fails every waiting call with it. -/
theorem close_open {r : ReplyRegistry} (open_ : r.closed = none) (e : BusError) :
    (r.close e).2.closed = some e ∧ (r.close e).2.waiting = [] ∧
      ∀ q ∈ r.waiting, (r.close e).2.call? q.2 = (r.call? q.2).map (·.fail e) := by
  obtain ⟨waiting, closed, -⟩ := close_frame r e
  refine ⟨by rw [closed, open_]; rfl, waiting, fun q member => ?_⟩
  rw [call?_close, if_pos (List.mem_map_of_mem member)]

/-- The contract of a reply registry over every run from the empty registry in which the serial
counter is only ever restarted at one or more, at any two points of the run. -/
theorem run_contract {before after : List RegistryStep} {r₁ r₂ : ReplyRegistry}
    (restarts : ∀ n, RegistryStep.restart n ∈ before ++ after → 1 ≤ n)
    (first : ReplyRegistry.run {} before = some r₁) (second : r₁.run after = some r₂) :
    RunContract r₁ after r₂ := by
  have coherent₁ := run_coherent coherent_empty (fun n member => restarts n (List.mem_append_left _ member)) first
  have coherent₂ := run_coherent coherent₁ (fun n member => restarts n (List.mem_append_right _ member)) second
  refine ⟨?fresh, ?keyed, fun h registered out => (run_frozen second registered out).imp_right And.left, ?finished,
    coherent₂.ran.1, ?closing⟩
  case fresh =>
    intro m callback h r registered
    obtain ⟨serial, -, found, rfl, rfl⟩ := register_ok registered
    obtain ⟨-, free, below, positive⟩ := freshSerial_spec found
    exact ⟨_, call?_add_self r₂ m callback serial, positive coherent₂.counter, below, free⟩
  case keyed =>
    intro q member
    obtain ⟨p, call, serialEq, unfinished, -⟩ := coherent₂.waiting q member
    exact ⟨p, call, serialEq, unfinished⟩
  case finished =>
    intro h done
    obtain ⟨p, call, out⟩ := coherent₁.not_waiting_of_poll done
    exact (run_frozen second (lt_of_call? r₁ h call) out).1
  case closing =>
    intro e rest open_ closing
    subst closing
    rw [run_cons] at second
    obtain ⟨r, closeStep, later⟩ := Option.bind_eq_some_iff.mp second
    cases closeStep
    obtain ⟨closed, empty, failed⟩ := close_open open_ e
    obtain ⟨closed₂, empty₂⟩ := run_closed later closed empty
    refine ⟨empty₂, fun m callback => ⟨register_closed closed₂ m callback, ?_⟩, fun q member => ?_⟩
    · simp [step, register_closed closed₂]
    · obtain ⟨p, call, -⟩ := coherent₁.waiting q member
      have registered : q.2 < (r₁.close e).2.calls.length := by
        rw [(close_frame r₁ e).2.2.2.2]
        exact lt_of_call? r₁ q.2 call
      have kept := (run_frozen later registered (by simp [empty])).1
      rw [failed q member, call] at kept
      exact ⟨p, call, kept⟩

/-- Two calls registered from a counter restarted at `serialMax`, the second after the wrap, then
the registry closed: the contract at the points around the closing. -/
theorem run_contract_wrap_close :
    ∃ r₁ r₂, ReplyRegistry.run {} [.restart serialMax, .register { kind := .methodCall } none,
        .register { kind := .methodCall } none] = some r₁ ∧
      r₁.run [.close (.closed "gone")] = some r₂ ∧ RunContract r₁ [.close (.closed "gone")] r₂ :=
  ⟨_, _, rfl, rfl, @run_contract [.restart serialMax, .register { kind := .methodCall } none,
    .register { kind := .methodCall } none] [.close (.closed "gone")] _ _ (by simp [serialMax]) rfl rfl⟩

end ReplyRegistry

end MessageBus
