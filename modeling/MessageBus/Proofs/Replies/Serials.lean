import Mathlib
import MessageBus.Bus.Registry

namespace MessageBus

namespace ReplyRegistry

/-- Where the counter starts its search when it stands at `c`: at `c`, or at one when `c` is past
`serialMax`. -/
def searchStart (c : Int) : Int := if c > serialMax then 1 else c

/-- Whether the counter, searching from `start`, comes to serial `x` before serial `s`: it goes
from `start` up to `serialMax` and then from one. -/
def visitedBefore (start x s : Int) : Bool :=
  if start ≤ s then start ≤ x && x < s else start ≤ x || x < s

/-- `s` is the first serial not waiting, in the order the counter visits serials from `start`. -/
structure FirstFree (r : ReplyRegistry) (start s : Int) : Prop where
  positive : 1 ≤ s
  bounded : s ≤ serialMax
  free : r.contains s = false
  passed : ∀ x, 1 ≤ x → x ≤ serialMax → visitedBefore start x s = true → r.contains x = true

variable (r : ReplyRegistry)

theorem freshSerial_succ (fuel : Nat) (c : Int) :
    freshSerial r.waiting (fuel + 1) c =
      if c > serialMax then freshSerial r.waiting fuel 1
      else if r.contains c then freshSerial r.waiting fuel (c + 1) else some (c, c + 1) := rfl

/-- A search that reaches a free serial `s` before `serialMax`, passing only waiting serials on
the way, stops at `s`, given a step for every serial it passes and one for `s`. -/
theorem freshSerial_scan {s : Int} (free : r.contains s = false) (within : s ≤ serialMax) (n : Nat) :
    ∀ {c : Int} {fuel : Nat}, c + n = s → n < fuel → (∀ x, c ≤ x → x < s → r.contains x = true) →
      freshSerial r.waiting fuel c = some (s, s + 1) := by
  induction n with
  | zero =>
    intro c fuel reaches enough _
    obtain ⟨fuel, rfl⟩ := Nat.exists_eq_add_of_lt enough
    have here : c = s := by omega
    subst here
    rw [Nat.zero_add, freshSerial_succ, if_neg (by omega), free]
    rfl
  | succ n ih =>
    intro c fuel reaches enough busy
    obtain ⟨fuel, rfl⟩ := Nat.exists_eq_add_of_lt enough
    have waiting : r.contains c = true := busy c le_rfl (by omega)
    rw [freshSerial_succ, if_neg (by omega), waiting, if_pos rfl]
    exact ih (by omega) (by omega) fun x above below => busy x (by omega) below

/-- A search from `c` over serials that all wait up to `serialMax` goes back to one, after a step
for each of them and one for the serial past `serialMax`. -/
theorem freshSerial_wrap (fuel n : Nat) :
    ∀ {c : Int}, c + n = serialMax + 1 → (∀ x, c ≤ x → x ≤ serialMax → r.contains x = true) →
      freshSerial r.waiting (fuel + n + 1) c = freshSerial r.waiting fuel 1 := by
  induction n with
  | zero =>
    intro c past _
    rw [Nat.add_zero, freshSerial_succ, if_pos (by omega)]
  | succ n ih =>
    intro c reaches busy
    have waiting : r.contains c = true := busy c le_rfl (by omega)
    rw [show fuel + (n + 1) + 1 = fuel + n + 1 + 1 by omega, freshSerial_succ, if_neg (by omega), waiting,
      if_pos rfl]
    exact ih (by omega) fun x above below => busy x (by omega) below

/-- Serials that all wait are no more than the waiting calls. -/
theorem card_le_of_waiting {S : Finset Int} (busy : ∀ x ∈ S, r.contains x = true) :
    S.card ≤ r.waiting.length := by
  have inside : S ⊆ (r.waiting.map Prod.fst).toFinset := by
    intro x member
    obtain ⟨q, waiting, same⟩ := List.any_eq_true.mp (busy x member)
    exact List.mem_toFinset.mpr (List.mem_map.mpr ⟨q, waiting, by simpa using same⟩)
  calc S.card ≤ (r.waiting.map Prod.fst).toFinset.card := Finset.card_le_card inside
    _ ≤ (r.waiting.map Prod.fst).length := List.toFinset_card_le _
    _ = r.waiting.length := List.length_map _

/-- With fewer waiting calls than serials, some serial is free. -/
theorem exists_free (room : r.waiting.length < serialMax) :
    ∃ x, 1 ≤ x ∧ x ≤ serialMax ∧ r.contains x = false := by
  by_contra none
  have busy : ∀ x ∈ Finset.Icc 1 serialMax, r.contains x = true := by
    intro x member
    obtain ⟨above, below⟩ := Finset.mem_Icc.mp member
    by_contra free
    exact none ⟨x, above, below, by simpa using free⟩
  have count := r.card_le_of_waiting busy
  rw [Int.card_Icc] at count
  simp only [serialMax] at room count
  omega

/-- The first free serial of a range that has one, with every serial before it waiting. -/
theorem exists_first_free {a b : Int} (some_ : ∃ x, a ≤ x ∧ x ≤ b ∧ r.contains x = false) :
    ∃ s, a ≤ s ∧ s ≤ b ∧ r.contains s = false ∧ ∀ x, a ≤ x → x < s → r.contains x = true := by
  obtain ⟨s, ⟨above, below, free⟩, least⟩ :=
    Int.exists_least_of_bdd ⟨a, fun z found => found.1⟩ some_
  refine ⟨s, above, below, free, fun x after before => ?_⟩
  by_contra notBusy
  have := least x ⟨after, by omega, by simpa using notBusy⟩
  omega

/-- With a free serial between `start` and `serialMax`, the search stops at the first of them
without going back to one, given a step more than the waiting calls. -/
theorem freshSerial_ahead {start : Int} (ahead : ∃ x, start ≤ x ∧ x ≤ serialMax ∧ r.contains x = false)
    (fuel : Nat) (enough : r.waiting.length < fuel) :
    ∃ s, freshSerial r.waiting fuel start = some (s, s + 1) ∧ start ≤ s ∧ s ≤ serialMax ∧
      r.contains s = false ∧ ∀ x, start ≤ x → x < s → r.contains x = true := by
  obtain ⟨s, above, below, free, busy⟩ := r.exists_first_free ahead
  have count := r.card_le_of_waiting (S := Finset.Ico start s) fun x member =>
    busy x (Finset.mem_Ico.mp member).1 (Finset.mem_Ico.mp member).2
  rw [Int.card_Ico] at count
  exact ⟨s, r.freshSerial_scan free below (s - start).toNat (by omega) (by omega) busy, above, below, free, busy⟩

/-- With every serial from `start` to `serialMax` waiting and fewer waiting calls than serials,
the search goes back to one and stops at the first free serial, which lies before `start`, given
two steps more than the waiting calls: one to pass `serialMax`, one to take the serial. -/
theorem freshSerial_behind {start : Int} (low : 1 ≤ start) (high : start ≤ serialMax)
    (room : r.waiting.length < serialMax) (tail : ∀ x, start ≤ x → x ≤ serialMax → r.contains x = true)
    {fuel : Nat} (enough : r.waiting.length + 2 ≤ fuel) :
    ∃ s, freshSerial r.waiting fuel start = some (s, s + 1) ∧ 1 ≤ s ∧ s < start ∧
      r.contains s = false ∧ ∀ x, 1 ≤ x → x < s → r.contains x = true := by
  obtain ⟨x, xLow, xHigh, xFree⟩ := r.exists_free room
  have early : x < start := by
    by_contra late
    have := tail x (by omega) xHigh
    simp [xFree] at this
  obtain ⟨s, above, below, free, busy⟩ := r.exists_first_free ⟨x, xLow, (by omega : x ≤ start - 1), xFree⟩
  -- the serials passed on both sides of the wrap are all waiting, so they fit in the count
  have disjoint : Disjoint (Finset.Icc start serialMax) (Finset.Ico 1 s) := by
    refine Finset.disjoint_left.mpr fun y first second => ?_
    have := (Finset.mem_Icc.mp first).1
    have := (Finset.mem_Ico.mp second).2
    omega
  have count := r.card_le_of_waiting (S := Finset.Icc start serialMax ∪ Finset.Ico 1 s) fun y member => by
    rcases Finset.mem_union.mp member with first | second
    · exact tail y (Finset.mem_Icc.mp first).1 (Finset.mem_Icc.mp first).2
    · exact busy y (Finset.mem_Ico.mp second).1 (Finset.mem_Ico.mp second).2
  rw [Finset.card_union_of_disjoint disjoint, Int.card_Icc, Int.card_Ico] at count
  obtain ⟨rest, rfl⟩ : ∃ rest, fuel = rest + (serialMax + 1 - start).toNat + 1 :=
    ⟨fuel - (serialMax + 1 - start).toNat - 1, by simp only [serialMax] at count ⊢; omega⟩
  rw [r.freshSerial_wrap rest _ (by simp only [serialMax] at high ⊢; omega) tail]
  have scan : freshSerial r.waiting rest 1 = some (s, s + 1) :=
    r.freshSerial_scan free (by omega) (s - 1).toNat (by omega) (by simp only [serialMax] at count enough ⊢; omega) busy
  exact ⟨s, scan, above, by omega, free, busy⟩

/-- From a start within the serials, a search with two steps more than the waiting calls finds
the first free serial in cyclic order. -/
theorem freshSerial_from_start {start : Int} (low : 1 ≤ start) (high : start ≤ serialMax)
    (room : r.waiting.length < serialMax) {fuel : Nat} (enough : r.waiting.length + 2 ≤ fuel) :
    ∃ s, freshSerial r.waiting fuel start = some (s, s + 1) ∧ r.FirstFree start s := by
  by_cases ahead : ∃ x, start ≤ x ∧ x ≤ serialMax ∧ r.contains x = false
  · obtain ⟨s, found, above, below, free, busy⟩ := r.freshSerial_ahead ahead fuel (by omega)
    refine ⟨s, found, ⟨by omega, below, free, fun x _ _ before => ?_⟩⟩
    simp only [visitedBefore, if_pos above, Bool.and_eq_true, decide_eq_true_eq] at before
    exact busy x before.1 before.2
  · have tail : ∀ x, start ≤ x → x ≤ serialMax → r.contains x = true := by
      intro x above below
      by_contra free
      exact ahead ⟨x, above, below, by simpa using free⟩
    obtain ⟨s, found, above, below, free, busy⟩ := r.freshSerial_behind low high room tail enough
    refine ⟨s, found, ⟨above, by omega, free, fun y yLow yHigh before => ?_⟩⟩
    simp only [visitedBefore, if_neg (show ¬ start ≤ s by omega), Bool.or_eq_true, decide_eq_true_eq] at before
    rcases before with late | early
    · exact tail y late yHigh
    · exact busy y yLow early

/-- Registration's search for a serial ends while fewer than `serialMax` calls wait and the counter
stands at one or more: it gives the first serial not waiting in the cyclic order `c, c + 1, …,
serialMax, 1, 2, …` from the counter `c` (from one when `c` is past `serialMax`), and leaves the
counter just past it. -/
theorem freshSerial_cyclic (room : r.waiting.length < serialMax) (counted : 1 ≤ r.next) :
    ∃ s, freshSerial r.waiting (r.waiting.length + 3) r.next = some (s, s + 1) ∧
      r.FirstFree (searchStart r.next) s := by
  by_cases past : r.next > serialMax
  · rw [searchStart, if_pos past, freshSerial_succ, if_pos past]
    exact r.freshSerial_from_start le_rfl (by decide) room le_rfl
  · rw [searchStart, if_neg past]
    exact r.freshSerial_from_start counted (by omega) room (by omega)

/-- After a wrap with serial one still waiting, the counter passes over it. -/
theorem freshSerial_cyclic_wrap :
    ({ waiting := [(1, 0)], next := serialMax + 1 } : ReplyRegistry).waiting.length < serialMax ∧
      1 ≤ ({ waiting := [(1, 0)], next := serialMax + 1 } : ReplyRegistry).next ∧
      ∃ s, freshSerial [(1, 0)] 4 (serialMax + 1) = some (s, s + 1) ∧
        ({ waiting := [(1, 0)], next := serialMax + 1 } : ReplyRegistry).FirstFree (searchStart (serialMax + 1)) s :=
  ⟨by decide, by decide, freshSerial_cyclic { waiting := [(1, 0)], next := serialMax + 1 } (by decide) (by decide)⟩

example : freshSerial [(1, 0)] 4 (serialMax + 1) = some (2, 3) := by decide

end ReplyRegistry

end MessageBus
