import Mathlib
import MessageBus.Proofs.Octets
import MessageBus.Signature.Check

namespace MessageBus.Sig

/-- What a basic type accepts. -/
theorem check_basic {b : Basic} {v : Value} (checked : (Sig.basic b).check v = .ok ()) :
    (∃ low high n, b.range? = some (low, high) ∧ v = .int n ∧ low ≤ n ∧ n ≤ high) ∨
    (b = .boolean ∧ ∃ t, v = .bool t) ∨
    (b = .double ∧ ((∃ n, v = .int n) ∨ ∃ x, v = .float x)) ∨
    ((b = .string ∨ b = .objectPath) ∧ ∃ t, v = .str t) ∨
    (b = .signature ∧ ∃ t ts, v = .str t ∧ Signature.parse t = .ok ts) := by
  unfold Sig.check at checked
  split at checked
  · rename_i low high range
    split at checked
    · rename_i n
      split at checked
      · cases checked
      · rename_i inside
        simp only [Bool.or_eq_true, decide_eq_true_eq, not_or, not_lt] at inside
        exact .inl ⟨low, high, n, range, rfl, inside.1, inside.2⟩
    · cases checked
  · rename_i none_
    split at checked
    · split at checked
      · exact .inr (.inl ⟨rfl, _, rfl⟩)
      · cases checked
    · split at checked
      · exact .inr (.inr (.inl ⟨rfl, .inl ⟨_, rfl⟩⟩))
      · exact .inr (.inr (.inl ⟨rfl, .inr ⟨_, rfl⟩⟩))
      · cases checked
    · rename_i notBoolean notDouble
      split at checked
      · rename_i t
        split at checked
        · cases checked
        split at checked
        · cases checked
        split at checked
        · rename_i isSignature
          split at checked
          · rename_i ts parsed
            exact .inr (.inr (.inr (.inr ⟨by simpa using isSignature, t, ts, rfl, parsed⟩)))
          · cases checked
        · rename_i notSignature
          refine .inr (.inr (.inr (.inl ⟨?_, t, rfl⟩)))
          cases b <;> simp_all [Basic.range?]
      · cases checked

theorem check_variant {v : Value} (checked : Sig.variant.check v = .ok ()) :
    ∃ sig inner t, v = .variant (.str sig) inner ∧ Signature.parse sig = .ok [t] ∧ t.check inner = .ok () := by
  unfold Sig.check at checked
  split at checked
  · rename_i sig inner
    split at checked
    · rename_i t single
      cases sig with
      | str text => exact ⟨text, inner, t, rfl, single, checked⟩
      | _ => simp [Signature.ofValue] at single
    · cases checked
  · cases checked

theorem checkEach_ok {s : Sig} {xs : List Value} : checkEach s xs = .ok () ↔ ∀ x ∈ xs, s.check x = .ok () := by
  induction xs with
  | nil => simp [checkEach]
  | cons x rest ih =>
    rw [checkEach]
    split <;> simp_all

theorem check_array {e : Sig} {v : Value} (checked : (Sig.array e).check v = .ok ()) :
    (∃ xs, (v = .list xs ∨ v = .tuple xs) ∧ ∀ x ∈ xs, e.check x = .ok ()) ∨
    (e = .basic .byte ∧ ∃ b, v = .bytes b) := by
  unfold Sig.check at checked
  split at checked
  · exact .inl ⟨_, .inl rfl, checkEach_ok.mp checked⟩
  · exact .inl ⟨_, .inr rfl, checkEach_ok.mp checked⟩
  · split at checked
    · exact .inr ⟨rfl, _, rfl⟩
    · cases checked
  · cases checked

theorem checkEntries_ok {key : Basic} {value : Sig} {entries : List (Value × Value)} :
    checkEntries key value entries = .ok () ↔
      ∀ entry ∈ entries, (Sig.basic key).check entry.1 = .ok () ∧ value.check entry.2 = .ok () := by
  induction entries with
  | nil => simp [checkEntries]
  | cons entry rest ih =>
    obtain ⟨k, x⟩ := entry
    rw [checkEntries]
    split
    · simp_all
    · split <;> simp_all

theorem check_dict {key : Basic} {value : Sig} {v : Value} (checked : (Sig.dict key value).check v = .ok ()) :
    ∃ entries, v = .dict entries ∧
      ∀ entry ∈ entries, (Sig.basic key).check entry.1 = .ok () ∧ value.check entry.2 = .ok () := by
  unfold Sig.check at checked
  split at checked
  · exact ⟨_, rfl, checkEntries_ok.mp checked⟩
  · cases checked

theorem checkZip_ok {fields : List Sig} {xs : List Value} (same : fields.length = xs.length) :
    checkZip fields xs = .ok () ↔ ∀ pair ∈ fields.zip xs, pair.1.check pair.2 = .ok () := by
  induction fields generalizing xs with
  | nil => simp [checkZip]
  | cons f fs ih =>
    cases xs with
    | nil => simp at same
    | cons x rest =>
      rw [checkZip]
      split <;> simp_all

/-- A sequence checked against the fields of a struct has one value per field, each checked
against its field. -/
theorem checkFields_ok {code : Text} {fields : List Sig} {xs : List Value}
    (checked : (if fields.length != xs.length then .error (.fieldCount code fields.length xs.length)
      else checkZip fields xs) = .ok ()) :
    fields.length = xs.length ∧ ∀ pair ∈ fields.zip xs, pair.1.check pair.2 = .ok () := by
  have same : fields.length = xs.length := by
    by_contra differ
    simp [differ] at checked
  simp only [same, bne_self_eq_false, Bool.false_eq_true, if_false] at checked
  exact ⟨same, (checkZip_ok same).mp checked⟩

theorem check_struct {fields : List Sig} {v : Value} (checked : (Sig.struct fields).check v = .ok ()) :
    ∃ xs, (v = .list xs ∨ v = .tuple xs) ∧ fields.length = xs.length ∧
      ∀ pair ∈ fields.zip xs, pair.1.check pair.2 = .ok () := by
  unfold Sig.check at checked
  split at checked
  · exact ⟨_, .inl rfl, checkFields_ok checked⟩
  · exact ⟨_, .inr rfl, checkFields_ok checked⟩
  · cases checked

end MessageBus.Sig

namespace MessageBus

theorem Signature.validate_go_ok {i : Nat} {ts : List Sig} {args : List Value}
    (valid : Signature.validate.go i ts args = .ok ()) : ∀ pair ∈ ts.zip args, pair.1.check pair.2 = .ok () := by
  induction ts generalizing i args with
  | nil => simp
  | cons t rest ih =>
    cases args with
    | nil => simp
    | cons a later =>
      unfold Signature.validate.go at valid
      split at valid
      · cases valid
      rename_i checked
      intro pair member
      rcases List.mem_cons.mp (List.zip_cons_cons ▸ member) with rfl | member
      · exact checked
      · exact ih valid pair member

/-- Arguments that fit a signature: it reads as complete types, one per argument, and each
argument checks against its type. -/
theorem Signature.validate_ok {sig : Text} {args : List Value} (valid : Signature.validate (.str sig) args = .ok ()) :
    ∃ types, Signature.parse sig = .ok types ∧ types.length = args.length ∧
      ∀ pair ∈ types.zip args, pair.1.check pair.2 = .ok () := by
  unfold Signature.validate at valid
  simp only [Signature.ofValue] at valid
  split at valid
  · cases valid
  rename_i types parsed
  split at valid
  · cases valid
  rename_i same
  exact ⟨types, parsed, by simpa using same, Signature.validate_go_ok valid⟩

end MessageBus
