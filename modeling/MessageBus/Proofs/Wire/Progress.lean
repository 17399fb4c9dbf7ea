import Mathlib
import MessageBus.Proofs.Wire.Decoded

namespace MessageBus

namespace Frame

variable {f : Frame} {d at_ at' : Nat} {v : Value}

theorem align_moves {a : Nat} (aligned : f.align at_ a = .ok at') : at' = at_ + padding at_ a := by
  unfold align at aligned
  obtain ⟨_, -, found⟩ := Except.bind_eq_ok.mp aligned
  cases found
  rfl

theorem unsigned_moves {width n : Nat} (read : f.unsigned width at_ = .ok (n, at')) : at_ + width ≤ at' := by
  obtain ⟨start, aligned, -, rfl⟩ := unsigned_inv read
  have := align_moves aligned
  omega

theorem word_moves {n : Nat} (read : f.word at_ = .ok (n, at')) : at_ + 4 ≤ at' :=
  unsigned_moves read

/-- A signature takes its length octet and its NUL at the least. -/
theorem signatureText_moves {t : Text} (read : f.signatureText at_ = .ok (t, at')) : at_ + 2 ≤ at' := by
  have := (textBody_inv (signatureText_inv read)).2
  omega

/-- Every basic value takes at least one octet. -/
theorem basic_moves {b : Basic} (read : f.basic b at_ = .ok (v, at')) : at_ < at' := by
  unfold basic at read
  cases b
  case string | objectPath =>
    obtain ⟨⟨length, at₁⟩, wordRead, read⟩ := Except.bind_eq_ok.mp read
    obtain ⟨⟨text, at₂⟩, textRead, found⟩ := Except.bind_eq_ok.mp read
    cases found
    have := word_moves wordRead
    have := (textBody_inv textRead).2
    omega
  case signature =>
    obtain ⟨⟨text, at₁⟩, textRead, found⟩ := Except.bind_eq_ok.mp read
    cases found
    have := signatureText_moves textRead
    omega
  case boolean =>
    obtain ⟨⟨n, at₁⟩, wordRead, read⟩ := Except.bind_eq_ok.mp read
    have := word_moves wordRead
    dsimp only at read
    split_ifs at read <;> cases read <;> omega
  case double =>
    obtain ⟨⟨n, at₁⟩, numberRead, found⟩ := Except.bind_eq_ok.mp read
    cases found
    have := unsigned_moves numberRead
    omega
  all_goals
    obtain ⟨⟨n, at₁⟩, numberRead, found⟩ := Except.bind_eq_ok.mp read
    cases found
    have := unsigned_moves numberRead
    simp only [Basic.width?, Option.getD_some] at this
    omega

/-- An array takes its length word at the least, whatever its elements take. -/
theorem read_array_moves {element : Sig} (read : f.read d (.array element) at_ = .ok (v, at')) :
    at_ + 4 ≤ at' := by
  obtain ⟨-, length, at₁, start, wordRead, -, aligned, -, ended, -⟩ := Frame.read_array_ok.mp read
  have head := word_moves wordRead
  have padded := align_moves aligned
  omega

/-- A dictionary takes its length word at the least, whatever its entries take. -/
theorem read_dict_moves {key : Basic} {value : Sig} (read : f.read d (.dict key value) at_ = .ok (v, at')) :
    at_ + 4 ≤ at' := by
  obtain ⟨-, length, at₁, start, -, wordRead, -, aligned, -, ended, -⟩ := Frame.read_dict_ok.mp read
  have head := word_moves wordRead
  have padded := align_moves aligned
  omega

/-- No read moves back, whatever the type, by the reader's own induction: a container ends where
its contents end, and these start after its head. The loops need nothing here, since an array
or a dictionary ends where its length says. -/
theorem read_forward {s : Sig} (read : f.read d s at_ = .ok (v, at')) : at_ ≤ at' := by
  revert v at'
  refine Frame.read.induct
    (fun d s at_ => ∀ {v at'}, f.read d s at_ = .ok (v, at') → at_ ≤ at')
    (fun d fields at_ => ∀ {xs at'}, f.readFields d fields at_ = .ok (xs, at') → at_ ≤ at')
    (fun _ _ _ _ _ _ _ => True) (fun _ _ _ _ _ => True)
    ?deep ?basic ?variant ?array ?dict ?struct ?fieldsNil ?fieldsCons
    (fun _ _ _ _ _ _ => trivial) (fun _ _ _ _ _ _ _ _ _ _ _ => trivial) (fun _ _ _ _ _ _ _ _ => trivial)
    (fun _ _ _ _ => trivial) (fun _ _ _ _ _ _ _ _ => trivial) (fun _ _ _ _ _ _ => trivial) d s at_
  case deep =>
    intro d s at_ deep v at' read
    exact absurd (Frame.shallow_of_read read) (by omega)
  case basic =>
    intro d at_ shallow b v at' read
    rw [Frame.read_basic b at_ (by omega)] at read
    exact (basic_moves read).le
  case variant =>
    intro d at_ _ inner v at' read
    obtain ⟨-, sig, at₁, t, x, sigRead, -, innerRead, -⟩ := Frame.read_variant_ok.mp read
    have signature := signatureText_moves sigRead
    have contents := inner at₁ t innerRead
    omega
  case array =>
    intro d at_ _ element _ v at' read
    have := read_array_moves read
    omega
  case dict =>
    intro d at_ _ key value _ v at' read
    have := read_dict_moves read
    omega
  case struct =>
    intro d at_ _ fields inner v at' read
    obtain ⟨-, start, xs, aligned, fieldsRead, -⟩ := Frame.read_struct_ok.mp read
    have padded := align_moves aligned
    have contents := inner start fieldsRead
    omega
  case fieldsNil =>
    intro d at_ xs at' read
    rw [Frame.readFields_nil] at read
    cases read
    exact le_rfl
  case fieldsCons =>
    intro d at_ s rest head tail xs at' read
    obtain ⟨x, at₁, ys, first, later, -⟩ := Frame.readFields_of_cons read
    exact le_trans (head first) (tail at₁ later)

theorem readFields_forward {fields : List Sig} {xs : List Value} (read : f.readFields d fields at_ = .ok (xs, at')) :
    at_ ≤ at' := by
  induction fields generalizing at_ xs with
  | nil =>
    rw [Frame.readFields_nil] at read
    cases read
    exact le_rfl
  | cons s rest ih =>
    obtain ⟨x, at₁, ys, first, later, -⟩ := Frame.readFields_of_cons read
    exact le_trans (read_forward first) (ih later)

/-- A read of a well-formed type that succeeds moves past at least one octet. -/
theorem read_advances {s : Sig} (formed : s.WellFormed) (read : f.read d s at_ = .ok (v, at')) : at_ < at' := by
  induction formed generalizing d at_ v at' with
  | basic b =>
    rw [Frame.read_basic b at_ (Frame.shallow_of_read read)] at read
    exact basic_moves read
  | variant =>
    obtain ⟨-, sig, at₁, t, x, sigRead, -, innerRead, -⟩ := Frame.read_variant_ok.mp read
    have signature := signatureText_moves sigRead
    have contents := read_forward innerRead
    omega
  | array _ _ =>
    have := read_array_moves read
    omega
  | dict key _ _ =>
    have := read_dict_moves read
    omega
  | @struct fields nonempty _ ih =>
    -- the first field moves on, and the others do not move back
    obtain ⟨-, start, xs, aligned, fieldsRead, -⟩ := Frame.read_struct_ok.mp read
    obtain ⟨first, rest, rfl⟩ := List.exists_cons_of_ne_nil nonempty
    obtain ⟨x, at₁, ys, firstRead, restRead, -⟩ := Frame.readFields_of_cons fieldsRead
    have padded := align_moves aligned
    have moves := ih first List.mem_cons_self firstRead
    have later := readFields_forward restRead
    omega

/-- Once the count given to the array loop is past the octets left, a larger one gives the same
elements and the same end: every element read moves on, so the loop reaches the end first. -/
theorem readItems_more {s : Sig} (formed : s.WellFormed) {stop : Nat} (k : Nat) :
    ∀ {at_ n : Nat}, stop ≤ at_ + n → f.readItems d s stop (n + k) at_ = f.readItems d s stop n at_ := by
  intro at_ n
  induction n generalizing at_ with
  | zero =>
    intro room
    cases k with
    | zero => rfl
    | succ k => rw [Nat.zero_add, readItems_of_after (by omega), readItems_zero]
  | succ n ih =>
    intro room
    by_cases before : at_ < stop
    · rw [show n + 1 + k = (n + k) + 1 by omega, readItems, if_pos before, readItems, if_pos before]
      cases first : f.read d s at_ with
      | error e => rfl
      | ok p =>
        have moves := read_advances formed first
        simp only [bind, Except.bind]
        rw [ih (by omega)]
    · rw [show n + 1 + k = (n + k) + 1 by omega, readItems_of_after before, readItems_of_after before]

/-- Once the count given to the dictionary loop is past the octets left, a larger one gives the
same entries and the same end: every key read moves on. -/
theorem readEntries_more {key : Basic} {value : Sig} {stop : Nat} (k : Nat) :
    ∀ {at_ n : Nat} {entries : List (Value × Value)}, stop ≤ at_ + n →
      f.readEntries d key value stop (n + k) entries at_ = f.readEntries d key value stop n entries at_ := by
  intro at_ n
  induction n generalizing at_ with
  | zero =>
    intro entries room
    cases k with
    | zero => rfl
    | succ k => rw [Nat.zero_add, readEntries_of_after (by omega), readEntries_zero]
  | succ n ih =>
    intro entries room
    by_cases before : at_ < stop
    · rw [show n + 1 + k = (n + k) + 1 by omega, readEntries, if_pos before, readEntries, if_pos before]
      simp only [bind, Except.bind]
      cases aligned : f.align at_ 8 with
      | error e => rfl
      | ok start =>
        simp only
        cases keyRead : f.read d (.basic key) start with
        | error e => rfl
        | ok p =>
          simp only
          cases valueRead : f.read d value p.2 with
          | error e => rfl
          | ok q =>
            have padded := align_moves aligned
            have keyMoves := read_advances (.basic key) keyRead
            have valueMoves := read_forward valueRead
            simp only
            rw [ih (by omega)]
    · rw [show n + 1 + k = (n + k) + 1 by omega, readEntries_of_after before, readEntries_of_after before]

/-- Reading never loops. Every read of a well-formed type, as the signature grammar builds them,
either fails or moves past at least one octet; so the loop over an array's elements of that type
and the loop over a dictionary's entries with values of that type come to the end the array
declares before their count runs out, and once the count is past the octets left, a larger count
gives the same result. -/
theorem read_progress (f : Frame) (d : Nat) {s : Sig} (formed : s.WellFormed) :
    (∀ {at_ at' : Nat} {v : Value}, f.read d s at_ = .ok (v, at') → at_ < at') ∧
    (∀ {stop at_ n : Nat} (k : Nat), stop ≤ at_ + n →
      f.readItems d s stop (n + k) at_ = f.readItems d s stop n at_) ∧
    (∀ {key : Basic} {stop at_ n : Nat} {entries : List (Value × Value)} (k : Nat), stop ≤ at_ + n →
      f.readEntries d key s stop (n + k) entries at_ = f.readEntries d key s stop n entries at_) :=
  ⟨read_advances formed, fun k room => readItems_more formed k room, fun k room => readEntries_more k room⟩

/-- The struct `(y)` is well formed, so its reads and the loops over it move on. -/
theorem read_progress_byteStruct :
    (Sig.struct [.basic .byte]).WellFormed ∧
    (∀ {at_ at' : Nat} {v : Value}, (Frame.mk ByteArray.empty .little).read 0 (.struct [.basic .byte]) at_ = .ok (v, at') →
      at_ < at') ∧
    (∀ {stop at_ n : Nat} (k : Nat), stop ≤ at_ + n →
      (Frame.mk ByteArray.empty .little).readItems 0 (.struct [.basic .byte]) stop (n + k) at_ =
        (Frame.mk ByteArray.empty .little).readItems 0 (.struct [.basic .byte]) stop n at_) ∧
    (∀ {key : Basic} {stop at_ n : Nat} {entries : List (Value × Value)} (k : Nat), stop ≤ at_ + n →
      (Frame.mk ByteArray.empty .little).readEntries 0 key (.struct [.basic .byte]) stop (n + k) entries at_ =
        (Frame.mk ByteArray.empty .little).readEntries 0 key (.struct [.basic .byte]) stop n entries at_) :=
  have formed : (Sig.struct [.basic .byte]).WellFormed := .struct (by simp) (by simp [Sig.WellFormed.basic])
  ⟨formed, read_progress _ 0 formed⟩

end Frame

end MessageBus
