import Mathlib
import MessageBus.Wire.Codec

namespace MessageBus

@[simp] theorem Except.ok_bind {ε α β : Type} (a : α) (f : α → Except ε β) : (Except.ok a >>= f) = f a := rfl

@[simp] theorem Except.error_bind {ε α β : Type} (e : ε) (f : α → Except ε β) :
    (Except.error e >>= f : Except ε β) = .error e := rfl

@[simp] theorem Except.pure_eq_ok {ε α : Type} (a : α) : (pure a : Except ε α) = .ok a := rfl

/-- A bound computation succeeds only if its first part does, and the rest succeeds on that result. -/
theorem Except.bind_eq_ok {ε α β : Type} {x : Except ε α} {f : α → Except ε β} {b : β} :
    x >>= f = .ok b ↔ ∃ a, x = .ok a ∧ f a = .ok b := by
  cases x <;> simp

theorem ByteArray.toList_loop (b : ByteArray) (i : Nat) (r : List UInt8) :
    ByteArray.toList.loop b i r = r.reverse ++ b.data.toList.drop i := by
  fun_induction ByteArray.toList.loop b i r with
  | case1 i r inside ih =>
    have bound : i < b.data.toList.length := by simpa using inside
    rw [ih, List.drop_eq_getElem_cons bound]
    simp [ByteArray.get!, inside]
  | case2 i r outside =>
    rw [List.drop_eq_nil_of_le (by simpa using Nat.le_of_not_lt outside)]
    simp

theorem ByteArray.toList_eq_data (b : ByteArray) : b.toList = b.data.toList := by
  simp [ByteArray.toList, ByteArray.toList_loop]

theorem ByteArray.size_eq_length (b : ByteArray) : b.size = b.toList.length := by
  simp [ByteArray.toList_eq_data]

@[simp] theorem ByteArray.toList_append' (a b : ByteArray) : (a ++ b).toList = a.toList ++ b.toList := by
  simp [ByteArray.toList_eq_data]

@[simp] theorem ByteArray.toList_push (b : ByteArray) (x : UInt8) : (b.push x).toList = b.toList ++ [x] := by
  simp [ByteArray.toList_eq_data]

@[simp] theorem ByteArray.toList_extract (b : ByteArray) (i j : Nat) :
    (b.extract i j).toList = (b.toList.drop i).take (j - i) := by
  simp [ByteArray.toList_eq_data, List.take_drop]

@[simp] theorem ByteArray.toList_set! (b : ByteArray) (i : Nat) (x : UInt8) :
    (b.set! i x).toList = b.toList.set i x := by
  simp [ByteArray.toList_eq_data, ByteArray.set!]

theorem ByteArray.get!_eq (b : ByteArray) (i : Nat) : b.get! i = b.toList.getD i 0 := by
  rw [ByteArray.toList_eq_data]
  by_cases inside : i < b.size
  · simp [ByteArray.get!, inside]
  · have outside : b.data.size ≤ i := by simpa using inside
    simp [ByteArray.get!, getElem!_neg b.data i (by omega), Array.getElem?_eq_none outside]
    rfl

theorem ByteArray.eq_of_toList {a b : ByteArray} (same : a.toList = b.toList) : a = b := by
  rw [ByteArray.toList_eq_data, ByteArray.toList_eq_data] at same
  exact ByteArray.ext (Array.toList_inj.mp same)

namespace Word

@[simp] theorem length_octetsLE (w n : Nat) : (octetsLE w n).length = w := by
  induction w generalizing n with
  | zero => rfl
  | succ w ih => simp [octetsLE, ih]

theorem valueLE_octetsLE (w n : Nat) : valueLE (octetsLE w n) = n % 256 ^ w := by
  induction w generalizing n with
  | zero => simp [octetsLE, valueLE, Nat.mod_one]
  | succ w ih =>
    rw [octetsLE, valueLE, ih, pow_succ', Nat.mod_mul]
    simp

@[simp] theorem length_octets (order : ByteOrder) (w n : Nat) : (octets order w n).length = w := by
  cases order <;> simp [octets]

theorem value_octets (order : ByteOrder) (w n : Nat) : value order (octets order w n) = n % 256 ^ w := by
  cases order <;> simp [octets, value, valueLE_octetsLE]

theorem two_pow_octets (w : Nat) : 2 ^ (8 * w) = 256 ^ w := by
  rw [pow_mul]; norm_num

theorem value_signedOctets (order : ByteOrder) (w : Nat) (x : Int) :
    value order (signedOctets order w x) = (x % (2 ^ (8 * w) : Nat)).toNat := by
  have pos : (0 : Int) < (2 ^ (8 * w) : Nat) := by positivity
  have below : x % (2 ^ (8 * w) : Nat) < (2 ^ (8 * w) : Nat) := Int.emod_lt_of_pos x pos
  have nonneg : 0 ≤ x % (2 ^ (8 * w) : Nat) := Int.emod_nonneg x pos.ne'
  rw [signedOctets, value_octets, Nat.pow_eq, Nat.mod_eq_of_lt]
  rw [← two_pow_octets]
  omega

/-- An integer in `[0, 2^(8w))` is written as itself. -/
theorem value_signedOctets_of_nonneg (order : ByteOrder) (w : Nat) {x : Int} (low : 0 ≤ x)
    (high : x < (2 ^ (8 * w) : Nat)) : (value order (signedOctets order w x) : Int) = x := by
  rw [value_signedOctets, Int.emod_eq_of_lt low high]
  omega

theorem value_signedOctets_natCast (order : ByteOrder) (w : Nat) {n : Nat} (high : n < 2 ^ (8 * w)) :
    value order (signedOctets order w n) = n := by
  have cast := value_signedOctets_of_nonneg order w (x := n) (by omega) (by exact_mod_cast high)
  omega

/-- Two's complement in `w` octets reads back every integer of the signed range. -/
theorem signedValue_signedOctets (order : ByteOrder) {w : Nat} {x : Int} (wide : 0 < w)
    (low : -((2 ^ (8 * w - 1) : Nat) : Int) ≤ x) (high : x < (2 ^ (8 * w - 1) : Nat)) :
    signedValue order (octets order w (value order (signedOctets order w x))) = x := by
  have half : (2 ^ (8 * w) : Nat) = 2 * 2 ^ (8 * w - 1) := by
    rw [← pow_succ']; congr 1; omega
  set N := 2 ^ (8 * w) with hN
  set H := 2 ^ (8 * w - 1) with hH
  have residue : x % (N : Int) = if 0 ≤ x then x else x + N := by
    split
    · exact Int.emod_eq_of_lt (by assumption) (by omega)
    · rw [← Int.add_emod_right, Int.emod_eq_of_lt (by omega) (by omega)]
  have small : value order (signedOctets order w x) < 256 ^ w := by
    rw [value_signedOctets, ← two_pow_octets, ← hN]; split at residue <;> omega
  simp only [signedValue, value_octets, Nat.mod_eq_of_lt small, length_octets, Nat.pow_eq, ← hN, ← hH]
  rw [value_signedOctets, ← hN, residue]
  split <;> split <;> omega

end Word

/-- Padding takes an offset to a multiple of the alignment. -/
theorem add_padding_mod {a : Nat} (o : Nat) (pos : 0 < a) : (o + padding o a) % a = 0 := by
  unfold padding
  have := Nat.mod_lt o pos
  have whole := Nat.div_add_mod o a
  rcases Nat.eq_zero_or_pos (o % a) with aligned | unaligned
  · rw [aligned, Nat.sub_zero, Nat.mod_self, Nat.add_zero]; exact aligned
  · have step : o + (a - o % a) % a = a * (o / a + 1) := by
      rw [Nat.mod_eq_of_lt (show a - o % a < a by omega), Nat.mul_add, Nat.mul_one]
      omega
    rw [step, Nat.mul_mod_right]

theorem padding_eq_zero {o a : Nat} (aligned : o % a = 0) : padding o a = 0 := by
  simp [padding, aligned]

theorem padding_padding {a : Nat} (o : Nat) (pos : 0 < a) : padding (o + padding o a) a = 0 :=
  padding_eq_zero (add_padding_mod o pos)

/-- Alignments that divide eight see only an offset's residue modulo eight. -/
theorem padding_congr {a o o' : Nat} (divides : a ∣ 8) (same : o % 8 = o' % 8) :
    padding o a = padding o' a := by
  unfold padding
  rw [← Nat.mod_mod_of_dvd o divides, same, Nat.mod_mod_of_dvd o' divides]

namespace Writer

@[simp] theorem order_put (w : Writer) (bs : List UInt8) : (w.put bs).order = w.order := rfl

@[simp] theorem toList_put (w : Writer) (bs : List UInt8) : (w.put bs).buf.toList = w.buf.toList ++ bs := by
  unfold put
  induction bs generalizing w with
  | nil => simp
  | cons b rest ih =>
    simp only [List.foldl_cons]
    have step := ih { w with buf := w.buf.push b }
    simpa using step

@[simp] theorem order_align (w : Writer) (a : Nat) : (w.align a).order = w.order := rfl

@[simp] theorem toList_align (w : Writer) (a : Nat) :
    (w.align a).buf.toList = w.buf.toList ++ List.replicate (padding w.buf.size a) 0 := by
  simp [align]

@[simp] theorem order_patch (w : Writer) (at_ n : Nat) : (w.patch at_ n).order = w.order := rfl

/-- The length of an array is written over the four zero octets reserved for it. -/
theorem toList_patch (w : Writer) {A B : List UInt8} (layout : w.buf.toList = A ++ [0, 0, 0, 0] ++ B)
    (n : Nat) : (w.patch A.length n).buf.toList = A ++ Word.octets w.order 4 n ++ B := by
  obtain ⟨a, b, c, d, four⟩ := List.length_eq_four.mp (Word.length_octets w.order 4 n)
  simp only [patch, four, List.zipIdx_cons, List.zipIdx_nil, List.foldl_cons, List.foldl_nil,
    ByteArray.toList_set!, layout]
  simp

end Writer

namespace Frame

theorem need_ok {f : Frame} {at_ size : Nat} (room : at_ + size ≤ f.data.size) :
    f.need at_ size = .ok () := by
  simp [need, room]

theorem room_of_need {f : Frame} {at_ size : Nat} {u : Unit} (passed : f.need at_ size = .ok u) :
    at_ + size ≤ f.data.size := by
  unfold need at passed
  split at passed
  · cases passed
  · omega

theorem align_ok {f : Frame} {at_ a : Nat} (room : at_ + padding at_ a ≤ f.data.size) :
    f.align at_ a = .ok (at_ + padding at_ a) := by
  simp [align, need_ok room]

/-- The octets that a layout puts at an offset. -/
theorem octets_of_layout {f : Frame} {P E Q : List UInt8} (layout : f.data.toList = P ++ E ++ Q) :
    f.octets P.length E.length = E := by
  simp [octets, ByteArray.slice, layout]

theorem octet_of_layout {f : Frame} {P Q : List UInt8} {x : UInt8}
    (layout : f.data.toList = P ++ x :: Q) : f.octet P.length = x.toNat := by
  simp [octet, ByteArray.get!_eq, layout]

theorem size_of_layout {f : Frame} {P E Q : List UInt8} (layout : f.data.toList = P ++ E ++ Q) :
    f.data.size = P.length + E.length + Q.length := by
  simp [ByteArray.size_eq_length, layout]; omega

end Frame

end MessageBus
