import Mathlib
import MessageBus.Proofs.Wire.Chunking

namespace MessageBus

theorem ByteOrder.marker_of_ofOctet? {c : Nat} {order : ByteOrder} (found : ByteOrder.ofOctet? c = some order) :
    c = 108 ∨ c = 66 := by
  unfold ByteOrder.ofOctet? at found
  split at found <;> simp_all

theorem ByteArray.get!_of_front {d e : ByteArray} (front : d.toList <+: e.toList) {i : Nat} (within : i < d.size) :
    e.get! i = d.get! i := by
  obtain ⟨t, whole⟩ := front
  rw [ByteArray.size_eq_length] at within
  rw [ByteArray.get!_eq, ByteArray.get!_eq, ← whole, List.getD_append _ _ _ _ within]

theorem ByteArray.extract_of_front {d e : ByteArray} (front : d.toList <+: e.toList) {i j : Nat}
    (within : j ≤ d.size) : e.extract i j = d.extract i j := by
  obtain ⟨t, whole⟩ := front
  rw [ByteArray.size_eq_length] at within
  apply ByteArray.eq_of_toList
  rw [ByteArray.toList_extract, ByteArray.toList_extract, ← whole]
  rcases Nat.lt_or_ge j i with backwards | forwards
  · simp [Nat.sub_eq_zero_of_le backwards.le]
  · rw [List.drop_append_of_le_length (by omega), List.take_append_of_le_length (by simp; omega)]

/-- A frame's length is read off its first sixteen octets alone. -/
theorem frameLength_of_front {d e : ByteArray} (front : d.toList <+: e.toList) (long : 16 ≤ d.size) :
    frameLength e = frameLength d := by
  have longer : 16 ≤ e.size := by
    rw [ByteArray.size_eq_length] at long ⊢
    exact long.trans front.length_le
  unfold frameLength
  simp only [show ¬ e.size < 16 by omega, show ¬ d.size < 16 by omega, if_false, Frame.octet, Frame.octets,
    ByteArray.slice, ByteArray.get!_of_front front (show 0 < d.size by omega),
    ByteArray.get!_of_front front (show 3 < d.size by omega),
    ByteArray.extract_of_front front (show 4 + 4 ≤ d.size by omega),
    ByteArray.extract_of_front front (show 12 + 4 ≤ d.size by omega)]
  rfl

/-- A length is read only from sixteen octets that start with a byte-order marker and carry
version one. -/
theorem frameLength_ok {d : ByteArray} {total : Nat} (read : frameLength d = .ok total) :
    16 ≤ d.size ∧ (d.get! 0 = 108 ∨ d.get! 0 = 66) ∧ d.get! 3 = 1 := by
  unfold frameLength at read
  split at read
  · cases read
  dsimp only at read
  split at read
  · rename_i order marker
    split at read
    · cases read
    rename_i version
    refine ⟨by omega, ?_, ?_⟩
    · rcases ByteOrder.marker_of_ofOctet? marker with named | named
      · exact .inl (UInt8.toNat_inj.mp (by simpa [Frame.octet] using named))
      · exact .inr (UInt8.toNat_inj.mp (by simpa [Frame.octet] using named))
    · simp only [Frame.octet, protocolVersion, bne_iff_ne, ne_eq, Decidable.not_not] at version
      exact UInt8.toNat_inj.mp (by simpa using version)
  · cases read

theorem Message.unmarshal_of_error {d : ByteArray} {M : Int} {e : FrameError} (read : frameLength d = .error e) :
    Message.unmarshal d M = .error e := by
  unfold Message.unmarshal
  rw [read]
  rfl

/-- Once the length is known, reading is the size check, the completeness check, and the frame. -/
theorem Message.unmarshal_eq {d : ByteArray} {M : Int} {total : Nat} (read : frameLength d = .ok total) :
    Message.unmarshal d M =
      if (total : Int) > M then .error (.oversized total M)
      else if d.size < total then .error .incomplete
      else match Frame.message ⟨d.extract 0 total, if d.get! 0 == 108 then .little else .big⟩ total with
        | .ok m => .ok (m, total)
        | .error e => .error (.protocol e) := by
  unfold Message.unmarshal
  simp only [read, Except.ok_bind]
  split
  · rfl
  · split
    · rfl
    · cases Frame.message ⟨d.extract 0 total, if d.get! 0 == 108 then .little else .big⟩ total <;> rfl

/-- Reading asks for more octets exactly when there are fewer than sixteen, or when the fixed
part is sound and the frame fits the limit but is not all there. -/
theorem Message.unmarshal_incomplete_iff (d : ByteArray) (M : Int) :
    Message.unmarshal d M = .error .incomplete ↔
      d.size < 16 ∨ ((d.get! 0 = 108 ∨ d.get! 0 = 66) ∧ d.get! 3 = 1 ∧
        ∃ total, frameLength d = .ok total ∧ (total : Int) ≤ M ∧ d.size < total) := by
  constructor
  · intro incomplete
    cases read : frameLength d with
    | error e =>
      rw [unmarshal_of_error read] at incomplete
      cases incomplete
      exact .inl (frameLength_incomplete read)
    | ok total =>
      obtain ⟨-, marker, version⟩ := frameLength_ok read
      rw [unmarshal_eq read] at incomplete
      split at incomplete
      · cases incomplete
      rename_i fits
      split at incomplete
      · rename_i unfinished
        exact .inr ⟨marker, version, total, rfl, by omega, unfinished⟩
      · split at incomplete <;> cases incomplete
  · rintro (short | ⟨-, -, total, read, fits, unfinished⟩)
    · exact unmarshal_of_error (frameLength_short short)
    · rw [unmarshal_eq read, if_neg (not_lt.mpr fits), if_pos unfinished]

/-- Octets after a frame that has been decided change nothing. -/
theorem Message.unmarshal_append {d : ByteArray} {M : Int} (s : ByteArray)
    (decided : Message.unmarshal d M ≠ .error .incomplete) : Message.unmarshal (d ++ s) M = Message.unmarshal d M := by
  have front : d.toList <+: (d ++ s).toList := by simp
  cases read : frameLength d with
  | error e =>
    -- a failure other than too few octets comes from the first sixteen
    have long : 16 ≤ d.size := by
      by_contra short
      rw [frameLength_short (by omega)] at read
      cases read
      exact decided (unmarshal_of_error (frameLength_short (by omega)))
    rw [unmarshal_of_error read, unmarshal_of_error ((frameLength_of_front front long).trans read)]
  | ok total =>
    have long := (frameLength_ok read).1
    have longer : d.size ≤ (d ++ s).size := by simp
    rw [unmarshal_eq read] at decided ⊢
    rw [unmarshal_eq ((frameLength_of_front front long).trans read)]
    by_cases oversized : (total : Int) > M
    · rw [if_pos oversized, if_pos oversized]
    · rw [if_neg oversized] at decided
      have whole : total ≤ d.size := by
        by_contra unfinished
        exact decided (if_pos (by omega))
      have notShort : ¬ d.size < total := by omega
      have notShort' : ¬ (d ++ s).size < total := by omega
      simp only [if_neg oversized, if_neg notShort, if_neg notShort',
        ByteArray.get!_of_front front (show 0 < d.size by omega), ByteArray.extract_of_front front whole]

/-- Reading one frame from the front of some octets: it asks for more octets exactly when fewer
than sixteen are there, or when they start with a byte-order marker and version one and declare a
frame within the limit that is not all there; any other answer, a message with the length of its
frame or a failure, is the answer whatever octets follow. -/
theorem Message.unmarshal_settles (d s : ByteArray) (M : Int) :
    (Message.unmarshal d M = .error .incomplete ↔
      d.size < 16 ∨ ((d.get! 0 = 108 ∨ d.get! 0 = 66) ∧ d.get! 3 = 1 ∧
        ∃ total, frameLength d = .ok total ∧ (total : Int) ≤ M ∧ d.size < total)) ∧
    (Message.unmarshal d M ≠ .error .incomplete →
      Message.unmarshal (d ++ s) M = Message.unmarshal d M ∧
        ∀ m n, Message.unmarshal d M = .ok (m, n) → frameLength d = .ok n) :=
  ⟨unmarshal_incomplete_iff d M, fun decided =>
    ⟨unmarshal_append s decided, fun _ _ read => (Message.unmarshal_used read).1⟩⟩

/-- Sixteen octets that do not start with a byte-order marker are refused at once, and octets
after them change nothing. -/
theorem Message.unmarshal_settles_badMarker :
    Message.unmarshal ⟨#[88, 1, 0, 1, 0, 0, 0, 0, 1, 0, 0, 0, 0, 0, 0, 0]⟩ maxMessage ≠ .error .incomplete ∧
      Message.unmarshal (⟨#[88, 1, 0, 1, 0, 0, 0, 0, 1, 0, 0, 0, 0, 0, 0, 0]⟩ ++ ⟨#[108, 1]⟩) maxMessage =
        Message.unmarshal ⟨#[88, 1, 0, 1, 0, 0, 0, 0, 1, 0, 0, 0, 0, 0, 0, 0]⟩ maxMessage := by
  have refused : Message.unmarshal ⟨#[88, 1, 0, 1, 0, 0, 0, 0, 1, 0, 0, 0, 0, 0, 0, 0]⟩ maxMessage =
      .error (.protocol (.badEndianness 88)) := by
    with_unfolding_all rfl
  have decided : Message.unmarshal ⟨#[88, 1, 0, 1, 0, 0, 0, 0, 1, 0, 0, 0, 0, 0, 0, 0]⟩ maxMessage ≠
      .error .incomplete := by
    rw [refused]
    intro same
    cases same
  exact ⟨decided, ((Message.unmarshal_settles _ ⟨#[108, 1]⟩ maxMessage).2 decided).1⟩

end MessageBus
