import Mathlib
import MessageBus.Proofs.Octets
import MessageBus.Proofs.Utf8
import MessageBus.Proofs.Signature
import MessageBus.Proofs.Check
import MessageBus.Proofs.Wire.Normal

namespace MessageBus

namespace Frame

theorem unsigned_of_layout {f : Frame} {P E Q : List UInt8} {o width : Nat}
    (layout : f.data.toList = P ++ (List.replicate (padding o width) 0 ++ E) ++ Q)
    (same : P.length % 8 = o % 8) (divides : width ∣ 8) (wide : E.length = width) :
    f.unsigned width P.length = .ok (Word.value f.order E, P.length + (padding o width + width)) := by
  subst wide
  have pad : padding P.length E.length = padding o E.length := padding_congr divides same
  have size := size_of_layout layout
  simp only [List.length_append, List.length_replicate] at size
  have aligned : f.align P.length E.length = .ok (P.length + padding o E.length) := by
    rw [align_ok (by omega), pad]
  have read : f.octets (P.length + padding o E.length) E.length = E := by
    have at_ : (P ++ List.replicate (padding o E.length) 0).length = P.length + padding o E.length := by simp
    rw [← at_]
    exact octets_of_layout (by simpa using layout)
  simp [unsigned, aligned, need_ok (show P.length + padding o E.length + E.length ≤ f.data.size by omega), read]
  omega

end Frame

/-- `w'` is `w` with the octets `E` appended. -/
def Writer.Appends (w : Writer) (E : List UInt8) (w' : Writer) : Prop :=
  w'.order = w.order ∧ w'.buf.toList = w.buf.toList ++ E

namespace Writer.Appends

theorem put (w : Writer) (bs : List UInt8) : w.Appends bs (w.put bs) := ⟨rfl, by simp⟩

theorem align (w : Writer) (a : Nat) : w.Appends (List.replicate (padding w.buf.size a) 0) (w.align a) :=
  ⟨rfl, by simp⟩

theorem trans {w w₁ w₂ : Writer} {E F : List UInt8} (first : w.Appends E w₁) (second : w₁.Appends F w₂) :
    w.Appends (E ++ F) w₂ :=
  ⟨second.1.trans first.1, by rw [second.2, first.2, List.append_assoc]⟩

theorem size {w w' : Writer} {E : List UInt8} (appends : w.Appends E w') : w'.buf.size = w.buf.size + E.length := by
  simp [ByteArray.size_eq_length, appends.2]

/-- The octets appended between two writers are determined by them. -/
theorem unique {w w' : Writer} {E F : List UInt8} (first : w.Appends E w') (second : w.Appends F w') : E = F :=
  List.append_cancel_left (first.2.symm.trans second.2)

end Writer.Appends

/-- Octets `E` written at offset `o` read back as the normal form of `v` under `s`: wherever they
stand in a frame of the same byte order, after octets as many as `o` modulo eight, and at any
depth that leaves room for the value's nesting. -/
def ReadsBack (order : ByteOrder) (o : Nat) (s : Sig) (v : Value) (E : List UInt8) : Prop :=
  ∀ {d : Nat} {f : Frame} {P Q : List UInt8}, d + s.nesting v ≤ maxNesting → f.order = order →
    f.data.toList = P ++ E ++ Q → P.length % 8 = o % 8 →
    f.read d s P.length = .ok (s.normal v, P.length + E.length)

theorem Writer.integer_ok {w w' : Writer} {b : Basic} {n : Int} (written : w.integer b n = .ok w') :
    ∃ low high width, b.range? = some (low, high) ∧ b.width? = some width ∧ low ≤ n ∧ n ≤ high ∧
      w.Appends (List.replicate (padding w.buf.size width) 0 ++ Word.signedOctets w.order width n) w' := by
  unfold Writer.integer at written
  split at written
  · rename_i low high width range wide
    split at written
    · cases written
    · rename_i inside
      cases written
      simp only [Bool.or_eq_true, decide_eq_true_eq, not_or, not_lt] at inside
      exact ⟨low, high, width, range, wide, inside.1, inside.2, (Writer.Appends.align w width).trans (.put _ _)⟩
  · cases written

namespace Frame

/-- An integer of any fixed-width type reads back from its two's complement octets. -/
theorem basic_integer {f : Frame} {b : Basic} {low high x : Int} {width o : Nat} {P Q : List UInt8}
    (range : b.range? = some (low, high)) (wide : b.width? = some width) (above : low ≤ x) (below : x ≤ high)
    (layout : f.data.toList = P ++ (List.replicate (padding o width) 0 ++ Word.signedOctets f.order width x) ++ Q)
    (same : P.length % 8 = o % 8) :
    f.basic b P.length = .ok (.int x, P.length + (padding o width + width)) := by
  cases b <;> simp only [Basic.range?, Basic.width?, Option.some.injEq, Prod.mk.injEq, reduceCtorEq] at range wide
  all_goals
    obtain ⟨rfl, rfl⟩ := range
    subst wide
    have read := unsigned_of_layout layout same (by decide) (by simp [Word.signedOctets])
    simp only [basic, Basic.width?, Option.getD_some, read, Except.ok_bind, Except.pure_eq_ok]
  case byte | uint16 | uint32 | uint64 | unixFd =>
    rw [Word.value_signedOctets_of_nonneg _ _ above (by norm_num; omega)]
  case int16 | int32 | int64 =>
    rw [Word.signedValue_signedOctets _ (by norm_num) (by norm_num; omega) (by norm_num; omega)]

theorem basic_boolean {f : Frame} {t : Bool} {o : Nat} {P Q : List UInt8}
    (layout : f.data.toList = P ++ (List.replicate (padding o 4) 0 ++ Word.octets f.order 4 (if t then 1 else 0)) ++ Q)
    (same : P.length % 8 = o % 8) :
    f.basic .boolean P.length = .ok (.bool t, P.length + (padding o 4 + 4)) := by
  have read := unsigned_of_layout layout same (by decide) (by simp)
  rw [Word.value_octets] at read
  cases t <;> simp [basic, word, read]

theorem basic_double {f : Frame} {x : Binary64} {o : Nat} {P Q : List UInt8}
    (layout : f.data.toList = P ++ (List.replicate (padding o 8) 0 ++ Word.octets f.order 8 x.bits.toNat) ++ Q)
    (same : P.length % 8 = o % 8) :
    f.basic .double P.length = .ok (.float x, P.length + (padding o 8 + 8)) := by
  have read := unsigned_of_layout layout same (by decide) (by simp)
  rw [Word.value_octets, Nat.mod_eq_of_lt (by simpa using x.bits.toNat_lt)] at read
  simp [basic, read]

/-- Text of `length` octets followed by a NUL reads back when its octets decode. -/
theorem textBody_of_layout {f : Frame} {P bytes Q : List UInt8} {t : Text}
    (layout : f.data.toList = P ++ (bytes ++ [0]) ++ Q) (decodes : Utf8.decode bytes = .ok t) :
    f.textBody bytes.length P.length = .ok (t, P.length + bytes.length + 1) := by
  have size := size_of_layout layout
  simp only [List.length_append, List.length_singleton] at size
  have nul : f.octet (P.length + bytes.length) = 0 := by
    have at_ : (P ++ bytes).length = P.length + bytes.length := by simp
    rw [← at_, octet_of_layout (x := 0) (Q := Q) (by simpa using layout)]
    rfl
  have read : f.octets P.length bytes.length = bytes :=
    octets_of_layout (Q := [0] ++ Q) (by simpa using layout)
  simp [textBody, need_ok (show P.length + (bytes.length + 1) ≤ f.data.size by omega), nul, read, decodes]

/-- A signature reads back from its one-octet length, its codes and a NUL. -/
theorem signatureText_of_layout {f : Frame} {P Q : List UInt8} {t : Text} (short : t.length ≤ 255)
    (ascii : ∀ c ∈ t.codes, c < 128)
    (layout : f.data.toList = P ++ ((t.length % 256).toUInt8 :: t.codes.map Nat.toUInt8 ++ [0]) ++ Q) :
    f.signatureText P.length = .ok (t, P.length + (t.length + 2)) := by
  have size := size_of_layout layout
  simp only [List.length_append, List.length_cons, List.length_map] at size
  have count : f.octet P.length = t.length := by
    rw [octet_of_layout (by simpa using layout), Utf8.toNat_toUInt8 (by omega), Nat.mod_eq_of_lt (by omega)]
  have body := textBody_of_layout (f := f) (P := P ++ [(t.length % 256).toUInt8]) (Q := Q)
    (by simpa using layout) (Utf8.decode_ascii ascii)
  simp only [List.length_append, List.length_singleton, List.length_map] at body
  simp [signatureText, need_ok (show P.length + 1 ≤ f.data.size by omega), count, Text.length, body]
  omega

end Frame

theorem Sig.normal_basic {b : Basic} (v : Value) (notDouble : b ≠ .double) : (Sig.basic b).normal v = v := by
  unfold Sig.normal
  cases b <;> simp_all

theorem Sig.normal_double_int (n : Int) :
    (Sig.basic .double).normal (.int n) = .float ((Binary64.ofInt? n).getD default) := by
  unfold Sig.normal
  rfl

theorem Sig.normal_double_float (x : Binary64) : (Sig.basic .double).normal (.float x) = .float x := by
  unfold Sig.normal
  rfl

/-- Writing `v` as the basic type `b` appends octets that `Frame.basic` reads back as its normal
form. -/
def Writer.WritesBasic (w : Writer) (b : Basic) (v : Value) (w' : Writer) : Prop :=
  ∃ E, w.Appends E w' ∧ E ≠ [] ∧ ∀ {f : Frame} {P Q : List UInt8}, f.order = w.order →
    f.data.toList = P ++ E ++ Q → P.length % 8 = w.buf.size % 8 →
    f.basic b P.length = .ok ((Sig.basic b).normal v, P.length + E.length)

namespace Writer

/-- An integer type writes an integer through `Writer.integer`. -/
theorem write_basic_int (w : Writer) {b : Basic} {low high : Int} (range : b.range? = some (low, high)) (n : Int) :
    w.write (.basic b) (.int n) = w.integer b n := by
  cases b <;> simp only [Basic.range?, reduceCtorEq] at range
  all_goals unfold Writer.write; rfl

theorem writesBasic_integer {w w' : Writer} {b : Basic} {low high n : Int} (range : b.range? = some (low, high))
    (written : w.write (.basic b) (.int n) = .ok w') : w.WritesBasic b (.int n) w' := by
  rw [write_basic_int w range] at written
  obtain ⟨low', high', width, range', wide, above, below, appends⟩ := integer_ok written
  have positive : 0 < width := by cases b <;> simp [Basic.width?] at wide <;> omega
  refine ⟨_, appends, List.ne_nil_of_length_pos (by simp [Word.signedOctets]; omega), fun order layout same => ?_⟩
  have notDouble : b ≠ .double := by rintro rfl; simp [Basic.range?] at range
  rw [Sig.normal_basic _ notDouble, ← order] at *
  have read := Frame.basic_integer range' wide above below layout same
  simpa [Word.signedOctets] using read

theorem writesBasic_boolean {w w' : Writer} {t : Bool} (written : w.write (.basic .boolean) (.bool t) = .ok w') :
    w.WritesBasic .boolean (.bool t) w' := by
  unfold Writer.write at written
  cases written
  refine ⟨_, (Appends.align w 4).trans (.put _ _), List.ne_nil_of_length_pos (by simp), fun order layout same => ?_⟩
  have truth : (Value.bool t).truthy = t := rfl
  rw [truth, ← order] at layout
  rw [Sig.normal_basic _ (by decide)]
  have read := Frame.basic_boolean layout same
  simpa using read

theorem writesBasic_double {w w' : Writer} {v : Value} (kind : (∃ n, v = .int n) ∨ ∃ x, v = .float x)
    (written : w.write (.basic .double) v = .ok w') : w.WritesBasic .double v w' := by
  obtain ⟨x, normal, appends⟩ : ∃ x, (Sig.basic .double).normal v = .float x ∧
      w.Appends (List.replicate (padding w.buf.size 8) 0 ++ Word.octets w.order 8 x.bits.toNat) w' := by
    rcases kind with ⟨n, rfl⟩ | ⟨x, rfl⟩
    · unfold Writer.write at written
      simp only [fixed] at written
      split at written
      · rename_i x converted
        cases written
        exact ⟨x, by simp [Sig.normal_double_int, converted], (Appends.align w 8).trans (.put _ _)⟩
      · cases written
    · unfold Writer.write at written
      cases written
      exact ⟨x, Sig.normal_double_float x, (Appends.align w 8).trans (.put _ _)⟩
  refine ⟨_, appends, List.ne_nil_of_length_pos (by simp), fun order layout same => ?_⟩
  rw [← order] at layout
  rw [normal]
  have read := Frame.basic_double layout same
  simpa using read

theorem writesBasic_text {w w' : Writer} {b : Basic} {t : Text} (isText : b = .string ∨ b = .objectPath)
    (written : w.write (.basic b) (.str t) = .ok w') : w.WritesBasic b (.str t) w' := by
  have viaText : w.write (.basic b) (.str t) = (w.align 4).text t := by
    rcases isText with rfl | rfl <;> (unfold Writer.write; rfl)
  rw [viaText] at written
  unfold Writer.text at written
  split at written
  · cases written
  rename_i bytes encoded
  split at written
  · cases written
  rename_i counted worded
  cases written
  obtain ⟨low, high, width, range, wide, above, below, appends⟩ := integer_ok worded
  simp only [Basic.range?, Basic.width?, Option.some.injEq, Prod.mk.injEq] at range wide
  obtain ⟨rfl, rfl⟩ := range
  subst wide
  -- the text writer aligns to four itself, so the count needs no further padding
  have aligned : padding (w.align 4).buf.size 4 = 0 := by
    rw [(Appends.align w 4).size, List.length_replicate]
    exact padding_padding _ (by omega)
  rw [aligned, List.replicate_zero, List.nil_append, order_align] at appends
  refine ⟨_, ((Appends.align w 4).trans appends).trans ((Appends.put _ bytes).trans (.put _ [0])),
    List.ne_nil_of_length_pos (by simp), @fun f P Q order layout same => ?_⟩
  rw [Sig.normal_basic _ (by rcases isText with rfl | rfl <;> decide)]
  rw [← order] at layout
  have count := Frame.unsigned_of_layout (E := Word.signedOctets f.order 4 bytes.length) (Q := bytes ++ [0] ++ Q)
    (by rw [layout]; simp) same (show 4 ∣ 8 by decide) (by simp [Word.signedOctets])
  rw [Word.value_signedOctets_natCast _ _ (by norm_num; omega)] at count
  have body := Frame.textBody_of_layout (P := P ++ (List.replicate (padding w.buf.size 4) 0 ++
    Word.signedOctets f.order 4 bytes.length)) (Q := Q) (by rw [layout]; simp) (Utf8.decode_encode encoded)
  simp only [List.length_append, List.length_replicate, Word.signedOctets, Word.length_octets] at body
  have isString : ∀ at_, f.basic b at_ = f.basic .string at_ := by
    rcases isText with rfl | rfl <;> exact fun _ => rfl
  rw [isString]
  simp only [Frame.basic, Frame.word, count, Except.ok_bind]
  simp only [Nat.add_assoc] at body
  simp [body, Word.signedOctets]

theorem writesBasic_signature {w w' : Writer} {t : Text} {ts : List Sig} (parsed : Signature.parse t = .ok ts)
    (written : w.write (.basic .signature) (.str t) = .ok w') : w.WritesBasic .signature (.str t) w' := by
  unfold Writer.write at written
  cases written
  obtain ⟨short, codes, -⟩ := Signature.parse_ok parsed
  have ascii : ∀ c ∈ t.codes, c < 128 := by rw [codes]; exact Sig.codesList_lt ts
  refine ⟨_, (Appends.put _ _).trans (.put _ [0]), List.ne_nil_of_length_pos (by simp),
    @fun f P Q order layout same => ?_⟩
  rw [Sig.normal_basic _ (by decide)]
  have read := Frame.signatureText_of_layout (f := f) (P := P) (Q := Q) (by simpa [Sig.maxLength] using short) ascii
    (by rw [layout])
  simp [Frame.basic, read, Text.length]

theorem writesBasic {w w' : Writer} {b : Basic} {v : Value} (written : w.write (.basic b) v = .ok w')
    (checked : (Sig.basic b).check v = .ok ()) : w.WritesBasic b v w' := by
  rcases Sig.check_basic checked with ⟨low, high, n, range, rfl, -, -⟩ | ⟨rfl, t, rfl⟩ | ⟨rfl, kind⟩ |
    ⟨isText, t, rfl⟩ | ⟨rfl, t, ts, rfl, parsed⟩
  · exact writesBasic_integer range written
  · exact writesBasic_boolean written
  · exact writesBasic_double kind written
  · exact writesBasic_text isText written
  · exact writesBasic_signature parsed written

end Writer

end MessageBus
