import Mathlib
import MessageBus.Proofs.Wire.RoundTrip

namespace MessageBus

namespace Sig

mutual

/-- The integers a value holds in `d` places of a complete type: writing turns each into the
nearest binary64 number. -/
def doubles (s : Sig) (v : Value) : List Int :=
  match s with
  | .basic .double =>
    match v with
    | .int n => [n]
    | _ => []
  | .basic _ => []
  | .variant =>
    match v with
    | .variant (.str sig) inner =>
      match Signature.parse sig with
      | .ok [t] => doubles t inner
      | _ => []
    | _ => []
  | .array element =>
    match v with
    | .list xs | .tuple xs => doublesEach element xs
    | _ => []
  | .dict key value =>
    match v with
    | .dict entries => doublesEntries key value entries
    | _ => []
  | .struct fields =>
    match v with
    | .list xs | .tuple xs => doublesFields fields xs
    | _ => []
termination_by sizeOf v

def doublesEach (s : Sig) (xs : List Value) : List Int :=
  match xs with
  | [] => []
  | x :: rest => doubles s x ++ doublesEach s rest
termination_by sizeOf xs

def doublesEntries (key : Basic) (value : Sig) (entries : List (Value × Value)) : List Int :=
  match entries with
  | [] => []
  | (k, x) :: rest => doubles (.basic key) k ++ doubles value x ++ doublesEntries key value rest
termination_by sizeOf entries

def doublesFields (fields : List Sig) (xs : List Value) : List Int :=
  match fields, xs with
  | f :: fs, x :: rest => doubles f x ++ doublesFields fs rest
  | _, _ => []
termination_by sizeOf xs

end

theorem mem_doublesEach {s : Sig} {xs : List Value} {n : Int} :
    n ∈ doublesEach s xs ↔ ∃ x ∈ xs, n ∈ s.doubles x := by
  induction xs with
  | nil => simp [doublesEach]
  | cons x rest ih => simp [doublesEach, ih]

theorem mem_doublesEntries {key : Basic} {value : Sig} {entries : List (Value × Value)} {n : Int} :
    n ∈ doublesEntries key value entries ↔
      ∃ e ∈ entries, n ∈ (Sig.basic key).doubles e.1 ∨ n ∈ value.doubles e.2 := by
  induction entries with
  | nil => simp [doublesEntries]
  | cons entry rest ih =>
    obtain ⟨k, x⟩ := entry
    simp [doublesEntries, ih, or_assoc]

theorem mem_doublesFields {fields : List Sig} {xs : List Value} {n : Int} :
    n ∈ doublesFields fields xs ↔ ∃ pair ∈ fields.zip xs, n ∈ pair.1.doubles pair.2 := by
  induction fields generalizing xs with
  | nil => simp [doublesFields]
  | cons f fs ih =>
    cases xs with
    | nil => simp [doublesFields]
    | cons x rest => simp [doublesFields, ih]

theorem doubles_variant {sig : Text} {t : Sig} {inner : Value} (parsed : Signature.parse sig = .ok [t]) :
    Sig.variant.doubles (.variant (.str sig) inner) = t.doubles inner := by
  rw [doubles, parsed]

theorem doubles_subset_of_seq {element : Sig} {v x : Value} {xs : List Value} (seq : v = .list xs ∨ v = .tuple xs)
    (member : x ∈ xs) : element.doubles x ⊆ (Sig.array element).doubles v := by
  intro n inside
  have each : n ∈ doublesEach element xs := mem_doublesEach.mpr ⟨x, member, inside⟩
  rcases seq with rfl | rfl <;> (rw [doubles]; exact each)

theorem doubles_subset_of_entry {key : Basic} {value : Sig} {e : Value × Value} {entries : List (Value × Value)}
    (member : e ∈ entries) :
    (Sig.basic key).doubles e.1 ⊆ (Sig.dict key value).doubles (.dict entries) ∧
      value.doubles e.2 ⊆ (Sig.dict key value).doubles (.dict entries) := by
  have dict : (Sig.dict key value).doubles (.dict entries) = doublesEntries key value entries := by
    unfold doubles
    rfl
  rw [dict]
  exact ⟨fun n inside => mem_doublesEntries.mpr ⟨e, member, .inl inside⟩,
    fun n inside => mem_doublesEntries.mpr ⟨e, member, .inr inside⟩⟩

theorem doubles_subset_of_field {fields : List Sig} {v : Value} {xs : List Value} {pair : Sig × Value}
    (seq : v = .list xs ∨ v = .tuple xs) (member : pair ∈ fields.zip xs) :
    pair.1.doubles pair.2 ⊆ (Sig.struct fields).doubles v := by
  intro n inside
  have each : n ∈ doublesFields fields xs := mem_doublesFields.mpr ⟨pair, member, inside⟩
  rcases seq with rfl | rfl <;> (rw [doubles]; exact each)

end Sig

/-- What makes writing a checked value fail, given the texts it holds and the integers it holds in
`d` places: an array longer than `maxArray`; a text with a surrogate, or with more UTF-8 octets
than its 32-bit length word can count; or an integer too large for a binary64 number. -/
def EncodeError.Explained (e : EncodeError) (texts : List Text) (doubles : List Int) : Prop :=
  (∃ n, maxArray < n ∧ e = .arrayTooLong n) ∨
    (∃ t ∈ texts, (∃ fault, Utf8.encode t = .error fault ∧ e = .text fault) ∨
      ∃ bytes, Utf8.encode t = .ok bytes ∧ 0xFFFFFFFF < bytes.length ∧ e = .outOfRange .uint32) ∨
    (e = .notAFloat ∧ ∃ n ∈ doubles, Binary64.ofInt? n = none)

/-- A cause found in a part of a value is a cause for the whole value. -/
theorem EncodeError.Explained.mono {e : EncodeError} {texts texts' : List Text} {doubles doubles' : List Int}
    (explained : e.Explained texts doubles) (moreTexts : texts ⊆ texts') (moreDoubles : doubles ⊆ doubles') :
    e.Explained texts' doubles' := by
  rcases explained with long | ⟨t, inside, cause⟩ | ⟨rfl, n, inside, large⟩
  · exact .inl long
  · exact .inr (.inl ⟨t, moreTexts inside, cause⟩)
  · exact .inr (.inr ⟨rfl, n, moreDoubles inside, large⟩)

namespace Writer

theorem integer_of_within {w : Writer} {b : Basic} {low high n : Int} (range : b.range? = some (low, high))
    (above : low ≤ n) (below : n ≤ high) : ∃ w', w.integer b n = .ok w' := by
  cases b <;> simp only [Basic.range?, reduceCtorEq, Option.some.injEq, Prod.mk.injEq] at range
  all_goals
    obtain ⟨rfl, rfl⟩ := range
    simp [integer, Basic.range?, Basic.width?, not_lt.mpr above, not_lt.mpr below]

theorem byte_of_within {w : Writer} {n : Int} (above : 0 ≤ n) (below : n ≤ 0xFF) : ∃ w', w.byte n = .ok w' :=
  integer_of_within rfl above below

theorem word_of_within {w : Writer} {n : Int} (above : 0 ≤ n) (below : n ≤ 0xFFFFFFFF) : ∃ w', w.word n = .ok w' :=
  integer_of_within rfl above below

/-- A 32-bit word fails only for a number outside its range. -/
theorem word_error {w : Writer} {n : Int} {e : EncodeError} (failed : w.word n = .error e) :
    e = .outOfRange .uint32 ∧ (n < 0 ∨ 0xFFFFFFFF < n) := by
  unfold word integer at failed
  simp only [Basic.range?, Basic.width?] at failed
  split at failed
  · rename_i outside
    cases failed
    simp only [Bool.or_eq_true, decide_eq_true_eq] at outside
    exact ⟨rfl, outside⟩
  · cases failed

/-- Text fails to be written when it has no UTF-8 encoding, or too many octets for its length. -/
theorem text_error {w : Writer} {t : Text} {e : EncodeError} (failed : w.text t = .error e) :
    (∃ fault, Utf8.encode t = .error fault ∧ e = .text fault) ∨
      ∃ bytes, Utf8.encode t = .ok bytes ∧ 0xFFFFFFFF < bytes.length ∧ e = .outOfRange .uint32 := by
  unfold text at failed
  split at failed
  · rename_i fault encodes
    cases failed
    exact .inl ⟨fault, encodes, rfl⟩
  · rename_i bytes encodes
    split at failed
    · rename_i e' worded
      cases failed
      obtain ⟨rfl, outside⟩ := word_error worded
      exact .inr ⟨bytes, encodes, by omega, rfl⟩
    · cases failed

/-- The writer's shape for arrays and dictionaries: a failure of the contents, or contents longer
than `maxArray`. -/
theorem framed_error {w : Writer} {a : Nat} {body : Except EncodeError Writer} {e : EncodeError}
    (failed : (match body with
      | .error e => (Except.error e : Except EncodeError Writer)
      | .ok w₃ =>
        if w₃.buf.size - (((w.align 4).put [0, 0, 0, 0]).align a).buf.size > maxArray then
          Except.error (.arrayTooLong (w₃.buf.size - (((w.align 4).put [0, 0, 0, 0]).align a).buf.size))
        else Except.ok (w₃.patch (w.align 4).buf.size (w₃.buf.size - (((w.align 4).put [0, 0, 0, 0]).align a).buf.size))) =
      .error e) :
    body = .error e ∨ ∃ n, maxArray < n ∧ e = .arrayTooLong n := by
  split at failed
  · cases failed
    exact .inl rfl
  · split at failed
    · rename_i long
      cases failed
      exact .inr ⟨_, long, rfl⟩
    · cases failed

theorem writeEach_error {w : Writer} {s : Sig} {xs : List Value} {e : EncodeError}
    (failed : w.writeEach s xs = .error e) : ∃ x ∈ xs, ∃ w' : Writer, w'.write s x = .error e := by
  induction xs generalizing w with
  | nil =>
    unfold writeEach at failed
    cases failed
  | cons x rest ih =>
    unfold writeEach at failed
    split at failed
    · rename_i e' first
      cases failed
      exact ⟨x, List.mem_cons_self, w, first⟩
    · obtain ⟨y, member, w', later⟩ := ih failed
      exact ⟨y, List.mem_cons_of_mem _ member, w', later⟩

theorem writeEntries_error {w : Writer} {key : Basic} {value : Sig} {entries : List (Value × Value)}
    {e : EncodeError} (failed : w.writeEntries key value entries = .error e) :
    ∃ entry ∈ entries, ∃ w' : Writer, w'.write (.basic key) entry.1 = .error e ∨ w'.write value entry.2 = .error e := by
  induction entries generalizing w with
  | nil =>
    unfold writeEntries at failed
    cases failed
  | cons entry rest ih =>
    obtain ⟨k, x⟩ := entry
    unfold writeEntries at failed
    split at failed
    · rename_i e' first
      cases failed
      exact ⟨(k, x), List.mem_cons_self, _, .inl first⟩
    · rename_i w₁ _
      split at failed
      · rename_i e' second
        cases failed
        exact ⟨(k, x), List.mem_cons_self, w₁, .inr second⟩
      · obtain ⟨later, member, w', failedAt⟩ := ih failed
        exact ⟨later, List.mem_cons_of_mem _ member, w', failedAt⟩

theorem writeFields_error {w : Writer} {fields : List Sig} {xs : List Value} {e : EncodeError}
    (failed : w.writeFields fields xs = .error e) : ∃ pair ∈ fields.zip xs, ∃ w' : Writer, w'.write pair.1 pair.2 = .error e := by
  induction fields generalizing w xs with
  | nil =>
    unfold writeFields at failed
    cases failed
  | cons f fs ih =>
    cases xs with
    | nil =>
      unfold writeFields at failed
      cases failed
    | cons x rest =>
      unfold writeFields at failed
      split at failed
      · rename_i e' first
        cases failed
        exact ⟨(f, x), List.mem_cons_self, w, first⟩
      · obtain ⟨pair, member, w', later⟩ := ih failed
        exact ⟨pair, List.mem_cons_of_mem _ member, w', later⟩

/-- A checked value of a basic type fails to be written only as text with a surrogate or too many
octets, or as an integer in a `d` place too large for a binary64 number. -/
theorem write_basic_explained {w : Writer} {b : Basic} {v : Value} {e : EncodeError}
    (checked : (Sig.basic b).check v = .ok ()) (failed : w.write (.basic b) v = .error e) :
    e.Explained v.texts ((Sig.basic b).doubles v) := by
  rcases Sig.check_basic checked with ⟨low, high, n, range, rfl, above, below⟩ | ⟨rfl, t, rfl⟩ |
    ⟨rfl, ⟨n, rfl⟩ | ⟨x, rfl⟩⟩ | ⟨text, t, rfl⟩ | ⟨rfl, t, ts, rfl, -⟩
  · obtain ⟨w', written⟩ := integer_of_within (w := w) range above below
    rw [write_basic_int w range, written] at failed
    cases failed
  · unfold write fixed at failed
    cases failed
  · unfold write fixed at failed
    cases converted : Binary64.ofInt? n with
    | some x => simp [converted] at failed
    | none =>
      simp only [converted, Except.error.injEq] at failed
      exact .inr (.inr ⟨failed.symm, n, by simp [Sig.doubles], converted⟩)
  · unfold write fixed at failed
    cases failed
  · have written : w.write (.basic b) (.str t) = (w.align 4).text t := by
      rcases text with rfl | rfl <;> (unfold write; rfl)
    rw [written] at failed
    exact .inr (.inl ⟨t, by simp [Value.texts], text_error failed⟩)
  · unfold write at failed
    cases failed

end Writer

/-- Every failure to write a value that checks against a well-formed complete type has a cause
in the value: an array too long, a text with a surrogate or too many octets, or an integer in a
`d` place too large for a binary64 number. -/
theorem Writer.write_explained {s : Sig} {v : Value} (formed : s.WellFormed) (checked : s.check v = .ok ())
    {w : Writer} {e : EncodeError} (failed : w.write s v = .error e) : e.Explained v.texts (s.doubles v) := by
  cases formed with
  | basic b => exact write_basic_explained checked failed
  | variant =>
    obtain ⟨sig, inner, t, rfl, parsed, innerChecked⟩ := Sig.check_variant checked
    have formedInner : t.WellFormed := (Signature.parse_ok parsed).2.2 t (List.mem_singleton_self t)
    unfold Writer.write at failed
    simp only [parsed] at failed
    exact (write_explained formedInner innerChecked failed).mono (by simp [Value.texts])
      (by rw [Sig.doubles_variant parsed]; exact List.Subset.refl _)
  | array formed =>
    rename_i element
    unfold Writer.write at failed
    rcases Writer.framed_error failed with body | long
    · rcases Sig.check_array checked with ⟨xs, seq, each⟩ | ⟨rfl, b, rfl⟩
      · have elements : (((w.align 4).put [0, 0, 0, 0]).align element.alignment).writeEach element xs = .error e := by
          rcases seq with rfl | rfl <;> simpa using body
        obtain ⟨x, member, w', failedAt⟩ := Writer.writeEach_error elements
        exact (write_explained formed (each x member) failedAt).mono (Value.texts_subset_of_seq seq member)
          (Sig.doubles_subset_of_seq seq member)
      · simp at body
    · exact .inl long
  | dict key formed =>
    obtain ⟨entries, rfl, each⟩ := Sig.check_dict checked
    unfold Writer.write at failed
    rcases Writer.framed_error failed with body | long
    · obtain ⟨entry, member, w', failedAt⟩ := Writer.writeEntries_error body
      rcases failedAt with keyFailed | valueFailed
      · exact (write_explained (.basic key) (each entry member).1 keyFailed).mono
          (Value.texts_subset_of_entry member).1 (Sig.doubles_subset_of_entry member).1
      · exact (write_explained formed (each entry member).2 valueFailed).mono
          (Value.texts_subset_of_entry member).2 (Sig.doubles_subset_of_entry member).2
    · exact .inl long
  | struct nonempty formed =>
    rename_i fields
    obtain ⟨xs, seq, same, each⟩ := Sig.check_struct checked
    have body : (w.align 8).writeFields fields xs = .error e := by
      rcases seq with rfl | rfl <;> (unfold Writer.write at failed; exact failed)
    obtain ⟨pair, member, w', failedAt⟩ := Writer.writeFields_error body
    exact (write_explained (formed pair.1 (List.of_mem_zip member).1) (each pair member) failedAt).mono
      (Value.texts_subset_of_seq seq (List.of_mem_zip member).2) (Sig.doubles_subset_of_field seq member)
termination_by sizeOf v
decreasing_by
  all_goals subst_vars
  all_goals first
    | exact Value.sizeOf_lt_of_seq seq member
    | exact Value.sizeOf_lt_of_seq seq (List.of_mem_zip member).2
    | exact (Value.sizeOf_lt_of_entry member).1
    | exact (Value.sizeOf_lt_of_entry member).2
    | simp

/-- The body's values fail to be written only for a cause in one of them. -/
theorem Writer.writeBody_explained {w : Writer} {ts : List Sig} {vs : List Value} {e : EncodeError}
    (formed : ∀ t ∈ ts, t.WellFormed) (checked : ∀ pair ∈ ts.zip vs, pair.1.check pair.2 = .ok ())
    (failed : w.writeBody ts vs = .error e) : e.Explained (Value.textsEach vs) (Sig.doublesFields ts vs) := by
  rw [writeBody_eq_writeFields] at failed
  obtain ⟨pair, member, w', failedAt⟩ := writeFields_error failed
  exact (write_explained (formed pair.1 (List.of_mem_zip member).1) (checked pair member) failedAt).mono
    (Value.texts_subset_textsEach (List.of_mem_zip member).2)
    (fun n inside => Sig.mem_doublesFields.mpr ⟨pair, member, inside⟩)

namespace HeaderField

/-- A header field entry holds no integer in a `d` place. -/
theorem doubles_entry (f : HeaderField) (v : FieldValue) :
    (Sig.struct [.basic .byte, .variant]).doubles (f.entry v) = [] := by
  cases f <;> simp [entry, Sig.doubles, Sig.doublesFields, Signature.parse_basic_code, HeaderField.basic]

/-- The code of a header field's type is text of one ASCII character. -/
theorem encode_code (b : Basic) : Utf8.encode (Sig.basic b).code = .ok [b.letter.toNat.toUInt8] := by
  cases b <;> rfl

end HeaderField

namespace Message

/-- The integers of a message's body in `d` places of its signature. -/
def doubles (m : Message) : List Int := Sig.doublesFields m.types m.body

end Message

/-- The header field array of a message fails to be written only for a cause in the message's
texts: its entries hold no integer in a `d` place, and the signatures they carry are one ASCII
character each. -/
theorem Message.header_explained {m : Message} {fields : List Value} {w : Writer} {fault : EncodeError}
    (built : m.headerFields = .ok fields) (failed : w.write headerFieldsSig (.list fields) = .error fault) :
    fault.Explained m.texts [] := by
  obtain ⟨rfl, fieldsChecked⟩ := headerFields_foldr m HeaderField.all built
  have formed : headerFieldsSig.WellFormed := .array (.struct (by simp) (by simpa using ⟨.basic _, .variant⟩))
  have arrayChecked : headerFieldsSig.check (.list (m.writtenFields.map fun p => p.1.entry p.2)) = .ok () := by
    unfold headerFieldsSig Sig.check
    refine Sig.checkEach_ok.mpr fun x member => ?_
    obtain ⟨p, inside, rfl⟩ := List.mem_map.mp member
    exact HeaderField.check_entry (fieldsChecked p inside)
  rcases Writer.write_explained formed arrayChecked failed with long | ⟨t, inside, cause⟩ | ⟨rfl, n, inside, -⟩
  · exact .inl long
  · rw [Value.texts, Value.mem_textsEach] at inside
    obtain ⟨x, member, text⟩ := inside
    obtain ⟨p, written, rfl⟩ := List.mem_map.mp member
    rw [HeaderField.texts_entry] at text
    rcases List.mem_cons.mp text with rfl | text
    · rcases cause with ⟨fault', encodes, -⟩ | ⟨bytes, encodes, long, -⟩
      · rw [HeaderField.encode_code] at encodes
        cases encodes
      · rw [HeaderField.encode_code] at encodes
        cases encodes
        simp at long
    · exact .inr (.inl ⟨t, texts_of_written written t text, cause⟩)
  · unfold headerFieldsSig Sig.doubles at inside
    obtain ⟨x, member, inside⟩ := Sig.mem_doublesEach.mp inside
    obtain ⟨p, -, rfl⟩ := List.mem_map.mp member
    rw [HeaderField.doubles_entry] at inside
    cases inside

/-- Where marshalling fails once the serial, flags, body and header fields check and the marker
is one of the two: at writing the body, at the body's length word, at writing the header field
array, or at the frame's size. -/
theorem Message.marshal_error {m : Message} {endian : Text} {fields : List Value} {e : MarshalError}
    (numbered : 0 < m.serial ∧ m.serial ≤ 0xFFFFFFFF) (flagged : 0 ≤ m.flags ∧ m.flags ≤ 0xFF)
    (built : m.headerFields = .ok fields) (valid : Signature.validate (.str m.signature) m.body = .ok ())
    (marker : endian = Text.ofString "l" ∨ endian = Text.ofString "B") (failed : m.marshal endian = .error e) :
    (∃ fault, (Writer.empty (ByteOrder.ofMarker endian)).writeBody m.types m.body = .error fault ∧
      e = .encode fault) ∨
    (∃ body : Writer, (Writer.empty (ByteOrder.ofMarker endian)).writeBody m.types m.body = .ok body ∧
      0xFFFFFFFF < body.buf.size ∧ e = .encode (.outOfRange .uint32)) ∨
    (∃ (w : Writer) (fault : EncodeError), w.write headerFieldsSig (.list fields) = .error fault ∧ e = .encode fault) ∨
    ∃ n, maxMessage < n ∧ e = .tooLong n := by
  unfold Message.marshal at failed
  simp only [bind, Except.bind, pure, Except.pure, throw, throwThe, MonadExceptOf.throw, Except.mapError] at failed
  rw [if_neg (by simp; omega), valid] at failed
  cases bodyWritten : (Writer.empty (ByteOrder.ofMarker endian)).writeBody m.types m.body with
  | error fault =>
    rw [Message.types] at bodyWritten
    simp only [bodyWritten, Except.error.injEq] at failed
    exact .inl ⟨fault, rfl, failed.symm⟩
  | ok body =>
    rw [Message.types] at bodyWritten
    simp only [bodyWritten, built] at failed
    obtain ⟨c, single, code⟩ : ∃ c, endian.codes = [c] ∧ (c = 108 ∨ c = 66) := by
      rcases marker with rfl | rfl
      · exact ⟨108, rfl, .inl rfl⟩
      · exact ⟨66, rfl, .inr rfl⟩
    have kindCode : (m.kind.code : Int) ≤ 0xFF := by cases m.kind <;> decide
    obtain ⟨w₁, first⟩ := Writer.byte_of_within (w := Writer.empty (ByteOrder.ofMarker endian)) (n := c)
      (by omega) (by omega)
    obtain ⟨w₂, second⟩ := Writer.byte_of_within (w := w₁) (n := m.kind.code) (by omega) kindCode
    obtain ⟨w₃, third⟩ := Writer.byte_of_within (w := w₂) flagged.1 flagged.2
    obtain ⟨w₄, fourth⟩ := Writer.byte_of_within (w := w₃) (n := protocolVersion) (by decide) (by decide)
    simp only [single, first, second, third, fourth] at failed
    cases fifth : w₄.word body.buf.size with
    | error fault =>
      simp only [fifth] at failed
      cases failed
      obtain ⟨rfl, outside⟩ := Writer.word_error fifth
      exact .inr (.inl ⟨body, rfl, by omega, rfl⟩)
    | ok w₅ =>
      obtain ⟨w₆, sixth⟩ := Writer.word_of_within (w := w₅) numbered.1.le numbered.2
      simp only [fifth, sixth] at failed
      cases header : w₆.write headerFieldsSig (.list fields) with
      | error fault =>
        simp only [header] at failed
        cases failed
        exact .inr (.inr (.inl ⟨w₆, fault, header, rfl⟩))
      | ok w₇ =>
        simp only [header] at failed
        split at failed
        · rename_i long
          cases failed
          exact .inr (.inr (.inr ⟨_, long, rfl⟩))
        · cases failed

/-- A frame that marshalling gives is no longer than `maxMessage`. -/
theorem Message.marshal_size {m : Message} {endian : Text} {frame : ByteArray}
    (marshalled : m.marshal endian = .ok frame) : frame.size ≤ maxMessage := by
  unfold Message.marshal at marshalled
  simp only [bind, Except.bind, pure, Except.pure, throw, throwThe, MonadExceptOf.throw, Except.mapError] at marshalled
  repeat' split at marshalled
  all_goals cases marshalled
  omega

/-- Marshalling a message whose serial, flags, header fields, body and byte-order marker all
check gives a frame, or fails because the frame is too long, because the body takes more octets
than its 32-bit length word can count, or for a cause in the message's texts or in the integers
of its body in `d` places. -/
theorem Message.marshal_fails_only {m : Message} {endian : Text} {e : MarshalError}
    (numbered : 0 < m.serial ∧ m.serial ≤ 0xFFFFFFFF) (flagged : 0 ≤ m.flags ∧ m.flags ≤ 0xFF)
    (fielded : ∃ fields, m.headerFields = .ok fields) (valid : Signature.validate (.str m.signature) m.body = .ok ())
    (marker : endian = Text.ofString "l" ∨ endian = Text.ofString "B") (failed : m.marshal endian = .error e) :
    (∃ n, maxMessage < n ∧ e = .tooLong n) ∨
    (∃ body : Writer, (Writer.empty (ByteOrder.ofMarker endian)).writeBody m.types m.body = .ok body ∧
      0xFFFFFFFF < body.buf.size ∧ e = .encode (.outOfRange .uint32)) ∨
    ∃ fault, e = .encode fault ∧ fault.Explained m.texts m.doubles := by
  obtain ⟨fields, built⟩ := fielded
  obtain ⟨ts, parsed, same, checked⟩ := Signature.validate_ok valid
  have typesEq : m.types = ts := by rw [Message.types, parsed]; rfl
  have formed : ∀ t ∈ ts, t.WellFormed := (Signature.parse_ok parsed).2.2
  rcases Message.marshal_error numbered flagged built valid marker failed with
    ⟨fault, bodyFailed, rfl⟩ | ⟨body, bodyWritten, long, rfl⟩ | ⟨w, fault, headerFailed, rfl⟩ | ⟨n, long, rfl⟩
  · rw [typesEq] at bodyFailed
    refine .inr (.inr ⟨fault, rfl, ?_⟩)
    exact (Writer.writeBody_explained formed checked bodyFailed).mono (fun t inside => List.mem_append_right _ inside)
      (fun n inside => by rwa [Message.doubles, typesEq])
  · exact .inr (.inl ⟨body, bodyWritten, long, rfl⟩)
  · exact .inr (.inr ⟨fault, rfl, (Message.header_explained built headerFailed).mono (fun t inside => inside)
      (fun n inside => by cases inside)⟩)
  · exact .inl ⟨n, long, rfl⟩

/-- Marshalling a message whose body fails to be written fails with that failure: the body is
written before anything else. -/
theorem Message.marshal_of_writeBody {m : Message} {endian : Text} {fault : EncodeError} (numbered : m.serial ≠ 0)
    (valid : Signature.validate (.str m.signature) m.body = .ok ())
    (failed : (Writer.empty (ByteOrder.ofMarker endian)).writeBody m.types m.body = .error fault) :
    m.marshal endian = .error (.encode fault) := by
  unfold Message.marshal
  simp only [bind, Except.bind, pure, Except.pure, throw, throwThe, MonadExceptOf.throw, Except.mapError]
  rw [if_neg (by simpa using numbered), valid]
  rw [Message.types] at failed
  simp [failed]

/-- A call to `M` at `/` whose one argument, for a `d`, is the integer `n`. -/
def Message.doubleCall (n : Int) : Message :=
  { kind := .methodCall, serial := 1, path := some (Text.ofString "/"), member := some (Text.ofString "M"),
    signature := Text.ofString "d", body := [.int n] }

/-- The call checks in every part whatever its integer: checking does not look at the size of an
integer for a `d`. Marshalling it fails when the integer is past the largest binary64 number. -/
theorem Message.doubleCall_checks (n : Int) :
    (∃ fields, (doubleCall n).headerFields = .ok fields) ∧
      Signature.validate (.str (doubleCall n).signature) (doubleCall n).body = .ok () := by
  have checked : (Sig.basic .double).check (.int n) = .ok () := by
    unfold Sig.check
    rfl
  refine ⟨⟨_, by with_unfolding_all rfl⟩, ?_⟩
  simp [Signature.validate, Signature.ofValue, doubleCall, Signature.validate.go, checked,
    show Signature.parse (Text.ofString "d") = .ok [.basic .double] from Signature.parse_basic_code .double]

theorem Message.marshal_doubleCall {n : Int} (huge : Binary64.ofInt? n = none) :
    (doubleCall n).marshal (Text.ofString "l") = .error (.encode .notAFloat) := by
  refine marshal_of_writeBody (show (1 : Int) ≠ 0 by decide) (doubleCall_checks n).2 ?_
  have types : (doubleCall n).types = [.basic .double] := by with_unfolding_all rfl
  rw [types]
  simp only [doubleCall, Writer.writeBody]
  unfold Writer.write Writer.fixed
  simp [huge]

/-- The call with `2^1024` for its `d` checks in every part, and marshalling it fails as the theorem
allows: the integer is past the largest binary64 number. -/
theorem Message.marshal_fails_only_hugeDouble :
    (0 < (Message.doubleCall (2 ^ 1024)).serial ∧ (Message.doubleCall (2 ^ 1024)).serial ≤ 0xFFFFFFFF) ∧ (0 ≤ (Message.doubleCall (2 ^ 1024)).flags ∧ (Message.doubleCall (2 ^ 1024)).flags ≤ 0xFF) ∧
    (∃ fields, (Message.doubleCall (2 ^ 1024)).headerFields = .ok fields) ∧ Signature.validate (.str (Message.doubleCall (2 ^ 1024)).signature) (Message.doubleCall (2 ^ 1024)).body = .ok () ∧
    (Message.doubleCall (2 ^ 1024)).marshal (Text.ofString "l") = .error (.encode .notAFloat) ∧
    ((∃ n, maxMessage < n ∧ MarshalError.encode .notAFloat = .tooLong n) ∨
      (∃ body : Writer, (Writer.empty (ByteOrder.ofMarker (Text.ofString "l"))).writeBody (Message.doubleCall (2 ^ 1024)).types (Message.doubleCall (2 ^ 1024)).body = .ok body ∧
        0xFFFFFFFF < body.buf.size ∧ MarshalError.encode .notAFloat = .encode (.outOfRange .uint32)) ∨
      ∃ fault, MarshalError.encode .notAFloat = .encode fault ∧ fault.Explained (Message.doubleCall (2 ^ 1024)).texts (Message.doubleCall (2 ^ 1024)).doubles) := by
  have huge : Binary64.ofInt? (2 ^ 1024) = none := by decide +kernel
  obtain ⟨fields, valid⟩ := Message.doubleCall_checks (2 ^ 1024)
  exact ⟨⟨by decide, by decide⟩, ⟨le_refl _, by decide⟩, fields, valid, marshal_doubleCall huge,
    marshal_fails_only ⟨by decide, by decide⟩ ⟨le_refl _, by decide⟩ fields valid (.inl rfl) (marshal_doubleCall huge)⟩

end MessageBus
