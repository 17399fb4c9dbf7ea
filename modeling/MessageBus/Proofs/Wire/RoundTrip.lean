import Mathlib
import MessageBus.Proofs.Wire.Values
import MessageBus.Proofs.Wire.Header

namespace MessageBus

namespace Writer

theorem byte_ok {w w' : Writer} {n : Int} (written : w.byte n = .ok w') :
    0 ≤ n ∧ n ≤ 0xFF ∧ w.Appends [n.toNat.toUInt8] w' := by
  obtain ⟨low, high, width, range, wide, above, below, app⟩ := integer_ok written
  simp only [Basic.range?, Basic.width?, Option.some.injEq, Prod.mk.injEq] at range wide
  obtain ⟨rfl, rfl⟩ := range
  subst wide
  rw [padding_eq_zero (Nat.mod_one _), List.replicate_zero, List.nil_append, signedOctets_byte _ above below] at app
  exact ⟨above, below, app⟩

theorem word_ok {w w' : Writer} {n : Int} (written : w.word n = .ok w') :
    0 ≤ n ∧ n ≤ 0xFFFFFFFF ∧
      w.Appends (List.replicate (padding w.buf.size 4) 0 ++ Word.octets w.order 4 n.toNat) w' := by
  obtain ⟨low, high, width, range, wide, above, below, app⟩ := integer_ok written
  simp only [Basic.range?, Basic.width?, Option.some.injEq, Prod.mk.injEq] at range wide
  obtain ⟨rfl, rfl⟩ := range
  subst wide
  have unsigned : Word.signedOctets w.order 4 n = Word.octets w.order 4 n.toNat := by
    unfold Word.signedOctets
    rw [Int.emod_eq_of_lt above (by norm_num; omega)]
  rw [unsigned] at app
  exact ⟨above, below, app⟩

end Writer

/-- The fixed part of a frame: the marker, kind, flags and version, one octet each, then two
32-bit words, the body's length and the serial. -/
theorem Writer.fixed_layout {order : ByteOrder} {c : Nat} {k fl size s : Int} {w₁ w₂ w₃ w₄ w₅ w₆ : Writer}
    (first : (Writer.empty order).byte c = .ok w₁) (second : w₁.byte k = .ok w₂) (third : w₂.byte fl = .ok w₃)
    (fourth : w₃.byte protocolVersion = .ok w₄) (fifth : w₄.word size = .ok w₅) (sixth : w₅.word s = .ok w₆) :
    c < 256 ∧ 0 ≤ k ∧ k ≤ 0xFF ∧ 0 ≤ fl ∧ fl ≤ 0xFF ∧ 0 ≤ size ∧ size ≤ 0xFFFFFFFF ∧ 0 ≤ s ∧ s ≤ 0xFFFFFFFF ∧
      w₆.order = order ∧ w₆.buf.toList = [c.toUInt8, k.toNat.toUInt8, fl.toNat.toUInt8, 1] ++
        Word.octets order 4 size.toNat ++ Word.octets order 4 s.toNat := by
  obtain ⟨-, marker, a₁⟩ := byte_ok first
  obtain ⟨k₀, k₁, a₂⟩ := byte_ok second
  obtain ⟨f₀, f₁, a₃⟩ := byte_ok third
  obtain ⟨-, -, a₄⟩ := byte_ok fourth
  obtain ⟨s₀, s₁, a₅⟩ := word_ok fifth
  obtain ⟨t₀, t₁, a₆⟩ := word_ok sixth
  have at₄ : w₄.buf.size = 4 := by rw [a₄.size, a₃.size, a₂.size, a₁.size]; rfl
  have at₅ : w₅.buf.size = 8 := by rw [a₅.size, at₄]; simp [padding]
  have o₄ : w₄.order = order := a₄.1.trans (a₃.1.trans (a₂.1.trans a₁.1))
  have o₅ : w₅.order = order := a₅.1.trans o₄
  rw [at₄, o₄] at a₅
  rw [at₅, o₅] at a₆
  have whole := ((((a₁.trans a₂).trans a₃).trans a₄).trans a₅).trans a₆
  refine ⟨by omega, k₀, k₁, f₀, f₁, s₀, s₁, t₀, t₁, whole.1, ?_⟩
  rw [whole.2]
  simp [Writer.empty, padding, protocolVersion]

/-- The header field array: a length word at offset twelve and the entries, which read back as
themselves. -/
theorem Writer.write_headerFields {w header : Writer} {ws : List (HeaderField × FieldValue)}
    (checked : ∀ p ∈ ws, (Sig.basic p.1.basic).check p.2.toValue = .ok ())
    (written : w.write headerFieldsSig (.list (ws.map fun p => p.1.entry p.2)) = .ok header) :
    ∃ B, w.Appends (arrayHead w.order w.buf.size 8 B.length ++ B) header ∧ B.length ≤ maxArray ∧
      ∀ {f : Frame} {P Q : List UInt8}, f.order = w.order →
        f.data.toList = P ++ (arrayHead w.order w.buf.size 8 B.length ++ B) ++ Q → P.length % 8 = w.buf.size % 8 →
        f.read 0 headerFieldsSig P.length =
          .ok (.list (ws.map fun p => p.1.entry p.2), P.length + (arrayHead w.order w.buf.size 8 B.length ++ B).length) := by
  have formed : (Sig.struct [.basic .byte, .variant]).WellFormed :=
    .struct (by simp) (by simpa using ⟨.basic _, .variant⟩)
  have each : ∀ x ∈ ws.map (fun p => p.1.entry p.2), WritesBack (.struct [.basic .byte, .variant]) x := by
    intro x member
    obtain ⟨p, inside, rfl⟩ := List.mem_map.mp member
    exact writesBack formed (HeaderField.check_entry (checked p inside))
  obtain ⟨B, app, short, -⟩ := Writer.write_array (.inl rfl) each written
  have arrayChecked : headerFieldsSig.check (.list (ws.map fun p => p.1.entry p.2)) = .ok () := by
    unfold headerFieldsSig Sig.check
    refine Sig.checkEach_ok.mpr fun x member => ?_
    obtain ⟨p, inside, rfl⟩ := List.mem_map.mp member
    exact HeaderField.check_entry (checked p inside)
  obtain ⟨E, whole, -, reads⟩ := writesBack (.array formed) arrayChecked written
  obtain rfl := whole.unique app
  refine ⟨B, app, short, @fun f P Q order layout residue => ?_⟩
  have shallow : 0 + headerFieldsSig.nesting (.list (ws.map fun p => p.1.entry p.2)) ≤ maxNesting := by
    unfold headerFieldsSig
    rw [Sig.nesting_array (by simp) (.inl rfl)]
    have bound : Sig.nestingEach (.struct [.basic .byte, .variant]) (ws.map fun p => p.1.entry p.2) ≤ 3 :=
      Sig.nestingEach_le fun x member => by
        obtain ⟨p, -, rfl⟩ := List.mem_map.mp member
        rw [HeaderField.nesting_entry]
        omega
    simp only [maxNesting, Sig.maxDepth] at bound ⊢
    omega
  have read := reads shallow order layout residue
  unfold headerFieldsSig at read ⊢
  rwa [Sig.normal_array (by simp) (.inl rfl), Sig.normalEach_eq_self fun x member => by
    obtain ⟨p, -, rfl⟩ := List.mem_map.mp member
    exact HeaderField.normal_entry p.1 p.2] at read

/-- The body is written as the fields of a struct are. -/
theorem Writer.writeBody_eq_writeFields (w : Writer) (ts : List Sig) (vs : List Value) :
    w.writeBody ts vs = w.writeFields ts vs := by
  induction ts generalizing w vs with
  | nil => unfold writeBody writeFields; rfl
  | cons t rest ih =>
    cases vs with
    | nil => unfold writeBody writeFields; rfl
    | cons v later =>
      rw [writeBody, writeFields]
      cases w.write t v with
      | error e => rfl
      | ok w' => exact ih w' later

/-- The body is read as the fields of a struct are, at depth zero. -/
theorem Frame.readBody_eq_readFields (f : Frame) (at_ : Nat) (ts : List Sig) :
    f.readBody at_ ts = f.readFields 0 ts at_ := by
  induction ts generalizing at_ with
  | nil => rw [readBody, readFields]; rfl
  | cons t rest ih =>
    rw [readBody, readFields]
    simp [ih]

/-- The body's values, written one after another, read back as their normal forms. -/
theorem Writer.writeBody_readsBack {w w' : Writer} {ts : List Sig} {vs : List Value} (same : ts.length = vs.length)
    (formed : ∀ t ∈ ts, t.WellFormed) (checked : ∀ pair ∈ ts.zip vs, pair.1.check pair.2 = .ok ())
    (written : w.writeBody ts vs = .ok w') :
    ∃ E, w.Appends E w' ∧ FieldsReadBack w.order w.buf.size ts vs E := by
  rw [writeBody_eq_writeFields] at written
  obtain ⟨E, app, -, back⟩ := writeFields_readsBack same (fun pair member => writesBack
    (formed pair.1 (List.of_mem_zip member).1) (checked pair member)) written
  exact ⟨E, app, back⟩

/-- The marker of a byte order is an octet that names it. -/
theorem ByteOrder.ofOctet?_marker {endian : Text} {c : Nat} (marker : endian = Text.ofString "l" ∨ endian = Text.ofString "B")
    (single : endian.codes = [c]) : ByteOrder.ofOctet? c = some (ByteOrder.ofMarker endian) := by
  rcases marker with rfl | rfl <;> simp [Text.ofString] at single <;> subst single <;> rfl

/-- An octet that names a byte order is one that the reader of a frame takes as that order. -/
theorem ByteOrder.ofOctet?_some {c : Nat} {order : ByteOrder} (found : ByteOrder.ofOctet? c = some order) :
    c < 256 ∧ (if (c.toUInt8 == 108) = true then ByteOrder.little else .big) = order := by
  unfold ByteOrder.ofOctet? at found
  split at found <;> cases found <;> decide

namespace Message

/-- What `marshal` builds before it checks the frame's size: the serial is set, the body fits the
signature and was written from offset zero, the header fields were built, the marker is one
character, and the fixed part and the header field array were written before the body. -/
def Builds (m : Message) (endian : Text) (frame : ByteArray) : Prop :=
  ∃ c body fields w₁ w₂ w₃ w₄ w₅ w₆ header, m.serial ≠ 0 ∧ Signature.validate (.str m.signature) m.body = .ok () ∧
    (Writer.empty (ByteOrder.ofMarker endian)).writeBody m.types m.body = .ok body ∧
    m.headerFields = .ok fields ∧ endian.codes = [c] ∧
    (Writer.empty (ByteOrder.ofMarker endian)).byte c = .ok w₁ ∧ w₁.byte m.kind.code = .ok w₂ ∧
    w₂.byte m.flags = .ok w₃ ∧ w₃.byte protocolVersion = .ok w₄ ∧ w₄.word body.buf.size = .ok w₅ ∧
    w₅.word m.serial = .ok w₆ ∧ w₆.write headerFieldsSig (.list fields) = .ok header ∧
    frame = (header.align 8).buf ++ body.buf

/-- Unless `marshal` fails before it checks the frame's size, it gives the frame it builds, or
refuses that frame as too long. -/
theorem marshal_builds {m : Message} {endian : Text} {r : Except MarshalError ByteArray}
    (marshalled : m.marshal endian = r) (reached : ∀ e, r = .error e → ∃ n, e = .tooLong n) :
    ∃ frame, m.Builds endian frame ∧ r = if frame.size > maxMessage then .error (.tooLong frame.size) else .ok frame := by
  have early : ∀ e, (∀ n, e ≠ .tooLong n) → .error e ≠ r := fun e other failed => by
    obtain ⟨n, same⟩ := reached e failed.symm
    exact other n same
  unfold Message.marshal at marshalled
  simp only [bind, Except.bind, pure, Except.pure, throw, throwThe, MonadExceptOf.throw, Except.mapError] at marshalled
  split at marshalled
  · exact absurd marshalled (early _ nofun)
  rename_i serial
  split at marshalled
  · exact absurd marshalled (early _ nofun)
  rename_i valid
  cases bodyWritten : (Writer.empty (ByteOrder.ofMarker endian)).writeBody
      ((Signature.parse m.signature).toOption.getD []) m.body with
  | error e =>
    simp only [bodyWritten] at marshalled
    exact absurd marshalled (early _ nofun)
  | ok body =>
  simp only [bodyWritten] at marshalled
  cases built : m.headerFields with
  | error e =>
    simp only [built] at marshalled
    exact absurd marshalled (early _ nofun)
  | ok fields =>
  simp only [built] at marshalled
  obtain ⟨c, single⟩ : ∃ c, endian.codes = [c] := by
    split at marshalled
    · rename_i c single
      exact ⟨c, single⟩
    · exact absurd marshalled (early _ nofun)
  simp only [single] at marshalled
  cases first : (Writer.empty (ByteOrder.ofMarker endian)).byte c with
  | error e =>
    simp only [first] at marshalled
    exact absurd marshalled (early _ nofun)
  | ok w₁ =>
  cases second : w₁.byte m.kind.code with
  | error e =>
    simp only [first, second] at marshalled
    exact absurd marshalled (early _ nofun)
  | ok w₂ =>
  cases third : w₂.byte m.flags with
  | error e =>
    simp only [first, second, third] at marshalled
    exact absurd marshalled (early _ nofun)
  | ok w₃ =>
  cases fourth : w₃.byte protocolVersion with
  | error e =>
    simp only [first, second, third, fourth] at marshalled
    exact absurd marshalled (early _ nofun)
  | ok w₄ =>
  cases fifth : w₄.word body.buf.size with
  | error e =>
    simp only [first, second, third, fourth, fifth] at marshalled
    exact absurd marshalled (early _ nofun)
  | ok w₅ =>
  cases sixth : w₅.word m.serial with
  | error e =>
    simp only [first, second, third, fourth, fifth, sixth] at marshalled
    exact absurd marshalled (early _ nofun)
  | ok w₆ =>
  cases header : w₆.write headerFieldsSig (.list fields) with
  | error e =>
    simp only [first, second, third, fourth, fifth, sixth, header] at marshalled
    exact absurd marshalled (early _ nofun)
  | ok header =>
  simp only [first, second, third, fourth, fifth, sixth, header] at marshalled
  exact ⟨_, ⟨c, body, fields, w₁, w₂, w₃, w₄, w₅, w₆, _, by simpa using serial, valid, bodyWritten, built, single,
    first, second, third, fourth, fifth, sixth, header, rfl⟩, marshalled.symm⟩

/-- What a successful `marshal` did: it built the frame it gives. -/
theorem marshal_ok {m : Message} {endian : Text} {frame : ByteArray} (marshalled : m.marshal endian = .ok frame) :
    m.Builds endian frame := by
  obtain ⟨built, builds, same⟩ := marshal_builds marshalled nofun
  split at same
  · cases same
  · cases same
    exact builds

/-- A frame built as `marshal` builds it is what `marshal` gives, unless it is past the size limit. -/
theorem marshal_of_builds {m : Message} {endian : Text} {frame : ByteArray} (built : m.Builds endian frame) :
    m.marshal endian = if frame.size > maxMessage then .error (.tooLong frame.size) else .ok frame := by
  obtain ⟨c, body, fields, w₁, w₂, w₃, w₄, w₅, w₆, header, serialSet, valid, bodyWritten, fielded, single, first,
    second, third, fourth, fifth, sixth, headerWritten, rfl⟩ := built
  unfold Message.marshal
  simp only [bind, Except.bind, pure, Except.pure, throw, throwThe, MonadExceptOf.throw, Except.mapError]
  rw [if_neg (by simpa using serialSet), valid]
  unfold Message.types at bodyWritten
  simp only [bodyWritten, fielded, single, first, second, third, fourth, fifth, sixth, headerWritten]

/-- The first twelve octets of a frame: the marker octet `c`, the kind, flags and version, then
the body's length `size` and the serial as 32-bit words. -/
def fixedOctets (m : Message) (order : ByteOrder) (c size : Nat) : List UInt8 :=
  [c.toUInt8, m.kind.code.toUInt8, m.flags.toNat.toUInt8, 1] ++ Word.octets order 4 size ++
    Word.octets order 4 m.serial.toNat

/-- The octets `marshal` puts before the body: the fixed part, the header field array `H` after
its length word, and padding to eight. -/
def frameHead (m : Message) (order : ByteOrder) (c : Nat) (H : List UInt8) (size : Nat) : List UInt8 :=
  m.fixedOctets order c size ++ (Word.octets order 4 H.length ++ H) ++ List.replicate (padding (16 + H.length) 8) 0

@[simp] theorem length_fixedOctets (m : Message) (order : ByteOrder) (c size : Nat) :
    (m.fixedOctets order c size).length = 12 := by
  simp [fixedOctets]

@[simp] theorem length_frameHead (m : Message) (order : ByteOrder) (c : Nat) (H : List UInt8) (size : Nat) :
    (m.frameHead order c H size).length = 16 + H.length + padding (16 + H.length) 8 := by
  simp [frameHead]
  omega

end Message

/-- The fixed part of a frame reads back as the kind, flags and serial it was written from. -/
theorem Frame.fixed_of_frameHead {f : Frame} {m : Message} {c : Nat} {H E : List UInt8}
    (layout : f.data.toList = m.frameHead f.order c H E.length ++ E) (flags : 0 ≤ m.flags ∧ m.flags ≤ 0xFF)
    (serial : 0 ≤ m.serial ∧ m.serial ≤ 0xFFFFFFFF) :
    f.octet 1 = m.kind.code ∧ ((f.octet 2 : Nat) : Int) = m.flags ∧
      ((Word.value f.order (f.octets 8 4) : Nat) : Int) = m.serial := by
  have kindSmall : m.kind.code < 256 := by cases m.kind <;> decide
  have flagsSmall : m.flags.toNat < 256 := by omega
  have serialOctets := Frame.octets_of_layout (f := f)
    (P := [c.toUInt8, m.kind.code.toUInt8, m.flags.toNat.toUInt8, 1] ++ Word.octets f.order 4 E.length)
    (E := Word.octets f.order 4 m.serial.toNat)
    (Q := (Word.octets f.order 4 H.length ++ H ++ List.replicate (padding (16 + H.length) 8) 0) ++ E)
    (by rw [layout, Message.frameHead, Message.fixedOctets]; simp)
  simp only [List.length_append, List.length_cons, List.length_nil, Word.length_octets, Nat.reduceAdd]
    at serialOctets
  refine ⟨?_, ?_, ?_⟩
  · simp [Frame.octet, ByteArray.get!_eq, layout, Message.frameHead, Message.fixedOctets,
      Utf8.toNat_toUInt8 kindSmall]
  · simp [Frame.octet, ByteArray.get!_eq, layout, Message.frameHead, Message.fixedOctets,
      Utf8.toNat_toUInt8 flagsSmall]
    omega
  · rw [serialOctets, Word.value_octets, Nat.mod_eq_of_lt (by omega)]
    omega

/-- The first sixteen octets of a frame give its length: the fixed part, the header field array
that the length word at offset twelve counts, padding to eight, and the body. -/
theorem frameLength_of_frameHead {data : ByteArray} {m : Message} {order : ByteOrder} {c : Nat} {H E R : List UInt8}
    (marker : ByteOrder.ofOctet? c = some order) (sizeSmall : E.length < 2 ^ 32) (countSmall : H.length < 2 ^ 32)
    (layout : data.toList = m.frameHead order c H E.length ++ E ++ R) :
    frameLength data = .ok (m.frameHead order c H E.length ++ E).length := by
  have short := (ByteOrder.ofOctet?_some marker).1
  have spelled : data.toList = [c.toUInt8, m.kind.code.toUInt8, m.flags.toNat.toUInt8, 1] ++
      Word.octets order 4 E.length ++ Word.octets order 4 m.serial.toNat ++ Word.octets order 4 H.length ++
      (H ++ List.replicate (padding (16 + H.length) 8) 0 ++ E ++ R) := by
    rw [layout]
    simp [Message.frameHead, Message.fixedOctets]
  have whole := Frame.size_of_layout (f := ⟨data, .little⟩) (P := []) (Q := []) (by simpa using spelled)
  have first := Frame.octet_of_layout (f := ⟨data, .little⟩) (P := []) (by simpa using spelled)
  have fourth := Frame.octet_of_layout (f := ⟨data, .little⟩) (P := [c.toUInt8, m.kind.code.toUInt8,
    m.flags.toNat.toUInt8]) (by simpa using spelled)
  have length := Frame.octets_of_layout (f := ⟨data, .little⟩) (P := [c.toUInt8, m.kind.code.toUInt8,
    m.flags.toNat.toUInt8, 1]) (by simpa using spelled)
  have count := Frame.octets_of_layout (f := ⟨data, .little⟩)
    (P := [c.toUInt8, m.kind.code.toUInt8, m.flags.toNat.toUInt8, 1] ++ Word.octets order 4 E.length ++
      Word.octets order 4 m.serial.toNat) (by simpa using spelled)
  simp only [List.length_nil, List.length_cons, List.length_append, Word.length_octets, Nat.reduceAdd,
    Nat.zero_add] at whole first fourth length count
  rw [Utf8.toNat_toUInt8 short] at first
  unfold frameLength
  simp only [show ¬ data.size < 16 by omega, if_false]
  have sizeWord : Word.value order (Word.octets order 4 E.length) = E.length := by
    rw [Word.value_octets, Nat.mod_eq_of_lt (by omega)]
  have countWord : Word.value order (Word.octets order 4 H.length) = H.length := by
    rw [Word.value_octets, Nat.mod_eq_of_lt (by omega)]
  rw [first, marker, fourth, length, count]
  simp [sizeWord, countWord, protocolVersion]

/-- A frame whose reads give, one after another, a message's kind, serial and flags, its written
header fields, its signature's types and its body in normal form, ending at `total`, holds that
message as it reads back. -/
theorem Frame.message_of_reads {f : Frame} {m : Message} {total headerEnd start : Nat} {types : List Sig}
    (kindOctet : f.octet 1 = m.kind.code) (flagsOctet : ((f.octet 2 : Nat) : Int) = m.flags)
    (serialWord : ((Word.value f.order (f.octets 8 4) : Nat) : Int) = m.serial) (serialSet : m.serial ≠ 0)
    (header : f.read 0 headerFieldsSig 12 = .ok (.list (m.writtenFields.map fun p => p.1.entry p.2), headerEnd))
    (aligned : f.align headerEnd 8 = .ok start) (parsed : Signature.parse m.signature = .ok types)
    (body : f.readBody start types = .ok (Sig.normalFields types m.body, total))
    (required : ∀ field ∈ m.kind.required, ∃ v, HeaderField.get m field = some v ∧ v.written = true) :
    f.message total = .ok m.readBack := by
  have types : m.types = types := by rw [Message.types, parsed]; rfl
  have final := Message.setFields_readBack m
  rw [types] at final
  have signature : (({ kind := m.kind, serial := m.serial, flags := m.flags } : Message).setFields m.writtenFields).signature =
      m.signature := by
    have same := congrArg Message.signature final
    exact same
  have present : (m.kind.required.find? fun field =>
      !(({ kind := m.kind, serial := m.serial, flags := m.flags } : Message).setFields m.writtenFields).has field) = none := by
    rw [List.find?_eq_none]
    intro field member
    obtain ⟨v, found, written⟩ := required field member
    simp [Message.has_setFields found written]
  have serialNonzero : (Word.value f.order (f.octets 8 4) == 0) = false := by
    rw [beq_eq_false_iff_ne]
    omega
  unfold Frame.message
  simp only [kindOctet, MessageKind.ofCode?_code, Except.pure_eq_ok, Except.ok_bind, serialNonzero,
    Bool.false_eq_true, if_false, header, serialWord, flagsOctet, Message.withFields_entries, aligned, signature,
    parsed, Except.mapError, body, bne_self_eq_false, present]
  rw [← final]
  simp only [signature]

/-- What `marshal` builds: the head of a frame and the body's octets `E`, in the byte order the
marker names, where the header field array reads back as the fields the message puts on the wire
and the body, read from the end of the head, as the message's values in normal form. -/
theorem Message.marshal_frame {m : Message} {endian : Text} {frame : ByteArray}
    (marker : endian = Text.ofString "l" ∨ endian = Text.ofString "B")
    (built : m.Builds endian frame)
    (shallow : ∀ pair ∈ m.types.zip m.body, pair.1.nesting pair.2 ≤ maxNesting) :
    ∃ c H E, frame.toList = m.frameHead (ByteOrder.ofMarker endian) c H E.length ++ E ∧
      ByteOrder.ofOctet? c = some (ByteOrder.ofMarker endian) ∧
      0 ≤ m.flags ∧ m.flags ≤ 0xFF ∧ 0 ≤ m.serial ∧ m.serial ≤ 0xFFFFFFFF ∧ m.serial ≠ 0 ∧
      H.length ≤ maxArray ∧ E.length ≤ 0xFFFFFFFF ∧ Signature.parse m.signature = .ok m.types ∧
      (⟨frame, ByteOrder.ofMarker endian⟩ : Frame).read 0 headerFieldsSig 12 =
        .ok (.list (m.writtenFields.map fun p => p.1.entry p.2), 16 + H.length) ∧
      (⟨frame, ByteOrder.ofMarker endian⟩ : Frame).readBody (16 + H.length + padding (16 + H.length) 8) m.types =
        .ok (Sig.normalFields m.types m.body, frame.size) := by
  obtain ⟨c, body, fields, w₁, w₂, w₃, w₄, w₅, w₆, header, serialSet, valid, bodyWritten, built, single, first,
    second, third, fourth, fifth, sixth, headerWritten, rfl⟩ := built
  obtain ⟨-, -, -, f₀, f₁, s₀, s₁, t₀, t₁, fixedOrder, fixed⟩ :=
    Writer.fixed_layout first second third fourth fifth sixth
  obtain ⟨types, parsed, same, checked⟩ := Signature.validate_ok valid
  have typesEq : m.types = types := by rw [Message.types, parsed]; rfl
  subst typesEq
  obtain ⟨rfl, fieldsChecked⟩ := headerFields_foldr m HeaderField.all built
  have fixedSize : w₆.buf.size = 12 := by rw [ByteArray.size_eq_length, fixed]; simp
  obtain ⟨H, appH, shortH, readsH⟩ := Writer.write_headerFields fieldsChecked headerWritten
  have head : arrayHead w₆.order w₆.buf.size 8 H.length = Word.octets (ByteOrder.ofMarker endian) 4 H.length := by
    rw [fixedSize, fixedOrder]
    simp [arrayHead, padding]
  rw [head] at appH readsH
  obtain ⟨E, appB, backB⟩ := Writer.writeBody_readsBack same (Signature.parse_ok parsed).2.2 checked
    bodyWritten
  have bodyOctets : body.buf.toList = E := by simpa [Writer.empty] using appB.2
  have bodySize : body.buf.size = E.length := by rw [ByteArray.size_eq_length, bodyOctets]
  have headerSize : header.buf.size = 16 + H.length := by
    rw [appH.size, fixedSize]
    simp
    omega
  have layout : ((header.align 8).buf ++ body.buf).toList =
      m.frameHead (ByteOrder.ofMarker endian) c H E.length ++ E := by
    rw [ByteArray.toList_append', Writer.toList_align, appH.2, fixed, bodyOctets, headerSize, bodySize, frameHead,
      fixedOctets]
    simp
  refine ⟨c, H, E, layout, ByteOrder.ofOctet?_marker marker single, f₀, f₁, t₀, t₁, serialSet, shortH,
    by omega, parsed, ?_, ?_⟩
  · have read := readsH (f := ⟨_, ByteOrder.ofMarker endian⟩)
      (P := m.fixedOctets (ByteOrder.ofMarker endian) c E.length)
      (Q := List.replicate (padding (16 + H.length) 8) 0 ++ E) fixedOrder.symm
      (by rw [layout, frameHead, List.append_assoc]) (by simp [fixedSize])
    simp only [length_fixedOctets, List.length_append, Word.length_octets] at read
    rwa [show 12 + (4 + H.length) = 16 + H.length by omega] at read
  · have read := backB (d := 0) (f := ⟨_, ByteOrder.ofMarker endian⟩)
      (P := m.frameHead (ByteOrder.ofMarker endian) c H E.length) (Q := [])
      (fun pair member => by have := shallow pair member; omega) rfl (by rw [layout, List.append_nil])
      (by have := add_padding_mod (16 + H.length) (show 0 < 8 by omega); simp [Writer.empty]; omega)
    rw [← Frame.readBody_eq_readFields, length_frameHead] at read
    rw [ByteArray.size_eq_length, layout, List.length_append, length_frameHead]
    exact read

/-- A frame that `marshal` builds reads back, from the front of any octets that start with it, as
`Message.readBack` says, taking exactly the frame, under any size limit it keeps to. -/
theorem unmarshal_builds {m : Message} {endian : Text} {frame : ByteArray}
    (marker : endian = Text.ofString "l" ∨ endian = Text.ofString "B")
    (built : m.Builds endian frame)
    (required : ∀ field ∈ m.kind.required, ∃ v, HeaderField.get m field = some v ∧ v.written = true)
    (shallow : ∀ pair ∈ m.types.zip m.body, pair.1.nesting pair.2 ≤ maxNesting)
    (rest : ByteArray) (maxSize : Int) (room : (frame.size : Int) ≤ maxSize) :
    Message.unmarshal (frame ++ rest) maxSize = .ok (m.readBack, frame.size) := by
  obtain ⟨c, H, E, layout, ofOctet, f₀, f₁, s₀, s₁, serialSet, shortH, shortE, parsed, header, body⟩ :=
    Message.marshal_frame marker built shallow
  obtain ⟨kindOctet, flagsOctet, serialWord⟩ :=
    Frame.fixed_of_frameHead (f := ⟨frame, ByteOrder.ofMarker endian⟩) layout ⟨f₀, f₁⟩ ⟨s₀, s₁⟩
  have frameSize : frame.size = (m.frameHead (ByteOrder.ofMarker endian) c H E.length ++ E).length := by
    rw [ByteArray.size_eq_length, layout]
  have total : frameLength (frame ++ rest) = .ok frame.size := by
    rw [frameSize]
    exact frameLength_of_frameHead ofOctet (by omega) (by unfold maxArray at shortH; omega)
      (by rw [ByteArray.toList_append', layout])
  have aligned : (⟨frame, ByteOrder.ofMarker endian⟩ : Frame).align (16 + H.length) 8 =
      .ok (16 + H.length + padding (16 + H.length) 8) := by
    refine Frame.align_ok ?_
    change 16 + H.length + padding (16 + H.length) 8 ≤ frame.size
    rw [frameSize, List.length_append, Message.length_frameHead]
    omega
  have readFrame : Frame.message ⟨frame, ByteOrder.ofMarker endian⟩ frame.size = .ok m.readBack :=
    Frame.message_of_reads kindOctet flagsOctet serialWord serialSet header aligned parsed body required
  have extracted : (frame ++ rest).extract 0 frame.size = frame := by
    apply ByteArray.eq_of_toList
    rw [ByteArray.toList_extract, ByteArray.toList_append' _ rest, List.drop_zero, Nat.sub_zero,
      ByteArray.size_eq_length, List.take_left' rfl]
  have markerOctet : (frame ++ rest).get! 0 = c.toUInt8 := by
    rw [ByteArray.get!_eq, ByteArray.toList_append', layout]
    rfl
  have longer : ¬ (frame ++ rest).size < frame.size := by
    rw [ByteArray.size_append]
    omega
  unfold Message.unmarshal
  simp only [total, Except.ok_bind, markerOctet, (ByteOrder.ofOctet?_some ofOctet).2, extracted, gt_iff_lt,
    not_lt.mpr room, if_false, longer, readFrame, Except.mapError, Except.pure_eq_ok]

/-- A message that `marshal` writes reads back, from the front of any octets that start with the
frame, as `Message.readBack` says, taking exactly the frame. This holds of every message that
`marshal` accepts whose kind's required fields are on the wire and whose body is nested no more
deeply than a reader allows. -/
theorem unmarshal_marshal {m : Message} {endian : Text} {frame : ByteArray}
    (marker : endian = Text.ofString "l" ∨ endian = Text.ofString "B")
    (marshalled : m.marshal endian = .ok frame)
    (required : ∀ field ∈ m.kind.required, ∃ v, HeaderField.get m field = some v ∧ v.written = true)
    (shallow : ∀ pair ∈ m.types.zip m.body, pair.1.nesting pair.2 ≤ maxNesting)
    (rest : ByteArray) (maxSize : Int) (room : (frame.size : Int) ≤ maxSize) :
    Message.unmarshal (frame ++ rest) maxSize = .ok (m.readBack, frame.size) :=
  unmarshal_builds marker (Message.marshal_ok marshalled) required shallow rest maxSize room

/-- A call to member `M` of the object `/` whose body nests: an array of structs, each a byte and
a variant, given as lists, with the variant holding an `ay` list of integers. -/
def Message.nestedCall : Message :=
  { kind := .methodCall, serial := 2, path := some (Text.ofString "/"), member := some (Text.ofString "M"),
    signature := Text.ofString "a(yv)",
    body := [.list [.list [.int 7, .variant (.str (Text.ofString "ay")) (.list [.int 1, .int 2])]]] }

/-- The frame that marshalling writes for `Message.nestedCall`, little-endian. -/
def nestedCallFrame : ByteArray :=
  ⟨#[108, 1, 0, 1, 22, 0, 0, 0, 2, 0, 0, 0, 43, 0, 0, 0, 1, 1, 111, 0, 1, 0, 0, 0, 47, 0, 0, 0, 0, 0, 0, 0,
    3, 1, 115, 0, 1, 0, 0, 0, 77, 0, 0, 0, 0, 0, 0, 0, 8, 1, 103, 0, 5, 97, 40, 121, 118, 41, 0, 0, 0, 0, 0, 0,
    14, 0, 0, 0, 0, 0, 0, 0, 7, 2, 97, 121, 0, 0, 0, 0, 2, 0, 0, 0, 1, 2]⟩

set_option maxRecDepth 100000 in
/-- A method call to member `M` of the object `/`, marshalled little-endian, reads back as itself;
so does `Message.nestedCall`, in normal form: its structs as tuples and its `ay` list as octets. -/
theorem unmarshal_marshal_call :
    Message.unmarshal (⟨#[108, 1, 0, 1, 0, 0, 0, 0, 1, 0, 0, 0, 26, 0, 0, 0, 1, 1, 111, 0, 1, 0, 0, 0, 47, 0, 0, 0,
      0, 0, 0, 0, 3, 1, 115, 0, 1, 0, 0, 0, 77, 0, 0, 0, 0, 0, 0, 0]⟩ ++ ByteArray.empty) maxMessage =
      .ok (Message.readBack
        { kind := .methodCall, serial := 1, path := some (Text.ofString "/")
          member := some (Text.ofString "M") }, 48) ∧
    Message.unmarshal (nestedCallFrame ++ ByteArray.empty) maxMessage =
      .ok (Message.readBack Message.nestedCall, 86) ∧
    (Message.readBack Message.nestedCall).body =
      [.list [.tuple [.int 7, .variant (.str (Text.ofString "ay")) (.bytes ⟨#[1, 2]⟩)]]] := by
  have marshalled : Message.marshal
      { kind := .methodCall, serial := 1, path := some (Text.ofString "/")
        member := some (Text.ofString "M") } (Text.ofString "l") =
      .ok ⟨#[108, 1, 0, 1, 0, 0, 0, 0, 1, 0, 0, 0, 26, 0, 0, 0, 1, 1, 111, 0, 1, 0, 0, 0, 47, 0, 0, 0,
        0, 0, 0, 0, 3, 1, 115, 0, 1, 0, 0, 0, 77, 0, 0, 0, 0, 0, 0, 0]⟩ := by
    with_unfolding_all rfl
  have nestedMarshalled : Message.nestedCall.marshal (Text.ofString "l") = .ok nestedCallFrame := by
    unfold nestedCallFrame
    with_unfolding_all rfl
  have required : ∀ (m : Message), m.kind = .methodCall → m.path = some (Text.ofString "/") →
      m.member = some (Text.ofString "M") →
      ∀ field ∈ m.kind.required, ∃ v, HeaderField.get m field = some v ∧ v.written = true := by
    intro m kind path member field listed
    simp only [kind, MessageKind.required, List.mem_cons, List.not_mem_nil, or_false] at listed
    rcases listed with rfl | rfl
    · exact ⟨.text (Text.ofString "/"), by simp [HeaderField.get, path], rfl⟩
    · exact ⟨.text (Text.ofString "M"), by simp [HeaderField.get, member], rfl⟩
  refine ⟨?_, ?_, by with_unfolding_all rfl⟩
  · refine unmarshal_marshal (.inl rfl) marshalled (required _ rfl rfl rfl) ?_ ByteArray.empty maxMessage
      (by decide)
    intro pair member
    have none : Message.types
        { kind := .methodCall, serial := 1, path := some (Text.ofString "/")
          member := some (Text.ofString "M") } = [] := by decide
    simp [none] at member
  · refine unmarshal_marshal (.inl rfl) nestedMarshalled (required _ rfl rfl rfl) ?_ ByteArray.empty
      maxMessage (by decide)
    have types : Message.nestedCall.types = [.array (.struct [.basic .byte, .variant])] := by rfl
    have octets : Signature.parse (Text.ofString "ay") = .ok [.array (.basic .byte)] := by rfl
    intro pair member
    rw [types] at member
    simp only [Message.nestedCall, List.zip_cons_cons, List.zip_nil_right, List.mem_singleton] at member
    subst member
    simp [Sig.nesting, Sig.nestingEach, Sig.nestingFields, octets, maxNesting, Sig.maxDepth]

end MessageBus
