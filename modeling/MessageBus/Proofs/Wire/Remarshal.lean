import Mathlib
import MessageBus.Proofs.Wire.Decoded
import MessageBus.Proofs.Wire.Settle

namespace MessageBus

theorem HeaderField.get_set_cases (m : Message) (f g : HeaderField) (v : FieldValue) :
    get (set m f v) g = get m g ∨ get (set m f v) g = some v := by
  by_cases same : f = g
  · subst same
    cases f <;> cases v <;> simp [get, set]
  · exact .inl (get_set_of_ne m v same)

/-- Reading header entries into a message sets header fields only, each to a text or a number that
an entry carries. -/
theorem Message.withFields_ok {acc m : Message} {entries : List Value} (read : acc.withFields entries = .ok m) :
    (m.kind = acc.kind ∧ m.serial = acc.serial ∧ m.flags = acc.flags ∧ m.body = acc.body) ∧
      ∀ g t, HeaderField.get m g = some (.text t) →
        HeaderField.get acc g = some (.text t) ∨ t ∈ Value.textsEach entries := by
  induction entries generalizing acc with
  | nil =>
    rw [Message.withFields] at read
    cases read
    exact ⟨⟨rfl, rfl, rfl, rfl⟩, fun g t found => .inl found⟩
  | cons entry rest ih =>
    have skip : acc.withFields rest = .ok m →
        (m.kind = acc.kind ∧ m.serial = acc.serial ∧ m.flags = acc.flags ∧ m.body = acc.body) ∧
        ∀ g t, HeaderField.get m g = some (.text t) →
          HeaderField.get acc g = some (.text t) ∨ t ∈ Value.textsEach (entry :: rest) := fun later => by
      obtain ⟨frame, texts⟩ := ih later
      refine ⟨frame, fun g t found => (texts g t found).imp_right fun inside => ?_⟩
      rw [Value.textsEach]
      exact List.mem_append_right _ inside
    have setting : ∀ f v, (HeaderField.set acc f v).withFields rest = .ok m →
        (∀ t, v = .text t → t ∈ entry.texts) →
        (m.kind = acc.kind ∧ m.serial = acc.serial ∧ m.flags = acc.flags ∧ m.body = acc.body) ∧
        ∀ g t, HeaderField.get m g = some (.text t) →
          HeaderField.get acc g = some (.text t) ∨ t ∈ Value.textsEach (entry :: rest) := fun f v later carried => by
      obtain ⟨⟨kind, serial, flags, body⟩, texts⟩ := ih later
      obtain ⟨kind', serial', flags', body'⟩ := HeaderField.set_frame acc f v
      refine ⟨⟨kind.trans kind', serial.trans serial', flags.trans flags', body.trans body'⟩, fun g t found => ?_⟩
      rw [Value.textsEach, List.mem_append]
      rcases texts g t found with before | inside
      · rcases HeaderField.get_set_cases acc f g v with same | setTo
        · exact .inl (same ▸ before)
        · rw [setTo] at before
          cases before
          exact .inr (.inl (carried t rfl))
      · exact .inr (.inr inside)
    unfold Message.withFields at read
    split at read
    · rename_i code sig v
      split at read
      · exact skip read
      rename_i f _
      dsimp only at read
      split_ifs at read
      split at read
      · exact setting f _ read fun t same => by cases same; simp [Value.texts, Value.textsEach]
      · exact setting f _ read fun t same => by cases same
      · exact skip read
    · exact skip read

/-- A message as the reader gives it: a serial and flags that fit their words, the header fields its
kind requires, header texts that encode back, and a body decoded for the types of its signature. -/
structure Message.Decoded (m : Message) : Prop where
  numbered : 0 < m.serial ∧ m.serial ≤ 0xFFFFFFFF
  flagged : 0 ≤ m.flags ∧ m.flags ≤ 0xFF
  required : ∀ field ∈ m.kind.required, m.has field
  parsed : Signature.parse m.signature = .ok m.types
  body : List.Forall₂ (Sig.Decoded 0) m.types m.body
  headerTexts : ∀ g t, HeaderField.get m g = some (.text t) → t.Encodable

theorem HeaderField.get_withBody (m : Message) (body : List Value) (g : HeaderField) :
    get { m with body } g = get m g := by
  cases g <;> rfl

/-- A fresh message of a kind, serial and flags holds one text, the empty signature. -/
theorem HeaderField.text_of_fresh {kind : MessageKind} {serial flags : Int} {g : HeaderField} {t : Text}
    (found : get { kind, serial, flags } g = some (.text t)) : t = Text.empty := by
  cases g <;> simp [get] at found
  exact found.symm

/-- What a message read from a frame is made of: the kind its second octet names, a serial that is
not zero, header entries read into a fresh message of that kind, serial and flags, and a body read
for the types its signature parses to, with every field the kind requires present. -/
theorem Frame.message_ok {f : Frame} {total : Nat} {m : Message} (read : f.message total = .ok m) :
    ∃ kind entries at₁ m₀ start types body at₂,
      MessageKind.ofCode? (f.octet 1) = some kind ∧ Word.value f.order (f.octets 8 4) ≠ 0 ∧
      f.read 0 headerFieldsSig 12 = .ok (.list entries, at₁) ∧
      Message.withFields { kind, serial := Word.value f.order (f.octets 8 4), flags := f.octet 2 } entries =
        .ok m₀ ∧
      f.align at₁ 8 = .ok start ∧ Signature.parse m₀.signature = .ok types ∧
      f.readBody start types = .ok (body, at₂) ∧ (∀ field ∈ kind.required, m₀.has field) ∧
      m = { m₀ with body } := by
  unfold Frame.message at read
  simp only [bind, Except.bind, pure, Except.pure, throw, throwThe, MonadExceptOf.throw, Except.mapError] at read
  split at read
  swap
  · cases read
  rename_i kind kindOctet
  split at read
  · cases read
  rename_i serialSet
  split at read
  · cases read
  rename_i header headerRead
  obtain ⟨header, at₁⟩ := header
  obtain ⟨entries, rfl⟩ : ∃ entries, header = .list entries := by
    unfold headerFieldsSig at headerRead
    obtain ⟨-, -, -, -, -, -, -, -, -, ⟨notStruct, -⟩ | ⟨-, entries, -, rfl⟩⟩ := Frame.read_array_ok.mp headerRead
    · cases notStruct
    · exact ⟨entries, rfl⟩
  dsimp only at read
  split at read
  · cases read
  rename_i m₀ fieldsRead
  split at read
  · cases read
  rename_i start aligned
  split at read
  · cases read
  rename_i types parsedTypes
  have parsed : Signature.parse m₀.signature = .ok types := by
    split at parsedTypes
    · cases parsedTypes
    · rename_i parsed
      cases parsedTypes
      exact parsed
  split at read
  · cases read
  rename_i body bodyRead
  obtain ⟨body, at₂⟩ := body
  split at read
  · cases read
  split at read
  · cases read
  rename_i present
  cases read
  refine ⟨kind, entries, at₁, m₀, start, types, body, at₂, kindOctet, fun zero => serialSet (by simp [zero]),
    headerRead, fieldsRead, aligned, parsed, bodyRead, fun field required => ?_, rfl⟩
  have missing := List.find?_eq_none.mp present field required
  revert missing
  show ¬(!m₀.has field) = true → m₀.has field = true
  cases m₀.has field <;> simp

theorem Frame.message_decoded {f : Frame} {total : Nat} {m : Message} (read : f.message total = .ok m) :
    m.Decoded := by
  obtain ⟨kind, entries, at₁, m₀, start, types, body, at₂, -, serialSet, headerRead, fieldsRead, -, parsed,
    bodyRead, present, rfl⟩ := Frame.message_ok read
  obtain ⟨⟨kindSame, serialSame, flagsSame, -⟩, provenance⟩ := Message.withFields_ok fieldsRead
  have typesEq : Message.types { m₀ with body } = types := by
    rw [Message.types, show ({ m₀ with body } : Message).signature = m₀.signature from rfl, parsed]
    rfl
  refine ⟨?_, ?_, ?_, ?_, ?_, ?_⟩
  · have bound := f.value_octets_le f.order 8
    simp only [serialSame]
    omega
  · have small := (f.data.get! 2).toNat_lt
    simp only [flagsSame, Frame.octet]
    omega
  · intro field member
    have kindEq : m₀.kind = kind := kindSame
    exact present field (kindEq ▸ member)
  · rw [typesEq]
    exact parsed
  · rw [typesEq]
    rw [Frame.readBody_eq_readFields] at bodyRead
    exact Frame.readFields_decoded bodyRead
  · intro g t found
    rw [HeaderField.get_withBody] at found
    rcases provenance g t found with fresh | inside
    · rw [HeaderField.text_of_fresh fresh]
      exact Text.encodable_empty
    · exact (Frame.read_decoded headerRead).texts t (by rw [Value.texts]; exact inside)

theorem Message.unmarshal_decoded {data : ByteArray} {maxSize : Int} {m : Message} {n : Nat}
    (read : Message.unmarshal data maxSize = .ok (m, n)) : m.Decoded ∧ (data.get! 0 = 108 ∨ data.get! 0 = 66) := by
  cases lengthRead : frameLength data with
  | error e =>
    rw [Message.unmarshal_of_error lengthRead] at read
    cases read
  | ok total =>
    obtain ⟨-, marker, -⟩ := frameLength_ok lengthRead
    rw [Message.unmarshal_eq lengthRead] at read
    split at read
    · cases read
    split at read
    · cases read
    split at read
    · rename_i frameRead
      cases read
      exact ⟨Frame.message_decoded frameRead, marker⟩
    · cases read

/-- Every text of a decoded message, in its header or its body, encodes back. -/
theorem Message.Decoded.texts_encodable {m : Message} (decoded : m.Decoded) : ∀ t ∈ m.texts, t.Encodable := by
  intro t member
  rw [Message.texts, List.mem_append] at member
  rcases member with header | body
  · obtain ⟨g, -, found⟩ := List.mem_filterMap.mp header
    split at found
    · rename_i got
      cases found
      exact decoded.headerTexts g t got
    · cases found
  · exact (Sig.Decoded.fields decoded.body).1 t body

/-- A failure to write is an array too long once every text it could name encodes within a 32-bit
length and no integer stands in a `d` place. -/
theorem EncodeError.Explained.arrayTooLong_of_encodable {e : EncodeError} {texts : List Text} {doubles : List Int}
    (explained : e.Explained texts doubles) (encodable : ∀ t ∈ texts, t.Encodable) (none : doubles = []) :
    ∃ n, maxArray < n ∧ e = .arrayTooLong n := by
  rcases explained with long | ⟨t, member, ⟨fault, faulty, -⟩ | ⟨bytes, encodes, long, -⟩⟩ | ⟨-, n, member, -⟩
  · exact long
  · obtain ⟨bytes, encodes, -⟩ := encodable t member
    rw [encodes] at faulty
    cases faulty
  · obtain ⟨bytes', encodes', short⟩ := encodable t member
    rw [encodes] at encodes'
    cases encodes'
    omega
  · rw [none] at member
    cases member

theorem Text.isEmpty_eq_false {t : Text} (named : t ≠ Text.empty) : t.isEmpty = false :=
  Bool.eq_false_iff.mpr fun empty => named (Text.eq_empty_of_isEmpty empty)

theorem MessageKind.signature_not_required (kind : MessageKind) : HeaderField.signature ∉ kind.required := by
  cases kind <;> decide

/-- A decoded message whose set header texts are not empty, its signature apart, puts every field its
kind requires on the wire. -/
theorem Message.Decoded.required_written {m : Message} (decoded : m.Decoded)
    (named : ∀ g t, g ≠ .signature → HeaderField.get m g = some (.text t) → t ≠ Text.empty) :
    ∀ field ∈ m.kind.required, ∃ v, HeaderField.get m field = some v ∧ v.written = true := by
  intro field member
  obtain ⟨v, found⟩ := Option.isSome_iff_exists.mp (decoded.required field member)
  refine ⟨v, found, ?_⟩
  cases v with
  | text t =>
    have notSignature : field ≠ .signature := fun same => m.kind.signature_not_required (same ▸ member)
    simp [FieldValue.written, Text.isEmpty_eq_false (named field t notSignature found)]
  | number n => rfl

theorem Text.filter_of_named {o : Option Text} (named : ∀ t, o = some t → t ≠ Text.empty) :
    o.filter (fun t => !t.isEmpty) = o := by
  cases o with
  | none => rfl
  | some t => simp [Option.filter_some, Text.isEmpty_eq_false (named t rfl)]

/-- A message reads back as itself when its header texts other than the signature are not empty and
its body is in normal form. -/
theorem Message.readBack_of_named {m : Message}
    (named : ∀ g t, g ≠ .signature → HeaderField.get m g = some (.text t) → t ≠ Text.empty)
    (normal : Sig.normalFields m.types m.body = m.body) : m.readBack = m := by
  have field : ∀ g, g ≠ .signature → ∀ t, (HeaderField.get m g).map id = some (.text t) → t ≠ Text.empty :=
    fun g other t found => named g t other (by simpa using found)
  obtain ⟨kind, serial, flags, path, interface, member, errorName, replySerial, destination, sender, unixFds,
    signature, body⟩ := m
  simp only [Message.readBack, Message.mk.injEq, true_and]
  refine ⟨?_, ?_, ?_, ?_, ?_, ?_, normal⟩ <;> apply Text.filter_of_named <;> intro t same <;> subst same
  · exact field .path (by decide) t rfl
  · exact field .interface (by decide) t rfl
  · exact field .member (by decide) t rfl
  · exact field .errorName (by decide) t rfl
  · exact field .destination (by decide) t rfl
  · exact field .sender (by decide) t rfl

/-- A frame that is all there and within the limit is read whole, in the byte order its marker
names. -/
theorem Message.unmarshal_whole {d : ByteArray} {M : Int} (read : frameLength d = .ok d.size)
    (fits : (d.size : Int) ≤ M) :
    Message.unmarshal d M = ((Frame.message ⟨d, if d.get! 0 == 108 then .little else .big⟩ d.size).map
      fun m => (m, d.size)).mapError .protocol := by
  rw [Message.unmarshal_eq read, if_neg (by omega), if_neg (lt_irrefl _), ByteArray.extract_zero_size]
  cases Frame.message ⟨d, if d.get! 0 == 108 then .little else .big⟩ d.size <;> rfl

/-- A frame that `marshal` writes, read on its own, gives what the message reads back as: it fits
the default size limit, and its marker, fixed part, header fields and body read as they were
written. -/
theorem Message.unmarshal_of_marshal {m : Message} {endian : Text} {frame : ByteArray}
    (marker : endian = Text.ofString "l" ∨ endian = Text.ofString "B")
    (marshalled : m.marshal endian = .ok frame)
    (required : ∀ field ∈ m.kind.required, ∃ v, HeaderField.get m field = some v ∧ v.written = true)
    (shallow : ∀ pair ∈ m.types.zip m.body, pair.1.nesting pair.2 ≤ maxNesting) :
    Message.unmarshal frame = .ok (m.readBack, frame.size) := by
  obtain ⟨c, H, E, layout, ofOctet, f₀, f₁, s₀, s₁, serialSet, shortH, shortE, parsed, header, body⟩ :=
    Message.marshal_frame marker (Message.marshal_ok marshalled) shallow
  obtain ⟨kindOctet, flagsOctet, serialWord⟩ :=
    Frame.fixed_of_frameHead (f := ⟨frame, ByteOrder.ofMarker endian⟩) layout ⟨f₀, f₁⟩ ⟨s₀, s₁⟩
  have frameSize : frame.size = (m.frameHead (ByteOrder.ofMarker endian) c H E.length ++ E).length := by
    rw [ByteArray.size_eq_length, layout]
  have total : frameLength frame = .ok frame.size := by
    rw [frameSize]
    exact frameLength_of_frameHead ofOctet (by omega) (by unfold maxArray at shortH; omega)
      (by rw [layout, List.append_nil])
  have aligned : (⟨frame, ByteOrder.ofMarker endian⟩ : Frame).align (16 + H.length) 8 =
      .ok (16 + H.length + padding (16 + H.length) 8) := by
    refine Frame.align_ok ?_
    change 16 + H.length + padding (16 + H.length) 8 ≤ frame.size
    rw [frameSize, List.length_append, Message.length_frameHead]
    omega
  have readFrame : Frame.message ⟨frame, ByteOrder.ofMarker endian⟩ frame.size = .ok m.readBack :=
    Frame.message_of_reads kindOctet flagsOctet serialWord serialSet header aligned parsed body required
  have markerOctet : frame.get! 0 = c.toUInt8 := by
    rw [ByteArray.get!_eq, layout]
    rfl
  have fits : (frame.size : Int) ≤ maxMessage := by exact_mod_cast Message.marshal_size marshalled
  rw [Message.unmarshal_whole total fits, markerOctet, (ByteOrder.ofOctet?_some ofOctet).2, readFrame]
  rfl

/-- Marshalling undoes unmarshalling, on the messages that marshalling accepts: a message read from
the front of some octets, whose body checks against its signature, whose header fields check, and
whose header texts other than the signature are not empty, is marshalled with the marker its octets
started with into a frame that reads back as the same message, unless the frame, an array in it or
its body is too long to write. -/
theorem Message.marshal_unmarshalled {data : ByteArray} {maxSize : Int} {m : Message} {n : Nat}
    (read : Message.unmarshal data maxSize = .ok (m, n))
    (valid : Signature.validate (.str m.signature) m.body = .ok ())
    (fielded : ∃ fields, m.headerFields = .ok fields)
    (named : ∀ g t, g ≠ .signature → HeaderField.get m g = some (.text t) → t ≠ Text.empty) :
    (∃ frame, m.marshal (Text.ofOctets [data.get! 0]) = .ok frame ∧ Message.unmarshal frame = .ok (m, frame.size)) ∨
    (∃ k, maxMessage < k ∧ m.marshal (Text.ofOctets [data.get! 0]) = .error (.tooLong k)) ∨
    (∃ k, maxArray < k ∧ m.marshal (Text.ofOctets [data.get! 0]) = .error (.encode (.arrayTooLong k))) ∨
    ∃ body : Writer, (Writer.empty (ByteOrder.ofMarker (Text.ofOctets [data.get! 0]))).writeBody m.types m.body = .ok body ∧
      0xFFFFFFFF < body.buf.size ∧ m.marshal (Text.ofOctets [data.get! 0]) = .error (.encode (.outOfRange .uint32)) := by
  obtain ⟨decoded, marker⟩ := Message.unmarshal_decoded read
  obtain ⟨fields, built⟩ := fielded
  have endian : (Text.ofOctets [data.get! 0]) = Text.ofString "l" ∨ (Text.ofOctets [data.get! 0]) = Text.ofString "B" := by
    rcases marker with named | named <;> rw [named]
    · exact .inl rfl
    · exact .inr rfl
  obtain ⟨bodyTexts, doubles, normal, shallow⟩ := Sig.Decoded.fields decoded.body
  cases marshalled : m.marshal (Text.ofOctets [data.get! 0]) with
  | ok frame =>
    refine .inl ⟨frame, rfl, ?_⟩
    have back := Message.unmarshal_of_marshal endian marshalled (decoded.required_written named)
      (fun pair member => by have := shallow pair member; omega)
    rwa [Message.readBack_of_named named normal] at back
  | error e =>
    rcases Message.marshal_error decoded.numbered decoded.flagged built valid endian marshalled with
      ⟨fault, bodyFailed, rfl⟩ | ⟨body, bodyWritten, long, rfl⟩ | ⟨w, fault, headerFailed, rfl⟩ | ⟨k, long, rfl⟩
    · -- a decoded body fails to be written only at an array too long
      obtain ⟨ts, parsed, -, checked⟩ := Signature.validate_ok valid
      have typesEq : m.types = ts := by rw [decoded.parsed] at parsed; cases parsed; rfl
      rw [typesEq] at bodyFailed doubles
      obtain ⟨k, long, rfl⟩ := (Writer.writeBody_explained (Signature.parse_ok parsed).2.2 checked
        bodyFailed).arrayTooLong_of_encodable bodyTexts doubles
      exact .inr (.inr (.inl ⟨k, long, rfl⟩))
    · exact .inr (.inr (.inr ⟨body, bodyWritten, long, rfl⟩))
    · obtain ⟨k, long, rfl⟩ :=
        (Message.header_explained built headerFailed).arrayTooLong_of_encodable decoded.texts_encodable rfl
      exact .inr (.inr (.inl ⟨k, long, rfl⟩))
    · exact .inr (.inl ⟨k, long, rfl⟩)

/-- A call to a member of the object `/`. -/
def Message.callTo (member : Text) : Message :=
  { kind := .methodCall, serial := 1, path := some (Text.ofString "/"), member := some member }

/-- The frame that marshalling writes for a call to the member `M`, little-endian. -/
def memberCallFrame : ByteArray :=
  ⟨#[108, 1, 0, 1, 0, 0, 0, 0, 1, 0, 0, 0, 26, 0, 0, 0, 1, 1, 111, 0, 1, 0, 0, 0, 47, 0, 0, 0, 0, 0, 0, 0,
    3, 1, 115, 0, 1, 0, 0, 0, 77, 0, 0, 0, 0, 0, 0, 0]⟩

theorem Message.callTo_named : ∀ g t, g ≠ .signature →
    HeaderField.get (Message.callTo (Text.ofString "M")) g = some (.text t) → t ≠ Text.empty := by
  intro g t other found
  cases g <;> simp [HeaderField.get, Message.callTo] at found other <;> subst found <;> decide

set_option maxRecDepth 100000 in
/-- The frame of a call to the member `M` reads back as that call. -/
theorem Message.unmarshal_memberCallFrame :
    Message.unmarshal memberCallFrame = .ok (Message.callTo (Text.ofString "M"), 48) := by
  have marshalled : (Message.callTo (Text.ofString "M")).marshal (Text.ofString "l") = .ok memberCallFrame := by
    unfold memberCallFrame
    with_unfolding_all rfl
  have none : (Message.callTo (Text.ofString "M")).types = [] := by decide
  have back := Message.unmarshal_of_marshal (.inl rfl) marshalled ?required ?shallow
  · rwa [Message.readBack_of_named Message.callTo_named (by simp [Sig.normalFields, Message.callTo])] at back
  case required =>
    intro field member
    simp only [MessageKind.required, Message.callTo, List.mem_cons, List.not_mem_nil, or_false] at member
    rcases member with rfl | rfl <;> exact ⟨_, rfl, rfl⟩
  case shallow =>
    intro pair member
    simp [none] at member

set_option maxRecDepth 100000 in
theorem Message.marshal_unmarshalled_call :
    Message.unmarshal memberCallFrame = .ok (Message.callTo (Text.ofString "M"), 48) ∧
    Signature.validate (.str (Message.callTo (Text.ofString "M")).signature) (Message.callTo (Text.ofString "M")).body =
      .ok () ∧
    (∃ fields, (Message.callTo (Text.ofString "M")).headerFields = .ok fields) ∧
    (∀ g t, g ≠ .signature → HeaderField.get (Message.callTo (Text.ofString "M")) g = some (.text t) →
      t ≠ Text.empty) ∧
    ((∃ frame, (Message.callTo (Text.ofString "M")).marshal (Text.ofOctets [memberCallFrame.get! 0]) = .ok frame ∧
        Message.unmarshal frame = .ok (Message.callTo (Text.ofString "M"), frame.size)) ∨
      (∃ k, maxMessage < k ∧
        (Message.callTo (Text.ofString "M")).marshal (Text.ofOctets [memberCallFrame.get! 0]) = .error (.tooLong k)) ∨
      (∃ k, maxArray < k ∧ (Message.callTo (Text.ofString "M")).marshal (Text.ofOctets [memberCallFrame.get! 0]) =
        .error (.encode (.arrayTooLong k))) ∨
      ∃ body : Writer, (Writer.empty (ByteOrder.ofMarker (Text.ofOctets [memberCallFrame.get! 0]))).writeBody
          (Message.callTo (Text.ofString "M")).types (Message.callTo (Text.ofString "M")).body = .ok body ∧
        0xFFFFFFFF < body.buf.size ∧ (Message.callTo (Text.ofString "M")).marshal
          (Text.ofOctets [memberCallFrame.get! 0]) = .error (.encode (.outOfRange .uint32))) := by
  have valid : Signature.validate (.str (Message.callTo (Text.ofString "M")).signature)
      (Message.callTo (Text.ofString "M")).body = .ok () := by
    with_unfolding_all rfl
  have fielded : ∃ fields, (Message.callTo (Text.ofString "M")).headerFields = .ok fields :=
    ⟨_, by with_unfolding_all rfl⟩
  exact ⟨Message.unmarshal_memberCallFrame, valid, fielded, Message.callTo_named,
    Message.marshal_unmarshalled Message.unmarshal_memberCallFrame valid fielded Message.callTo_named⟩

/-- A header entry reads as its field holding a text: past the padding to eight, the field's code,
the letter of its type as a signature, and the text as that type is read. -/
theorem Frame.read_entry {f : Frame} {at_ start at₁ at' : Nat} {field : HeaderField} {t : Text}
    (aligned : f.align at_ 8 = .ok start) (code : f.basic .byte start = .ok (.int field.code, start + 1))
    (sig : f.signatureText (start + 1) = .ok ((Sig.basic field.basic).code, at₁))
    (text : f.basic field.basic at₁ = .ok (.str t, at')) :
    f.read 1 (.struct [.basic .byte, .variant]) at_ = .ok (HeaderField.entry field (.text t), at') := by
  have first : f.read 2 (.basic .byte) start = .ok (.int field.code, start + 1) := by
    rw [Frame.read_basic _ _ (by decide)]
    exact code
  have inner : f.read 3 (.basic field.basic) at₁ = .ok (.str t, at') := by
    rw [Frame.read_basic _ _ (by decide)]
    exact text
  have variant : f.read 2 .variant (start + 1) = .ok (.variant (.str (Sig.basic field.basic).code) (.str t), at') :=
    Frame.read_variant_ok.mpr ⟨by decide, _, _, _, _, sig, Signature.parse_basic_code field.basic, inner, rfl⟩
  exact Frame.read_struct_ok.mpr ⟨by decide, start, _, aligned,
    Frame.readFields_cons first (Frame.readFields_cons variant Frame.readFields_nil), rfl⟩

/-- Text or an object path reads as its length word and its octets. -/
theorem Frame.basic_text {f : Frame} {b : Basic} {at₁ at₂ at' : Nat} {t : Text} (isText : b = .string ∨ b = .objectPath)
    (length : f.word at₁ = .ok (t.length, at₂)) (body : f.textBody t.length at₂ = .ok (t, at')) :
    f.basic b at₁ = .ok (.str t, at') := by
  rcases isText with rfl | rfl <;> simp only [Frame.basic, bind, Except.bind, length, body] <;> rfl

theorem Frame.basic_signature {f : Frame} {at₁ at' : Nat} {t : Text} (body : f.signatureText at₁ = .ok (t, at')) :
    f.basic .signature at₁ = .ok (.str t, at') := by
  simp only [Frame.basic, bind, Except.bind, body]
  rfl

/-- A text header entry reads as its field holding that text: past the padding to eight, the
field's code, the letter of its type as a signature, and the text's length and octets. -/
theorem Frame.read_textEntry {f : Frame} {at_ start at₁ at₂ at' : Nat} {field : HeaderField} {t : Text}
    (isText : field.basic = .string ∨ field.basic = .objectPath) (aligned : f.align at_ 8 = .ok start)
    (code : f.basic .byte start = .ok (.int field.code, start + 1))
    (sig : f.signatureText (start + 1) = .ok ((Sig.basic field.basic).code, at₁))
    (length : f.word at₁ = .ok (t.length, at₂)) (body : f.textBody t.length at₂ = .ok (t, at')) :
    f.read 1 (.struct [.basic .byte, .variant]) at_ = .ok (HeaderField.entry field (.text t), at') :=
  Frame.read_entry aligned code sig (Frame.basic_text isText length body)

/-- A little-endian frame that is all there and within the default limit reads as the message in it. -/
theorem Message.unmarshal_little {d : ByteArray} {m : Message} (total : frameLength d = .ok d.size)
    (fits : (d.size : Int) ≤ maxMessage) (marker : (d.get! 0 == 108) = true)
    (read : Frame.message ⟨d, .little⟩ d.size = .ok m) :
    Message.unmarshal d = .ok (m, d.size) := by
  rw [Message.unmarshal_whole total fits, marker, if_pos rfl, read]
  rfl

/-- A little-endian call to `/` whose member header field holds empty text: the path entry, then,
after padding to eight, the member entry. -/
def emptyMemberFrame : ByteArray :=
  ⟨#[108, 1, 0, 1, 0, 0, 0, 0, 1, 0, 0, 0, 25, 0, 0, 0, 1, 1, 111, 0, 1, 0, 0, 0, 47, 0, 0, 0, 0, 0, 0, 0,
    3, 1, 115, 0, 0, 0, 0, 0, 0, 0, 0, 0, 0, 0, 0, 0]⟩

/-- What marshalling writes for the same call: the path entry alone. -/
def pathOnlyFrame : ByteArray :=
  ⟨#[108, 1, 0, 1, 0, 0, 0, 0, 1, 0, 0, 0, 10, 0, 0, 0, 1, 1, 111, 0, 1, 0, 0, 0, 47, 0, 0, 0, 0, 0, 0, 0]⟩

set_option maxRecDepth 100000 in
/-- A call whose member is empty text is read from a frame, but marshalling leaves the empty member
out, and the frame it writes is refused for want of a member. -/
theorem Message.remarshal_drops_emptyMember :
    Message.unmarshal emptyMemberFrame = .ok (Message.callTo Text.empty, 48) ∧
      (Message.callTo Text.empty).marshal (Text.ofString "l") = .ok pathOnlyFrame ∧
      Message.unmarshal pathOnlyFrame = .error (.protocol (.missingField .methodCall .member)) := by
  have emptyRead : Message.unmarshal emptyMemberFrame = .ok (Message.callTo Text.empty, 48) := by
    have total : frameLength emptyMemberFrame = .ok emptyMemberFrame.size := by with_unfolding_all rfl
    have marker : (emptyMemberFrame.get! 0 == 108) = true := by with_unfolding_all rfl
    have path : (⟨emptyMemberFrame, .little⟩ : Frame).read 1 (.struct [.basic .byte, .variant]) 16 =
        .ok (HeaderField.entry .path (.text (Text.ofString "/")), 26) :=
      Frame.read_textEntry (.inr rfl) (by with_unfolding_all rfl) (by with_unfolding_all rfl)
        (Frame.signatureText_ascii (by decide) (by with_unfolding_all rfl) (by with_unfolding_all rfl)
          (by with_unfolding_all rfl) (by with_unfolding_all decide))
        (by with_unfolding_all rfl)
        (Frame.textBody_ascii (by decide) (by with_unfolding_all rfl) (by with_unfolding_all rfl)
          (by with_unfolding_all decide))
    have member : (⟨emptyMemberFrame, .little⟩ : Frame).read 1 (.struct [.basic .byte, .variant]) 26 =
        .ok (HeaderField.entry .member (.text Text.empty), 41) :=
      Frame.read_textEntry (.inl rfl) (by with_unfolding_all rfl) (by with_unfolding_all rfl)
        (Frame.signatureText_ascii (by decide) (by with_unfolding_all rfl) (by with_unfolding_all rfl)
          (by with_unfolding_all rfl) (by with_unfolding_all decide))
        (by with_unfolding_all rfl)
        (Frame.textBody_ascii (by decide) (by with_unfolding_all rfl) (by with_unfolding_all rfl)
          (by with_unfolding_all decide))
    have header : (⟨emptyMemberFrame, .little⟩ : Frame).read 0 headerFieldsSig 12 =
        .ok (.list [HeaderField.entry .path (.text (Text.ofString "/")), HeaderField.entry .member (.text Text.empty)], 41) :=
      Frame.read_array_ok.mpr ⟨by decide, 25, 16, 16, by with_unfolding_all rfl, by decide, by with_unfolding_all rfl,
        by with_unfolding_all decide, rfl, .inr ⟨(fun same => by cases same), _,
          Frame.readItems_cons (by decide) path
            (Frame.readItems_cons (by decide) member (Frame.readItems_of_after (by decide))), rfl⟩⟩
    refine Message.unmarshal_little total (by with_unfolding_all decide) marker ?_
    unfold Frame.message
    simp only [bind, Except.bind, pure, Except.pure, throw, throwThe, MonadExceptOf.throw, header]
    with_unfolding_all rfl
  have pathOnlyRead : Message.unmarshal pathOnlyFrame = .error (.protocol (.missingField .methodCall .member)) := by
    have total : frameLength pathOnlyFrame = .ok pathOnlyFrame.size := by with_unfolding_all rfl
    have marker : (pathOnlyFrame.get! 0 == 108) = true := by with_unfolding_all rfl
    have path : (⟨pathOnlyFrame, .little⟩ : Frame).read 1 (.struct [.basic .byte, .variant]) 16 =
        .ok (HeaderField.entry .path (.text (Text.ofString "/")), 26) :=
      Frame.read_textEntry (.inr rfl) (by with_unfolding_all rfl) (by with_unfolding_all rfl)
        (Frame.signatureText_ascii (by decide) (by with_unfolding_all rfl) (by with_unfolding_all rfl)
          (by with_unfolding_all rfl) (by with_unfolding_all decide))
        (by with_unfolding_all rfl)
        (Frame.textBody_ascii (by decide) (by with_unfolding_all rfl) (by with_unfolding_all rfl)
          (by with_unfolding_all decide))
    have header : (⟨pathOnlyFrame, .little⟩ : Frame).read 0 headerFieldsSig 12 =
        .ok (.list [HeaderField.entry .path (.text (Text.ofString "/"))], 26) :=
      Frame.read_array_ok.mpr ⟨by decide, 10, 16, 16, by with_unfolding_all rfl, by decide, by with_unfolding_all rfl,
        by with_unfolding_all decide, rfl, .inr ⟨(fun same => by cases same), _,
          Frame.readItems_cons (by decide) path (Frame.readItems_of_after (by decide)), rfl⟩⟩
    rw [Message.unmarshal_whole total (by with_unfolding_all decide), marker, if_pos rfl]
    unfold Frame.message
    simp only [bind, Except.bind, pure, Except.pure, throw, throwThe, MonadExceptOf.throw, Except.mapError, header]
    with_unfolding_all rfl
  exact ⟨emptyRead, by with_unfolding_all rfl, pathOnlyRead⟩

/-- A call to the member `M` whose path header field holds `bad`, which is no object path. -/
def Message.badPathCall : Message :=
  { Message.callTo (Text.ofString "M") with path := some (Text.ofString "bad") }

/-- The little-endian frame of `Message.badPathCall`: the path entry, then the member entry. -/
def badPathFrame : ByteArray :=
  ⟨#[108, 1, 0, 1, 0, 0, 0, 0, 1, 0, 0, 0, 26, 0, 0, 0, 1, 1, 111, 0, 3, 0, 0, 0, 98, 97, 100, 0, 0, 0, 0, 0,
    3, 1, 115, 0, 1, 0, 0, 0, 77, 0, 0, 0, 0, 0, 0, 0]⟩

set_option maxRecDepth 100000 in
/-- Reading does not hold object paths well formed: a call whose path is `bad` is read from a frame,
its header fields do not check, and marshalling it with the frame's marker refuses that path. -/
theorem Message.remarshal_refuses_badPath :
    Message.unmarshal badPathFrame = .ok (Message.badPathCall, 48) ∧
      Message.badPathCall.headerFields = .error (.badObjectPath (Text.ofString "bad")) ∧
      Message.badPathCall.marshal (Text.ofOctets [badPathFrame.get! 0]) =
        .error (.headerField (.badObjectPath (Text.ofString "bad"))) := by
  have path : (⟨badPathFrame, .little⟩ : Frame).read 1 (.struct [.basic .byte, .variant]) 16 =
      .ok (HeaderField.entry .path (.text (Text.ofString "bad")), 28) :=
    Frame.read_textEntry (.inr rfl) (by with_unfolding_all rfl) (by with_unfolding_all rfl)
      (Frame.signatureText_ascii (by decide) (by with_unfolding_all rfl) (by with_unfolding_all rfl)
        (by with_unfolding_all rfl) (by with_unfolding_all decide))
      (by with_unfolding_all rfl)
      (Frame.textBody_ascii (by decide) (by with_unfolding_all rfl) (by with_unfolding_all rfl)
        (by with_unfolding_all decide))
  have member : (⟨badPathFrame, .little⟩ : Frame).read 1 (.struct [.basic .byte, .variant]) 28 =
      .ok (HeaderField.entry .member (.text (Text.ofString "M")), 42) :=
    Frame.read_textEntry (.inl rfl) (by with_unfolding_all rfl) (by with_unfolding_all rfl)
      (Frame.signatureText_ascii (by decide) (by with_unfolding_all rfl) (by with_unfolding_all rfl)
        (by with_unfolding_all rfl) (by with_unfolding_all decide))
      (by with_unfolding_all rfl)
      (Frame.textBody_ascii (by decide) (by with_unfolding_all rfl) (by with_unfolding_all rfl)
        (by with_unfolding_all decide))
  have header : (⟨badPathFrame, .little⟩ : Frame).read 0 headerFieldsSig 12 =
      .ok (.list (Message.badPathCall.writtenFields.map fun p => p.1.entry p.2), 42) :=
    Frame.read_array_ok.mpr ⟨by decide, 26, 16, 16, by with_unfolding_all rfl, by decide, by with_unfolding_all rfl,
      by with_unfolding_all decide, rfl, .inr ⟨(fun same => by cases same), _,
        Frame.readItems_cons (by decide) path
          (Frame.readItems_cons (by decide) member (Frame.readItems_of_after (by decide))), rfl⟩⟩
  have read : Frame.message ⟨badPathFrame, .little⟩ 48 = .ok Message.badPathCall.readBack :=
    Frame.message_of_reads (by with_unfolding_all rfl) (by with_unfolding_all rfl) (by with_unfolding_all rfl)
      (by decide) header (by with_unfolding_all rfl) (by with_unfolding_all rfl) (by with_unfolding_all rfl)
      (by
        intro field member
        simp only [MessageKind.required, Message.badPathCall, Message.callTo, List.mem_cons, List.not_mem_nil,
          or_false] at member
        rcases member with rfl | rfl <;> exact ⟨_, rfl, rfl⟩)
  have named : Message.badPathCall.readBack = Message.badPathCall :=
    Message.readBack_of_named (by
      intro g t other found
      cases g <;> simp [HeaderField.get, Message.badPathCall, Message.callTo] at found other <;> subst found <;> decide)
      (by simp [Sig.normalFields, Message.badPathCall, Message.callTo])
  rw [named] at read
  exact ⟨Message.unmarshal_little (by with_unfolding_all rfl) (by with_unfolding_all decide) (by with_unfolding_all rfl)
    read, by with_unfolding_all rfl, by with_unfolding_all rfl⟩

/-- A call to the member `M` of `/` with one string argument, `a`, NUL, `b`. -/
def Message.nulArgumentCall : Message :=
  { Message.callTo (Text.ofString "M") with
    signature := Text.ofString "s"
    body := [.str ⟨[97, 0, 98], by decide⟩] }

/-- The little-endian frame of `Message.nulArgumentCall`: the path, member and signature entries,
then the string. -/
def nulArgumentFrame : ByteArray :=
  ⟨#[108, 1, 0, 1, 8, 0, 0, 0, 1, 0, 0, 0, 39, 0, 0, 0, 1, 1, 111, 0, 1, 0, 0, 0, 47, 0, 0, 0, 0, 0, 0, 0,
    3, 1, 115, 0, 1, 0, 0, 0, 77, 0, 0, 0, 0, 0, 0, 0, 8, 1, 103, 0, 1, 115, 0, 0, 3, 0, 0, 0, 97, 0, 98, 0]⟩

set_option maxRecDepth 100000 in
/-- Reading does not hold strings free of NUL: a call whose string argument holds one is read from
a frame, its body does not check against its signature, and marshalling it with the frame's marker
refuses that argument. -/
theorem Message.remarshal_refuses_nulArgument :
    Message.unmarshal nulArgumentFrame = .ok (Message.nulArgumentCall, 64) ∧
      Signature.validate (.str Message.nulArgumentCall.signature) Message.nulArgumentCall.body =
        .error (.argument 0 .nulInText) ∧
      Message.nulArgumentCall.marshal (Text.ofOctets [nulArgumentFrame.get! 0]) =
        .error (.arguments (.argument 0 .nulInText)) := by
  have path : (⟨nulArgumentFrame, .little⟩ : Frame).read 1 (.struct [.basic .byte, .variant]) 16 =
      .ok (HeaderField.entry .path (.text (Text.ofString "/")), 26) :=
    Frame.read_textEntry (.inr rfl) (by with_unfolding_all rfl) (by with_unfolding_all rfl)
      (Frame.signatureText_ascii (by decide) (by with_unfolding_all rfl) (by with_unfolding_all rfl)
        (by with_unfolding_all rfl) (by with_unfolding_all decide))
      (by with_unfolding_all rfl)
      (Frame.textBody_ascii (by decide) (by with_unfolding_all rfl) (by with_unfolding_all rfl)
        (by with_unfolding_all decide))
  have member : (⟨nulArgumentFrame, .little⟩ : Frame).read 1 (.struct [.basic .byte, .variant]) 26 =
      .ok (HeaderField.entry .member (.text (Text.ofString "M")), 42) :=
    Frame.read_textEntry (.inl rfl) (by with_unfolding_all rfl) (by with_unfolding_all rfl)
      (Frame.signatureText_ascii (by decide) (by with_unfolding_all rfl) (by with_unfolding_all rfl)
        (by with_unfolding_all rfl) (by with_unfolding_all decide))
      (by with_unfolding_all rfl)
      (Frame.textBody_ascii (by decide) (by with_unfolding_all rfl) (by with_unfolding_all rfl)
        (by with_unfolding_all decide))
  have signature : (⟨nulArgumentFrame, .little⟩ : Frame).read 1 (.struct [.basic .byte, .variant]) 42 =
      .ok (HeaderField.entry .signature (.text (Text.ofString "s")), 55) :=
    Frame.read_entry (by with_unfolding_all rfl) (by with_unfolding_all rfl)
      (Frame.signatureText_ascii (by decide) (by with_unfolding_all rfl) (by with_unfolding_all rfl)
        (by with_unfolding_all rfl) (by with_unfolding_all decide))
      (Frame.basic_signature (Frame.signatureText_ascii (by decide) (by with_unfolding_all rfl)
        (by with_unfolding_all rfl) (by with_unfolding_all rfl) (by with_unfolding_all decide)))
  have header : (⟨nulArgumentFrame, .little⟩ : Frame).read 0 headerFieldsSig 12 =
      .ok (.list (Message.nulArgumentCall.writtenFields.map fun p => p.1.entry p.2), 55) :=
    Frame.read_array_ok.mpr ⟨by decide, 39, 16, 16, by with_unfolding_all rfl, by decide, by with_unfolding_all rfl,
      by with_unfolding_all decide, rfl, .inr ⟨(fun same => by cases same), _,
        Frame.readItems_cons (by decide) path (Frame.readItems_cons (by decide) member
          (Frame.readItems_cons (by decide) signature (Frame.readItems_of_after (by decide)))), rfl⟩⟩
  have normal : Sig.normalFields [.basic .string] Message.nulArgumentCall.body = Message.nulArgumentCall.body := by
    simp [Sig.normalFields, Sig.normal, Message.nulArgumentCall]
  have argument : (⟨nulArgumentFrame, .little⟩ : Frame).read 0 (.basic .string) 56 =
      .ok (.str ⟨[97, 0, 98], by decide⟩, 64) := by
    rw [Frame.read_basic _ _ (by decide)]
    exact Frame.basic_text (.inl rfl) (by with_unfolding_all rfl)
      (Frame.textBody_ascii (by decide) (by with_unfolding_all rfl) (by with_unfolding_all rfl)
        (by with_unfolding_all decide))
  have body : (⟨nulArgumentFrame, .little⟩ : Frame).readBody 56 [.basic .string] =
      .ok (Sig.normalFields [.basic .string] Message.nulArgumentCall.body, 64) := by
    rw [normal, Frame.readBody_eq_readFields]
    exact Frame.readFields_cons argument Frame.readFields_nil
  have read : Frame.message ⟨nulArgumentFrame, .little⟩ 64 = .ok Message.nulArgumentCall.readBack :=
    Frame.message_of_reads (by with_unfolding_all rfl) (by with_unfolding_all rfl) (by with_unfolding_all rfl)
      (by decide) header (by with_unfolding_all rfl) (Signature.parse_basic_code .string) body
      (by
        intro field member
        simp only [MessageKind.required, Message.nulArgumentCall, Message.callTo, List.mem_cons, List.not_mem_nil,
          or_false] at member
        rcases member with rfl | rfl <;> exact ⟨_, rfl, rfl⟩)
  have named : Message.nulArgumentCall.readBack = Message.nulArgumentCall :=
    Message.readBack_of_named (by
      intro g t other found
      cases g <;> simp [HeaderField.get, Message.nulArgumentCall, Message.callTo] at found other <;> subst found <;>
        decide)
      (by rw [show Message.nulArgumentCall.types = [.basic .string] by with_unfolding_all rfl, normal])
  rw [named] at read
  exact ⟨Message.unmarshal_little (by with_unfolding_all rfl) (by with_unfolding_all decide) (by with_unfolding_all rfl)
    read, by with_unfolding_all rfl, by with_unfolding_all rfl⟩

/-- Octets as many as an array may hold. -/
def fullArray : ByteArray := ⟨Array.replicate maxArray 0⟩

/-- A call to the member `M` of `/` with two `ay` arguments, each as long as an array may be. -/
def Message.longCall : Message :=
  { Message.callTo (Text.ofString "M") with
    signature := Text.ofString "ayay"
    body := [.bytes fullArray, .bytes fullArray] }

theorem Message.types_longCall : Message.longCall.types = [.array (.basic .byte), .array (.basic .byte)] := by
  with_unfolding_all rfl

/-- The body of `Message.longCall` alone is longer than a message may be: two length words and the
two arrays, the second right after the first, whose length is a multiple of four. -/
theorem Message.writeBody_longCall : ∃ body : Writer,
    (Writer.empty .little).writeBody Message.longCall.types Message.longCall.body = .ok body ∧
      body.buf.size = maxMessage + 8 := by
  have full : fullArray.size = maxArray := Array.size_replicate ..
  have fullLength : fullArray.toList.length = maxArray := by rw [← ByteArray.size_eq_length, full]
  obtain ⟨w, first, firstApp⟩ := Writer.write_bytes (Writer.empty .little) full.le
  obtain ⟨body, second, secondApp⟩ := Writer.write_bytes w full.le
  refine ⟨body, ?_, ?_⟩
  · rw [Message.types_longCall, show Message.longCall.body = [.bytes fullArray, .bytes fullArray] from rfl,
      Writer.writeBody, first]
    dsimp only
    rw [Writer.writeBody, second]
    rfl
  · rw [secondApp.size, firstApp.size]
    simp [length_arrayHead, full, fullLength, Writer.empty, padding, maxArray, maxMessage]

theorem Message.validate_longCall :
    Signature.validate (.str Message.longCall.signature) Message.longCall.body = .ok () := by
  have checked : (Sig.array (.basic .byte)).check (.bytes fullArray) = .ok () := by
    rw [Sig.check]
  unfold Signature.validate
  simp only [Signature.ofValue, show Signature.parse Message.longCall.signature = .ok Message.longCall.types by
    rw [Message.types_longCall]; with_unfolding_all rfl, Message.types_longCall,
    show Message.longCall.body = [.bytes fullArray, .bytes fullArray] from rfl]
  -- `decide` would unfold the arrays; the lengths are compared by rewriting
  rw [if_neg (by simp only [List.length_cons, List.length_nil, bne_self_eq_false, Bool.false_eq_true,
    not_false_eq_true])]
  rw [Signature.validate.go, checked]
  dsimp only
  rw [Signature.validate.go, checked]
  rfl

theorem Message.headerFields_longCall : Message.longCall.headerFields = .ok
    [.tuple [.int 1, .variant (.str (Text.ofString "o")) (.str (Text.ofString "/"))],
      .tuple [.int 3, .variant (.str (Text.ofString "s")) (.str (Text.ofString "M"))],
      .tuple [.int 8, .variant (.str (Text.ofString "g")) (.str (Text.ofString "ayay"))]] := by
  have sameFields : Message.longCall.headerFields =
      { Message.callTo (Text.ofString "M") with signature := Text.ofString "ayay" }.headerFields := rfl
  rw [sameFields]
  with_unfolding_all rfl

theorem Message.readBack_longCall : Message.longCall.readBack = Message.longCall := by
  refine Message.readBack_of_named ?_ ?_
  · intro g t other found
    cases g <;> simp [HeaderField.get, Message.longCall, Message.callTo] at found other <;> subst found <;> decide
  · rw [Message.types_longCall, show Message.longCall.body = [.bytes fullArray, .bytes fullArray] from rfl]
    simp only [Sig.normalFields, Sig.normal_bytes]

set_option maxRecDepth 100000 in
/-- Reading takes frames longer than a message may be, under a limit that lets them through:
`Message.longCall` is read from the frame marshalling builds for it, its body checks and its header
fields check, but marshalling it again with the frame's marker refuses it as too long. -/
theorem Message.remarshal_refuses_longCall :
    ∃ frame : ByteArray, maxMessage < frame.size ∧
      Message.unmarshal frame frame.size = .ok (Message.longCall, frame.size) ∧
      Signature.validate (.str Message.longCall.signature) Message.longCall.body = .ok () ∧
      (∃ fields, Message.longCall.headerFields = .ok fields) ∧
      Message.longCall.marshal (Text.ofOctets [frame.get! 0]) = .error (.tooLong frame.size) := by
  obtain ⟨body, bodyWritten, bodySize⟩ := Message.writeBody_longCall
  obtain ⟨header, builds⟩ : ∃ header : Writer,
      Message.longCall.Builds (Text.ofString "l") ((header.align 8).buf ++ body.buf) :=
    ⟨_, 108, body, _, _, _, _, _, _, _, _, (by decide : (1 : Int) ≠ 0), Message.validate_longCall, bodyWritten,
      Message.headerFields_longCall, rfl, by with_unfolding_all rfl, by with_unfolding_all rfl,
      by with_unfolding_all rfl, by with_unfolding_all rfl, by rw [bodySize]; with_unfolding_all rfl,
      by with_unfolding_all rfl, by with_unfolding_all rfl, by rfl⟩
  have shallow : ∀ pair ∈ Message.longCall.types.zip Message.longCall.body, pair.1.nesting pair.2 ≤ maxNesting := by
    rw [Message.types_longCall, show Message.longCall.body = [.bytes fullArray, .bytes fullArray] from rfl]
    intro pair member
    simp only [List.zip_cons_cons, List.zip_nil_right, List.mem_cons, List.not_mem_nil, or_false] at member
    rcases member with rfl | rfl <;> rw [Sig.nesting_bytes] <;> exact Nat.zero_le _
  have required : ∀ field ∈ Message.longCall.kind.required,
      ∃ v, HeaderField.get Message.longCall field = some v ∧ v.written = true := by
    intro field member
    change field ∈ [HeaderField.path, .member] at member
    simp only [List.mem_cons, List.not_mem_nil, or_false] at member
    rcases member with rfl | rfl <;> exact ⟨_, rfl, rfl⟩
  have read := unmarshal_builds (.inl rfl) builds required shallow ByteArray.empty _ le_rfl
  rw [Message.readBack_longCall, ByteArray.append_empty] at read
  obtain ⟨c, H, E, layout, ofOctet, -⟩ := Message.marshal_frame (.inl rfl) builds shallow
  have octet : c.toUInt8 = 108 := by
    obtain ⟨-, little⟩ := ByteOrder.ofOctet?_some ofOctet
    by_contra other
    rw [if_neg (by simpa using other)] at little
    cases little
  have marker : ((header.align 8).buf ++ body.buf).get! 0 = 108 := by
    rw [← octet, ByteArray.get!_eq, layout]
    rfl
  have long : ((header.align 8).buf ++ body.buf).size > maxMessage := by
    rw [ByteArray.size_append, bodySize]
    omega
  refine ⟨_, long, read, Message.validate_longCall, ⟨_, Message.headerFields_longCall⟩, ?_⟩
  rw [marker, show Text.ofOctets [108] = Text.ofString "l" from rfl, Message.marshal_of_builds builds, if_pos long]

end MessageBus
