import Mathlib
import MessageBus.Proofs.Check
import MessageBus.Proofs.Wire.Basic

namespace MessageBus

theorem Text.eq_empty_of_isEmpty {t : Text} (empty : t.isEmpty = true) : t = Text.empty := by
  obtain ⟨codes⟩ := t
  cases codes with
  | nil => rfl
  | cons c rest => simp [Text.isEmpty] at empty

/-- Whether a header field's value is put on the wire: empty text is left out. -/
def FieldValue.written : FieldValue → Bool
  | .text t => !t.isEmpty
  | .number _ => true

namespace HeaderField

/-- A header field as a frame carries it: its code, and its value tagged with its signature. -/
def entry (f : HeaderField) (v : FieldValue) : Value :=
  .tuple [.int f.code, .variant (.str (Sig.basic f.basic).code) v.toValue]

/-- A header field of a message with its value, when the field is put on the wire. -/
def written? (m : Message) (f : HeaderField) : Option (HeaderField × FieldValue) :=
  ((get m f).filter FieldValue.written).map (f, ·)

theorem ofCode?_code (f : HeaderField) : ofCode? f.code = some f := by
  cases f <;> rfl

theorem get_set_of_ne (m : Message) (v : FieldValue) {f g : HeaderField} (other : f ≠ g) :
    get (set m f v) g = get m g := by
  -- setting a field touches that field's slot alone; `other` rules out the diagonal
  cases f <;> cases g <;> simp at other <;> cases v <;> rfl

/-- Setting a field to a value that field can hold gets it back. -/
theorem get_set_of_get (m : Message) {m' : Message} {f : HeaderField} {v : FieldValue} (holds : get m' f = some v) :
    get (set m f v) f = some v := by
  cases f <;> cases v <;> simp_all [get, set]

/-- Setting header fields leaves the kind, serial, flags and body alone. -/
theorem set_frame (m : Message) (f : HeaderField) (v : FieldValue) :
    (set m f v).kind = m.kind ∧ (set m f v).serial = m.serial ∧ (set m f v).flags = m.flags ∧
      (set m f v).body = m.body := by
  cases f <;> cases v <;> exact ⟨rfl, rfl, rfl, rfl⟩

theorem code_le (f : HeaderField) : f.code ≤ 9 := by
  cases f <;> decide

theorem basic_ne_double (f : HeaderField) : f.basic ≠ .double := by
  cases f <;> decide

/-- The struct type of a header field entry: a code octet and a variant. -/
theorem check_entry {f : HeaderField} {v : FieldValue} (checked : (Sig.basic f.basic).check v.toValue = .ok ()) :
    (Sig.struct [.basic .byte, .variant]).check (f.entry v) = .ok () := by
  have small := f.code_le
  rw [entry, Sig.check, if_neg (by simp), Sig.checkZip_ok rfl]
  intro pair member
  simp only [List.zip_cons_cons, List.zip_nil_right, List.mem_cons, List.not_mem_nil, or_false] at member
  rcases member with rfl | rfl
  · unfold Sig.check
    simp [Basic.range?]
    omega
  · unfold Sig.check
    simp [Signature.ofValue, Signature.parse_basic_code, checked]

theorem normal_entry (f : HeaderField) (v : FieldValue) :
    (Sig.struct [.basic .byte, .variant]).normal (f.entry v) = f.entry v := by
  rw [entry, Sig.normal_struct _ (.inr rfl)]
  simp [Sig.normalFields, Sig.normal_basic _ (by decide : Basic.byte ≠ .double),
    Sig.normal_variant (Signature.parse_basic_code f.basic), Sig.normal_basic _ f.basic_ne_double]

theorem nesting_entry (f : HeaderField) (v : FieldValue) :
    (Sig.struct [.basic .byte, .variant]).nesting (f.entry v) = 2 := by
  rw [entry, Sig.nesting_struct _ (.inr rfl)]
  simp [Sig.nestingFields, Sig.nesting_variant (Signature.parse_basic_code f.basic)]

theorem texts_entry (f : HeaderField) (v : FieldValue) :
    (f.entry v).texts = (Sig.basic f.basic).code :: v.toValue.texts := by
  simp [entry, Value.texts, Value.textsEach]

theorem mem_all (f : HeaderField) : f ∈ HeaderField.all := by
  cases f <;> decide

end HeaderField

theorem MessageKind.ofCode?_code (kind : MessageKind) : MessageKind.ofCode? kind.code = some kind := by
  cases kind <;> rfl

namespace Message

/-- The header fields of a message that are put on the wire, in code order. -/
def writtenFields (m : Message) : List (HeaderField × FieldValue) := HeaderField.all.filterMap (HeaderField.written? m)

/-- Header fields one after another, each replacing what was there. -/
def setFields (m : Message) (ws : List (HeaderField × FieldValue)) : Message :=
  ws.foldl (fun acc p => HeaderField.set acc p.1 p.2) m

theorem setFields_frame (m : Message) (ws : List (HeaderField × FieldValue)) :
    (m.setFields ws).kind = m.kind ∧ (m.setFields ws).serial = m.serial ∧ (m.setFields ws).flags = m.flags ∧
      (m.setFields ws).body = m.body := by
  induction ws generalizing m with
  | nil => exact ⟨rfl, rfl, rfl, rfl⟩
  | cons p rest ih =>
    obtain ⟨kind, serial, flags, body⟩ := HeaderField.set_frame m p.1 p.2
    obtain ⟨kind', serial', flags', body'⟩ := ih (HeaderField.set m p.1 p.2)
    exact ⟨kind'.trans kind, serial'.trans serial, flags'.trans flags, body'.trans body⟩

/-- After the fields a message puts on the wire are set, in any order of distinct fields, each of
them holds the message's value and every other field is as it was. -/
theorem get_setFields (m acc : Message) {L : List HeaderField} (distinct : L.Nodup) (g : HeaderField) :
    HeaderField.get (acc.setFields (L.filterMap (HeaderField.written? m))) g =
      if g ∈ L then ((HeaderField.get m g).filter FieldValue.written).or (HeaderField.get acc g)
      else HeaderField.get acc g := by
  induction L generalizing acc with
  | nil => simp [setFields]
  | cons f rest ih =>
    obtain ⟨outside, distinct⟩ := List.nodup_cons.mp distinct
    have step : acc.setFields ((f :: rest).filterMap (HeaderField.written? m)) =
        (match HeaderField.written? m f with
          | some p => HeaderField.set acc p.1 p.2
          | none => acc).setFields (rest.filterMap (HeaderField.written? m)) := by
      rw [List.filterMap_cons]
      cases HeaderField.written? m f <;> rfl
    rw [step, ih _ distinct]
    by_cases same : g = f
    · subst same
      simp only [outside, if_false, List.mem_cons_self, if_true]
      unfold HeaderField.written?
      cases found : (HeaderField.get m g).filter FieldValue.written with
      | none => rfl
      | some v =>
        have holds : HeaderField.get m g = some v := Option.eq_some_of_filter_eq_some found
        simp [HeaderField.get_set_of_get acc holds]
    · have kept : HeaderField.get (match HeaderField.written? m f with
          | some p => HeaderField.set acc p.1 p.2
          | none => acc) g = HeaderField.get acc g := by
        unfold HeaderField.written?
        cases (HeaderField.get m f).filter FieldValue.written with
        | none => rfl
        | some v => exact HeaderField.get_set_of_ne acc v (Ne.symm same)
      by_cases inside : g ∈ rest
      · simp [inside, kept]
      · simp [inside, kept, same]

/-- One entry of the header field array: the field's value checks, and it goes before the rest. -/
theorem headerFields_entry_ok {f : HeaderField} {v : Value} {rest : Except CheckError (List Value)}
    {fields : List Value} (built : headerFields.entry f v rest = .ok fields) :
    (Sig.basic f.basic).check v = .ok () ∧ ∃ vs, rest = .ok vs ∧
      fields = .tuple [.int f.code, .variant (.str (Sig.basic f.basic).code) v] :: vs := by
  unfold headerFields.entry at built
  split at built
  · cases built
  rename_i checked
  cases found : rest with
  | error e => rw [found] at built; cases built
  | ok vs =>
    rw [found] at built
    cases built
    exact ⟨checked, vs, rfl, rfl⟩

theorem headerFields_foldr (m : Message) (L : List HeaderField) {fields : List Value}
    (built : L.foldr (fun f rest =>
      match HeaderField.get m f with
      | none => rest
      | some (.text t) => if t.isEmpty then rest else headerFields.entry f (.str t) rest
      | some (.number n) => headerFields.entry f (.int n) rest) (.ok []) = .ok fields) :
    fields = (L.filterMap (HeaderField.written? m)).map (fun p => p.1.entry p.2) ∧
      ∀ p ∈ L.filterMap (HeaderField.written? m), (Sig.basic p.1.basic).check p.2.toValue = .ok () := by
  induction L generalizing fields with
  | nil =>
    simp only [List.foldr_nil, Except.ok.injEq] at built
    simp [built]
  | cons f rest ih =>
    simp only [List.foldr_cons] at built
    cases found : HeaderField.get m f with
    | none =>
      simp only [found] at built
      have skip : HeaderField.written? m f = none := by simp [HeaderField.written?, found]
      rw [List.filterMap_cons_none skip]
      exact ih built
    | some v =>
      cases v with
      | text t =>
        simp only [found] at built
        by_cases empty : t.isEmpty
        · simp only [empty, if_true] at built
          have skip : HeaderField.written? m f = none := by
            simp [HeaderField.written?, found, FieldValue.written, empty]
          rw [List.filterMap_cons_none skip]
          exact ih built
        · simp only [empty, Bool.false_eq_true, if_false] at built
          obtain ⟨checked, vs, later, rfl⟩ := headerFields_entry_ok built
          have keep : HeaderField.written? m f = some (f, .text t) := by
            simp [HeaderField.written?, found, FieldValue.written, empty]
          obtain ⟨rfl, laterChecked⟩ := ih later
          rw [List.filterMap_cons_some keep]
          refine ⟨rfl, fun p member => ?_⟩
          rcases List.mem_cons.mp member with rfl | member
          · exact checked
          · exact laterChecked p member
      | number n =>
        simp only [found] at built
        obtain ⟨checked, vs, later, rfl⟩ := headerFields_entry_ok built
        have keep : HeaderField.written? m f = some (f, .number n) := by
          simp [HeaderField.written?, found, FieldValue.written]
        obtain ⟨rfl, laterChecked⟩ := ih later
        rw [List.filterMap_cons_some keep]
        refine ⟨rfl, fun p member => ?_⟩
        rcases List.mem_cons.mp member with rfl | member
        · exact checked
        · exact laterChecked p member

/-- Reading the entries of written header fields sets those fields, in order. -/
theorem withFields_entries (acc : Message) (ws : List (HeaderField × FieldValue)) :
    acc.withFields (ws.map fun p => p.1.entry p.2) = .ok (acc.setFields ws) := by
  induction ws generalizing acc with
  | nil => rfl
  | cons p rest ih =>
    obtain ⟨f, v⟩ := p
    cases v <;> simp [withFields, HeaderField.entry, FieldValue.toValue, HeaderField.ofCode?_code] <;> exact ih _

/-- The complete types of a message's signature, none when it does not read. -/
def types (m : Message) : List Sig := (Signature.parse m.signature).toOption.getD []

/-- The message that reading back a written message gives: a text header field set to empty text
is not written and reads back as absent, and the body reads back in the normal form of the
signature's types. -/
def readBack (m : Message) : Message :=
  { kind := m.kind, serial := m.serial, flags := m.flags
    path := m.path.filter (fun t => !t.isEmpty)
    interface := m.interface.filter (fun t => !t.isEmpty)
    member := m.member.filter (fun t => !t.isEmpty)
    errorName := m.errorName.filter (fun t => !t.isEmpty)
    replySerial := m.replySerial
    destination := m.destination.filter (fun t => !t.isEmpty)
    sender := m.sender.filter (fun t => !t.isEmpty)
    unixFds := m.unixFds
    signature := m.signature
    body := Sig.normalFields m.types m.body }

/-- Messages that agree on their kind, serial, flags and body and on every header field are
equal. -/
theorem ext_get {a b : Message} (kind : a.kind = b.kind) (serial : a.serial = b.serial) (flags : a.flags = b.flags)
    (body : a.body = b.body) (fields : ∀ f, HeaderField.get a f = HeaderField.get b f) : a = b := by
  have text : Function.Injective (Option.map FieldValue.text) :=
    Option.map_injective fun _ _ same => FieldValue.text.inj same
  have number : Function.Injective (Option.map FieldValue.number) :=
    Option.map_injective fun _ _ same => FieldValue.number.inj same
  cases a
  cases b
  simp only [Message.mk.injEq]
  exact ⟨kind, serial, flags, text (fields .path), text (fields .interface), text (fields .member),
    text (fields .errorName), number (fields .replySerial), text (fields .destination), text (fields .sender),
    number (fields .unixFds), by simpa [HeaderField.get] using fields .signature, body⟩

theorem get_readBack (m : Message) (k : MessageKind) (s fl : Int) (g : HeaderField) :
    HeaderField.get m.readBack g =
      ((HeaderField.get m g).filter FieldValue.written).or (HeaderField.get { kind := k, serial := s, flags := fl } g) := by
  cases g
  case replySerial =>
    cases found : m.replySerial <;> simp [HeaderField.get, readBack, found, Option.filter_some, FieldValue.written]
  case unixFds =>
    cases found : m.unixFds <;> simp [HeaderField.get, readBack, found, Option.filter_some, FieldValue.written]
  case signature =>
    cases empty : m.signature.isEmpty
    · simp [HeaderField.get, readBack, Option.filter_some, FieldValue.written, empty]
    · simp [HeaderField.get, readBack, Option.filter_some, FieldValue.written, Text.eq_empty_of_isEmpty empty,
        Text.isEmpty, Text.empty]
  all_goals simp [HeaderField.get, readBack, Option.filter_map, Function.comp_def, FieldValue.written]

/-- The header fields a message puts on the wire, set in a fresh message of its kind, serial and
flags, and its body in normal form make up what the message reads back as. -/
theorem setFields_readBack (m : Message) :
    { ({ kind := m.kind, serial := m.serial, flags := m.flags } : Message).setFields m.writtenFields with
      body := Sig.normalFields m.types m.body } = m.readBack := by
  obtain ⟨kind, serial, flags, -⟩ :=
    setFields_frame ({ kind := m.kind, serial := m.serial, flags := m.flags } : Message) m.writtenFields
  refine ext_get kind serial flags rfl fun g => ?_
  have everyField : g ∈ HeaderField.all := by cases g <;> decide
  have fields := get_setFields m { kind := m.kind, serial := m.serial, flags := m.flags } (L := HeaderField.all)
    (by decide) g
  rw [if_pos everyField] at fields
  rw [get_readBack m m.kind m.serial m.flags g]
  exact fields

/-- A message's written header fields, set in a fresh message of its kind, serial and flags, hold
every field the message puts on the wire. -/
theorem has_setFields {m : Message} {field : HeaderField} {v : FieldValue}
    (found : HeaderField.get m field = some v) (written : v.written = true) :
    (({ kind := m.kind, serial := m.serial, flags := m.flags } : Message).setFields m.writtenFields).has field := by
  unfold Message.has
  rw [writtenFields, get_setFields m _ (by decide) field, if_pos (HeaderField.mem_all field), found]
  simp [Option.filter_some, written]

/-- Every text a message carries: its text header fields and the texts in its body. -/
def texts (m : Message) : List Text :=
  HeaderField.all.filterMap (fun f => match HeaderField.get m f with
    | some (.text t) => some t
    | _ => none) ++ Value.textsEach m.body

theorem texts_of_written {m : Message} {p : HeaderField × FieldValue} (member : p ∈ m.writtenFields) :
    ∀ t ∈ p.2.toValue.texts, t ∈ m.texts := by
  intro t text
  obtain ⟨f, -, found⟩ := List.mem_filterMap.mp member
  unfold HeaderField.written? at found
  obtain ⟨v, filtered, rfl⟩ := Option.map_eq_some_iff.mp found
  have holds := Option.eq_some_of_filter_eq_some filtered
  cases v with
  | number n => simp [FieldValue.toValue, Value.texts] at text
  | text u =>
    simp only [FieldValue.toValue, Value.texts, List.mem_singleton] at text
    subst text
    exact List.mem_append_left _ (List.mem_filterMap.mpr ⟨f, HeaderField.mem_all f, by simp [holds]⟩)

end Message

end MessageBus
