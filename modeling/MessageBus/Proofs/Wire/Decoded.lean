import Mathlib
import MessageBus.Proofs.Wire.Failures

namespace MessageBus

/-- Text as the reader gives it: scalar values whose UTF-8 encoding has a length that a 32-bit word
counts. -/
def Text.Encodable (t : Text) : Prop :=
  ∃ bytes, Utf8.encode t = .ok bytes ∧ bytes.length ≤ 0xFFFFFFFF

theorem Text.encodable_of_decode {bytes : List UInt8} {t : Text} (decodes : Utf8.decode bytes = .ok t)
    (short : bytes.length ≤ 0xFFFFFFFF) : t.Encodable :=
  ⟨bytes, Utf8.encode_of_decode decodes, short⟩

theorem Text.encodable_empty : Text.empty.Encodable := ⟨[], rfl, by decide⟩

namespace Word

theorem valueLE_lt (bytes : List UInt8) : valueLE bytes < 256 ^ bytes.length := by
  induction bytes with
  | nil => simp [valueLE]
  | cons b rest ih =>
    rw [valueLE, List.length_cons, pow_succ]
    have := b.toNat_lt
    omega

theorem value_lt (order : ByteOrder) (bytes : List UInt8) : value order bytes < 256 ^ bytes.length := by
  cases order
  · exact valueLE_lt bytes
  · have bound := valueLE_lt bytes.reverse
    rw [List.length_reverse] at bound
    exact bound

end Word

namespace Frame

variable {f : Frame} {d at_ at' : Nat} {v : Value}

theorem length_octets_le (f : Frame) (at_ count : Nat) : (f.octets at_ count).length ≤ count := by
  simp [octets, ByteArray.slice]

theorem value_octets_le (f : Frame) (order : ByteOrder) (a : Nat) : Word.value order (f.octets a 4) ≤ 0xFFFFFFFF := by
  have bound := Word.value_lt order (f.octets a 4)
  have short : 256 ^ (f.octets a 4).length ≤ 256 ^ 4 := Nat.pow_le_pow_right (by decide) (f.length_octets_le a 4)
  omega

/-- A number of `width` octets is read at the next multiple of its width, from the octets there. -/
theorem unsigned_inv {width n : Nat} (read : f.unsigned width at_ = .ok (n, at')) :
    ∃ start, f.align at_ width = .ok start ∧ n = Word.value f.order (f.octets start width) ∧
      at' = start + width := by
  unfold unsigned at read
  obtain ⟨start, aligned, read⟩ := Except.bind_eq_ok.mp read
  obtain ⟨_, -, found⟩ := Except.bind_eq_ok.mp read
  cases found
  exact ⟨start, aligned, rfl, rfl⟩

/-- Text is decoded from the octets its length counts, and reading stops after the NUL. -/
theorem textBody_inv {length : Nat} {t : Text} (read : f.textBody length at_ = .ok (t, at')) :
    Utf8.decode (f.octets at_ length) = .ok t ∧ at' = at_ + length + 1 := by
  unfold textBody at read
  simp only [bind, Except.bind] at read
  split at read
  · cases read
  split at read
  · cases read
  split at read
  · cases read
  rename_i decodes
  cases read
  exact ⟨decodes, rfl⟩

/-- A signature is the text that its one-octet length counts. -/
theorem signatureText_inv {t : Text} (read : f.signatureText at_ = .ok (t, at')) :
    f.textBody (f.octet at_) (at_ + 1) = .ok (t, at') := by
  unfold signatureText at read
  obtain ⟨_, -, read⟩ := Except.bind_eq_ok.mp read
  exact read

theorem word_lt {n : Nat} (read : f.word at_ = .ok (n, at')) : n ≤ 0xFFFFFFFF := by
  obtain ⟨start, -, rfl, -⟩ := unsigned_inv read
  exact f.value_octets_le _ _

theorem textBody_encodable {length : Nat} {t : Text} (read : f.textBody length at_ = .ok (t, at'))
    (short : length ≤ 0xFFFFFFFF) : t.Encodable :=
  Text.encodable_of_decode (textBody_inv read).1 (le_trans (f.length_octets_le _ _) short)

theorem signatureText_encodable {t : Text} (read : f.signatureText at_ = .ok (t, at')) : t.Encodable := by
  have small : f.octet at_ ≤ 0xFFFFFFFF := by
    have := (f.data.get! at_).toNat_lt
    unfold octet
    omega
  exact textBody_encodable (signatureText_inv read) small

/-- What reading a basic type gives: a binary64 number for a `d`, and otherwise a value whose
texts (a text for the three kinds of text, none for a truth value or an integer) encode back. -/
theorem basic_shape {b : Basic} (read : f.basic b at_ = .ok (v, at')) :
    (b = .double ∧ ∃ x, v = .float x) ∨ (b ≠ .double ∧ ∀ t ∈ v.texts, t.Encodable) := by
  unfold basic at read
  cases b
  case string | objectPath =>
    obtain ⟨⟨length, at₁⟩, wordRead, read⟩ := Except.bind_eq_ok.mp read
    obtain ⟨⟨text, at₂⟩, textRead, found⟩ := Except.bind_eq_ok.mp read
    cases found
    refine .inr ⟨by decide, fun t member => ?_⟩
    simp only [Value.texts, List.mem_singleton] at member
    exact member ▸ textBody_encodable textRead (word_lt wordRead)
  case signature =>
    obtain ⟨⟨text, at₁⟩, textRead, found⟩ := Except.bind_eq_ok.mp read
    cases found
    refine .inr ⟨by decide, fun t member => ?_⟩
    simp only [Value.texts, List.mem_singleton] at member
    exact member ▸ signatureText_encodable textRead
  case boolean =>
    obtain ⟨⟨n, at₁⟩, -, read⟩ := Except.bind_eq_ok.mp read
    dsimp only at read
    split_ifs at read <;> cases read
    all_goals exact .inr ⟨by decide, by simp [Value.texts]⟩
  case double =>
    obtain ⟨⟨n, at₁⟩, -, found⟩ := Except.bind_eq_ok.mp read
    cases found
    exact .inl ⟨rfl, _, rfl⟩
  all_goals
    obtain ⟨⟨n, at₁⟩, -, found⟩ := Except.bind_eq_ok.mp read
    cases found
    exact .inr ⟨by decide, by simp [Value.texts]⟩

theorem shallow_of_read {s : Sig} {r : Value × Nat} (read : f.read d s at_ = .ok r) : d ≤ maxNesting := by
  by_contra deep
  unfold Frame.read at read
  rw [dif_pos (by omega)] at read
  cases read

theorem read_variant_ok : f.read d .variant at_ = .ok (v, at') ↔ d ≤ maxNesting ∧
    ∃ sig at₁ t inner, f.signatureText at_ = .ok (sig, at₁) ∧ Signature.parse sig = .ok [t] ∧
      f.read (d + 1) t at₁ = .ok (inner, at') ∧ v = .variant (.str sig) inner := by
  by_cases deep : maxNesting < d
  · rw [read, dif_pos deep]
    simp only [reduceCtorEq, false_iff, not_and]
    omega
  rw [read, dif_neg deep]
  constructor
  · intro h
    obtain ⟨⟨sig, at₁⟩, sigRead, h⟩ := Except.bind_eq_ok.mp h
    dsimp only at h
    split at h
    · cases h
    · rename_i t parsed
      obtain ⟨⟨inner, at₂⟩, innerRead, found⟩ := Except.bind_eq_ok.mp h
      cases found
      exact ⟨by omega, sig, at₁, t, inner, sigRead, parsed, innerRead, rfl⟩
    · cases h
  · rintro ⟨-, sig, at₁, t, inner, sigRead, parsed, innerRead, rfl⟩
    simp only [bind, Except.bind, sigRead, parsed, innerRead]
    rfl

theorem read_struct_ok {fields : List Sig} : f.read d (.struct fields) at_ = .ok (v, at') ↔ d ≤ maxNesting ∧
    ∃ start xs, f.align at_ 8 = .ok start ∧ f.readFields (d + 1) fields start = .ok (xs, at') ∧ v = .tuple xs := by
  by_cases deep : maxNesting < d
  · rw [read, dif_pos deep]
    simp only [reduceCtorEq, false_iff, not_and]
    omega
  rw [read, dif_neg deep]
  constructor
  · intro h
    obtain ⟨start, aligned, h⟩ := Except.bind_eq_ok.mp h
    obtain ⟨⟨xs, at₁⟩, fieldsRead, found⟩ := Except.bind_eq_ok.mp h
    cases found
    exact ⟨by omega, start, xs, aligned, fieldsRead, rfl⟩
  · rintro ⟨-, start, xs, aligned, fieldsRead, rfl⟩
    simp only [bind, Except.bind, aligned, fieldsRead]
    rfl

theorem read_array_ok {element : Sig} : f.read d (.array element) at_ = .ok (v, at') ↔ d ≤ maxNesting ∧
    ∃ length at₁ start, f.word at_ = .ok (length, at₁) ∧ length ≤ maxArray ∧
      f.align at₁ element.alignment = .ok start ∧ start + length ≤ f.data.size ∧ at' = start + length ∧
      (element = .basic .byte ∧ v = .bytes (f.data.extract start (start + length)) ∨
        element ≠ .basic .byte ∧
          ∃ xs, f.readItems (d + 1) element (start + length) (length + 1) start = .ok (xs, at') ∧ v = .list xs) := by
  by_cases deep : maxNesting < d
  · rw [read, dif_pos deep]
    simp only [reduceCtorEq, false_iff, not_and]
    omega
  rw [read, dif_neg deep]
  constructor
  · intro h
    obtain ⟨⟨length, at₁⟩, wordRead, h⟩ := Except.bind_eq_ok.mp h
    dsimp only at h
    split at h
    · cases h
    rename_i short
    obtain ⟨start, aligned, h⟩ := Except.bind_eq_ok.mp h
    obtain ⟨_, room, h⟩ := Except.bind_eq_ok.mp h
    have fits := room_of_need room
    split at h
    · cases h
      exact ⟨by omega, length, at₁, start, wordRead, by omega, aligned, fits, rfl, .inl ⟨rfl, rfl⟩⟩
    rename_i notByte
    obtain ⟨⟨xs, at₂⟩, itemsRead, h⟩ := Except.bind_eq_ok.mp h
    dsimp only at h
    split at h
    · cases h
    rename_i ended
    cases h
    have ended : at' = start + length := by simpa using ended
    exact ⟨by omega, length, at₁, start, wordRead, by omega, aligned, fits, ended, .inr ⟨notByte, xs, itemsRead, rfl⟩⟩
  · rintro ⟨-, length, at₁, start, wordRead, short, aligned, fits, rfl, ⟨rfl, rfl⟩ | ⟨notByte, xs, itemsRead, rfl⟩⟩
    · simp [wordRead, aligned, need_ok fits, show ¬ maxArray < length by omega]
    · simp only [bind, Except.bind, wordRead, aligned, need_ok fits, show ¬ length > maxArray by omega, if_false,
        itemsRead]
      simp

theorem read_dict_ok {key : Basic} {value : Sig} : f.read d (.dict key value) at_ = .ok (v, at') ↔
    d ≤ maxNesting ∧ ∃ length at₁ start entries, f.word at_ = .ok (length, at₁) ∧ length ≤ maxArray ∧
      f.align at₁ 8 = .ok start ∧ start + length ≤ f.data.size ∧ at' = start + length ∧
      f.readEntries (d + 1) key value (start + length) (length + 1) [] start = .ok (entries, at') ∧
      v = .dict entries := by
  by_cases deep : maxNesting < d
  · rw [read, dif_pos deep]
    simp only [reduceCtorEq, false_iff, not_and]
    omega
  rw [read, dif_neg deep]
  constructor
  · intro h
    obtain ⟨⟨length, at₁⟩, wordRead, h⟩ := Except.bind_eq_ok.mp h
    dsimp only at h
    split at h
    · cases h
    rename_i short
    obtain ⟨start, aligned, h⟩ := Except.bind_eq_ok.mp h
    obtain ⟨_, room, h⟩ := Except.bind_eq_ok.mp h
    have fits := room_of_need room
    obtain ⟨⟨entries, at₂⟩, entriesRead, h⟩ := Except.bind_eq_ok.mp h
    dsimp only at h
    split at h
    · cases h
    rename_i ended
    cases h
    have ended : at' = start + length := by simpa using ended
    exact ⟨by omega, length, at₁, start, entries, wordRead, by omega, aligned, fits, ended, entriesRead, rfl⟩
  · rintro ⟨-, length, at₁, start, entries, wordRead, short, aligned, fits, rfl, entriesRead, rfl⟩
    simp [wordRead, aligned, need_ok fits, show ¬ maxArray < length by omega, entriesRead]

theorem readItems_of_before {s : Sig} {stop fuel : Nat} {xs : List Value} (before : at_ < stop)
    (read : f.readItems d s stop (fuel + 1) at_ = .ok (xs, at')) :
    ∃ x at₁ rest, f.read d s at_ = .ok (x, at₁) ∧ f.readItems d s stop fuel at₁ = .ok (rest, at') ∧
      xs = x :: rest := by
  rw [readItems, if_pos before] at read
  obtain ⟨⟨x, at₁⟩, first, read⟩ := Except.bind_eq_ok.mp read
  obtain ⟨⟨rest, at₂⟩, later, found⟩ := Except.bind_eq_ok.mp read
  cases found
  exact ⟨x, at₁, rest, first, later, rfl⟩

theorem readItems_of_after {s : Sig} {stop fuel : Nat} (after : ¬at_ < stop) :
    f.readItems d s stop (fuel + 1) at_ = .ok ([], at_) := by
  rw [readItems, if_neg after]
  rfl

theorem readItems_zero (s : Sig) (stop : Nat) : f.readItems d s stop 0 at_ = .ok ([], at_) := by
  rw [readItems]
  rfl

theorem readEntries_of_before {key : Basic} {value : Sig} {stop fuel : Nat} {entries found : List (Value × Value)}
    (before : at_ < stop) (read : f.readEntries d key value stop (fuel + 1) entries at_ = .ok (found, at')) :
    ∃ start k at₁ x at₂, f.align at_ 8 = .ok start ∧ f.read d (.basic key) start = .ok (k, at₁) ∧
      f.read d value at₁ = .ok (x, at₂) ∧
      f.readEntries d key value stop fuel (Value.insertEntry entries k x) at₂ = .ok (found, at') := by
  rw [readEntries, if_pos before] at read
  obtain ⟨start, aligned, read⟩ := Except.bind_eq_ok.mp read
  obtain ⟨⟨k, at₁⟩, keyRead, read⟩ := Except.bind_eq_ok.mp read
  obtain ⟨⟨x, at₂⟩, valueRead, read⟩ := Except.bind_eq_ok.mp read
  exact ⟨start, k, at₁, x, at₂, aligned, keyRead, valueRead, read⟩

theorem readEntries_of_after {key : Basic} {value : Sig} {stop fuel : Nat} {entries : List (Value × Value)}
    (after : ¬at_ < stop) : f.readEntries d key value stop (fuel + 1) entries at_ = .ok (entries, at_) := by
  rw [readEntries, if_neg after]
  rfl

theorem readEntries_zero (key : Basic) (value : Sig) (stop : Nat) (entries : List (Value × Value)) :
    f.readEntries d key value stop 0 entries at_ = .ok (entries, at_) := by
  rw [readEntries]
  rfl

theorem readFields_nil : f.readFields d [] at_ = .ok ([], at_) := by
  rw [readFields]
  rfl

theorem readFields_of_cons {s : Sig} {rest : List Sig} {xs : List Value}
    (read : f.readFields d (s :: rest) at_ = .ok (xs, at')) :
    ∃ x at₁ ys, f.read d s at_ = .ok (x, at₁) ∧ f.readFields d rest at₁ = .ok (ys, at') ∧ xs = x :: ys := by
  rw [readFields] at read
  obtain ⟨⟨x, at₁⟩, first, read⟩ := Except.bind_eq_ok.mp read
  obtain ⟨⟨ys, at₂⟩, later, found⟩ := Except.bind_eq_ok.mp read
  cases found
  exact ⟨x, at₁, ys, first, later, rfl⟩

/-- ASCII text of `t.length` octets at `at_`, with its NUL, reads as itself. -/
theorem textBody_ascii {t : Text} (ascii : ∀ c ∈ t.codes, c < 128) (codes : f.octets at_ t.length = t.codes.map Nat.toUInt8)
    (nul : f.octet (at_ + t.length) = 0) (room : at_ + t.length + 1 ≤ f.data.size) :
    f.textBody t.length at_ = .ok (t, at_ + t.length + 1) := by
  simp [textBody, need_ok (show at_ + (t.length + 1) ≤ f.data.size by omega), nul, codes, Utf8.decode_ascii ascii]

/-- An ASCII signature at `at_`, after its one-octet length and before its NUL, reads as itself. -/
theorem signatureText_ascii {t : Text} (ascii : ∀ c ∈ t.codes, c < 128) (count : f.octet at_ = t.length)
    (codes : f.octets (at_ + 1) t.length = t.codes.map Nat.toUInt8) (nul : f.octet (at_ + 1 + t.length) = 0)
    (room : at_ + 1 + t.length + 1 ≤ f.data.size) :
    f.signatureText at_ = .ok (t, at_ + 1 + t.length + 1) := by
  have body := textBody_ascii ascii codes nul room
  rw [signatureText, count]
  simp [need_ok (show at_ + 1 ≤ f.data.size by omega), body]

end Frame

namespace Value

/-- Dictionary entries whose keys are pairwise unequal, each key unequal to every key after it. -/
def Distinct (entries : List (Value × Value)) : Prop :=
  entries.Pairwise fun a b => equal a.1 b.1 = false

theorem distinct_nil : Distinct [] := List.Pairwise.nil

/-- An entry after an insertion was there before, or is an earlier key with the new value, or is
the new entry. -/
theorem mem_insertEntry {entries : List (Value × Value)} {k x : Value} {e : Value × Value}
    (member : e ∈ insertEntry entries k x) : e ∈ entries ∨ (∃ old ∈ entries, e = (old.1, x)) ∨ e = (k, x) := by
  induction entries with
  | nil =>
    simp only [insertEntry, List.mem_singleton] at member
    exact .inr (.inr member)
  | cons entry rest ih =>
    obtain ⟨k', x'⟩ := entry
    rw [insertEntry] at member
    split at member
    · rcases List.mem_cons.mp member with rfl | later
      · exact .inr (.inl ⟨(k', x'), List.mem_cons_self, rfl⟩)
      · exact .inl (List.mem_cons_of_mem _ later)
    · rcases List.mem_cons.mp member with rfl | later
      · exact .inl List.mem_cons_self
      · rcases ih later with inside | ⟨old, oldIn, rfl⟩ | rfl
        · exact .inl (List.mem_cons_of_mem _ inside)
        · exact .inr (.inl ⟨old, List.mem_cons_of_mem _ oldIn, rfl⟩)
        · exact .inr (.inr rfl)

/-- Inserting keeps keys pairwise unequal: an equal key takes the new value in its place, and an
unequal one is added after the others. -/
theorem insertEntry_distinct {entries : List (Value × Value)} {k x : Value} (distinct : Distinct entries) :
    Distinct (insertEntry entries k x) := by
  induction entries with
  | nil => exact List.pairwise_singleton _ _
  | cons entry rest ih =>
    obtain ⟨k', x'⟩ := entry
    rw [Distinct, List.pairwise_cons] at distinct
    rw [insertEntry]
    split
    · exact List.pairwise_cons.mpr distinct
    · rename_i fresh
      refine List.pairwise_cons.mpr ⟨fun e member => ?_, ih distinct.2⟩
      rcases mem_insertEntry member with inside | ⟨old, oldIn, rfl⟩ | rfl
      · exact distinct.1 e inside
      · exact distinct.1 old oldIn
      · simpa using fresh

theorem insertEntry_of_fresh {entries : List (Value × Value)} {k x : Value}
    (fresh : ∀ e ∈ entries, equal e.1 k = false) : insertEntry entries k x = entries ++ [(k, x)] := by
  induction entries with
  | nil => rfl
  | cons entry rest ih =>
    obtain ⟨k', x'⟩ := entry
    rw [insertEntry, if_neg (by simp [fresh (k', x') List.mem_cons_self]),
      ih fun e member => fresh e (List.mem_cons_of_mem _ member)]
    rfl

/-- Entries with pairwise unequal keys, inserted one after another, are kept as they are. -/
theorem foldl_insertEntry_of_distinct {entries acc : List (Value × Value)} (distinct : Distinct (acc ++ entries)) :
    entries.foldl (fun acc e => insertEntry acc e.1 e.2) acc = acc ++ entries := by
  induction entries generalizing acc with
  | nil => simp
  | cons e rest ih =>
    have fresh : ∀ a ∈ acc, equal a.1 e.1 = false := fun a member =>
      (List.pairwise_append.mp distinct).2.2 a member e List.mem_cons_self
    rw [List.foldl_cons, insertEntry_of_fresh fresh, ih (by simpa using distinct), List.append_assoc]
    rfl

theorem dictOf_of_distinct {entries : List (Value × Value)} (distinct : Distinct entries) :
    dictOf entries = .dict entries := by
  have kept := @foldl_insertEntry_of_distinct entries [] (by simpa using distinct)
  rw [List.nil_append] at kept
  exact congrArg Value.dict kept

end Value

theorem Sig.doubles_basic {b : Basic} (notDouble : b ≠ .double) (v : Value) : (Sig.basic b).doubles v = [] := by
  unfold Sig.doubles
  cases b <;> simp_all

/-- What the reader gives for a value of the complete type `s` read at depth `d`: texts that encode
back, no integer in a `d` place, the value's own normal form, and nesting that fits below `d`. -/
structure Sig.Decoded (d : Nat) (s : Sig) (v : Value) : Prop where
  texts : ∀ t ∈ v.texts, t.Encodable
  doubles : s.doubles v = []
  normal : s.normal v = v
  shallow : d + s.nesting v ≤ maxNesting

namespace Sig.Decoded

variable {d : Nat}

theorem basic {b : Basic} {v : Value} (shallow : d ≤ maxNesting)
    (shape : (b = .double ∧ ∃ x, v = .float x) ∨ (b ≠ .double ∧ ∀ t ∈ v.texts, t.Encodable)) :
    Sig.Decoded d (.basic b) v := by
  rcases shape with ⟨rfl, x, rfl⟩ | ⟨notDouble, texts⟩
  · refine ⟨by simp [Value.texts], ?_, Sig.normal_double_float x, by simpa using shallow⟩
    unfold Sig.doubles
    rfl
  · exact ⟨texts, Sig.doubles_basic notDouble v, Sig.normal_basic v notDouble, by simpa using shallow⟩

theorem variant {sig : Text} {t : Sig} {inner : Value} (signature : sig.Encodable)
    (parsed : Signature.parse sig = .ok [t]) (decoded : Sig.Decoded (d + 1) t inner) :
    Sig.Decoded d .variant (.variant (.str sig) inner) := by
  refine ⟨fun text member => ?_, ?_, ?_, ?_⟩
  · simp only [Value.texts, List.mem_append, List.mem_singleton] at member
    rcases member with rfl | inside
    · exact signature
    · exact decoded.texts text inside
  · rw [Sig.doubles_variant parsed, decoded.doubles]
  · rw [Sig.normal_variant parsed, decoded.normal]
  · have deeper := decoded.shallow
    rw [Sig.nesting_variant parsed]
    omega

theorem bytes (shallow : d ≤ maxNesting) (b : ByteArray) : Sig.Decoded d (.array (.basic .byte)) (.bytes b) := by
  refine ⟨by simp [Value.texts], ?_, Sig.normal_bytes b, by simpa using shallow⟩
  unfold Sig.doubles
  rfl

theorem list {element : Sig} {xs : List Value} (notByte : element ≠ .basic .byte) (shallow : d ≤ maxNesting)
    (each : ∀ x ∈ xs, Sig.Decoded (d + 1) element x) : Sig.Decoded d (.array element) (.list xs) := by
  refine ⟨fun t member => ?_, ?_, ?_, ?_⟩
  · rw [Value.texts, Value.mem_textsEach] at member
    obtain ⟨x, inside, text⟩ := member
    exact (each x inside).texts t text
  · rw [Sig.doubles, List.eq_nil_iff_forall_not_mem]
    intro n inside
    obtain ⟨x, member, found⟩ := Sig.mem_doublesEach.mp inside
    rw [(each x member).doubles] at found
    cases found
  · rw [Sig.normal_array notByte (.inl rfl), Sig.normalEach_eq_self fun x member => (each x member).normal]
  · have bound : Sig.nestingEach element xs ≤ maxNesting - d :=
      Sig.nestingEach_le fun x member => by have := (each x member).shallow; omega
    rw [Sig.nesting_array notByte (.inl rfl)]
    omega

theorem dict {key : Basic} {value : Sig} {entries : List (Value × Value)} (shallow : d ≤ maxNesting)
    (each : ∀ e ∈ entries, Sig.Decoded (d + 1) (.basic key) e.1 ∧ Sig.Decoded (d + 1) value e.2)
    (distinct : Value.Distinct entries) : Sig.Decoded d (.dict key value) (.dict entries) := by
  refine ⟨fun t member => ?_, ?_, ?_, ?_⟩
  · rw [Value.texts, Value.mem_textsEntries] at member
    obtain ⟨e, inside, text | text⟩ := member
    · exact (each e inside).1.texts t text
    · exact (each e inside).2.texts t text
  · have entriesDoubles : (Sig.dict key value).doubles (.dict entries) = Sig.doublesEntries key value entries := by
      unfold Sig.doubles
      rfl
    rw [entriesDoubles, List.eq_nil_iff_forall_not_mem]
    intro n inside
    obtain ⟨e, member, found | found⟩ := Sig.mem_doublesEntries.mp inside
    · rw [(each e member).1.doubles] at found
      cases found
    · rw [(each e member).2.doubles] at found
      cases found
  · rw [Sig.normal_dict, Sig.normalEntries_eq_self fun e member => ⟨(each e member).1.normal, (each e member).2.normal⟩,
      Value.dictOf_of_distinct distinct]
  · have bound : Sig.nestingEntries key value entries ≤ maxNesting - d :=
      Sig.nestingEntries_le fun e member => by
        have := (each e member).1.shallow
        have := (each e member).2.shallow
        omega
    rw [Sig.nesting_dict]
    omega

/-- Values read one after another as the fields of a struct. -/
theorem fields {fields : List Sig} {xs : List Value} (each : List.Forall₂ (Sig.Decoded d) fields xs) :
    (∀ t ∈ Value.textsEach xs, t.Encodable) ∧ Sig.doublesFields fields xs = [] ∧
      Sig.normalFields fields xs = xs ∧ ∀ pair ∈ fields.zip xs, d + pair.1.nesting pair.2 ≤ maxNesting := by
  induction each with
  | nil => simp [Value.textsEach, Sig.doublesFields, Sig.normalFields]
  | cons head _ ih =>
    obtain ⟨texts, doubles, normal, shallow⟩ := ih
    refine ⟨fun t member => ?_, ?_, ?_, ?_⟩
    · rw [Value.textsEach, List.mem_append] at member
      rcases member with inside | later
      · exact head.texts t inside
      · exact texts t later
    · rw [Sig.doublesFields, head.doubles, doubles]
      rfl
    · rw [Sig.normalFields, head.normal, normal]
    · simp only [List.zip_cons_cons, List.mem_cons, forall_eq_or_imp]
      exact ⟨head.shallow, shallow⟩

theorem tuple {fields : List Sig} {xs : List Value} (shallow : d ≤ maxNesting)
    (each : List.Forall₂ (Sig.Decoded (d + 1)) fields xs) : Sig.Decoded d (.struct fields) (.tuple xs) := by
  obtain ⟨texts, doubles, normal, deeper⟩ := Sig.Decoded.fields each
  refine ⟨by rw [Value.texts]; exact texts, ?_, ?_, ?_⟩
  · rw [Sig.doubles, doubles]
  · rw [Sig.normal_struct fields (.inr rfl), normal]
  · have bound : Sig.nestingFields fields xs ≤ maxNesting - d :=
      Sig.nestingFields_le fun pair member => by have := deeper pair member; omega
    rw [Sig.nesting_struct fields (.inr rfl)]
    omega

end Sig.Decoded

/-- Every value the reader gives is one that writing puts back as it was, by the reader's own
induction: a read at each type, the fields of a struct, the entries of a dictionary (whose keys
stay pairwise unequal as they are inserted) and the elements of an array. -/
theorem Frame.read_decoded {f : Frame} {d : Nat} {s : Sig} {at_ at' : Nat} {v : Value}
    (read : f.read d s at_ = .ok (v, at')) : Sig.Decoded d s v := by
  revert v at'
  refine Frame.read.induct
    (fun d s at_ => ∀ {v at'}, f.read d s at_ = .ok (v, at') → Sig.Decoded d s v)
    (fun d fields at_ => ∀ {xs at'}, f.readFields d fields at_ = .ok (xs, at') →
      List.Forall₂ (Sig.Decoded d) fields xs)
    (fun d key value stop fuel entries at_ =>
      (∀ e ∈ entries, Sig.Decoded d (.basic key) e.1 ∧ Sig.Decoded d value e.2) → Value.Distinct entries →
      ∀ {found at'}, f.readEntries d key value stop fuel entries at_ = .ok (found, at') →
        (∀ e ∈ found, Sig.Decoded d (.basic key) e.1 ∧ Sig.Decoded d value e.2) ∧ Value.Distinct found)
    (fun d s stop fuel at_ => ∀ {xs at'}, f.readItems d s stop fuel at_ = .ok (xs, at') →
      ∀ x ∈ xs, Sig.Decoded d s x)
    ?deep ?basic ?variant ?array ?dict ?struct ?fieldsNil ?fieldsCons ?entriesZero ?entriesBefore ?entriesAfter
    ?itemsZero ?itemsBefore ?itemsAfter d s at_
  case deep =>
    intro d s at_ deep v at' read
    exact absurd (Frame.shallow_of_read read) (by omega)
  case basic =>
    intro d at_ shallow b v at' read
    rw [Frame.read_basic b at_ (by omega)] at read
    exact Sig.Decoded.basic (by omega) (Frame.basic_shape read)
  case variant =>
    intro d at_ _ inner v at' read
    obtain ⟨shallow, sig, at₁, t, x, sigRead, parsed, innerRead, rfl⟩ := Frame.read_variant_ok.mp read
    exact Sig.Decoded.variant (Frame.signatureText_encodable sigRead) parsed (inner at₁ t innerRead)
  case array =>
    intro d at_ _ element items v at' read
    obtain ⟨shallow, length, at₁, start, -, -, -, -, -, ⟨rfl, rfl⟩ | ⟨notByte, xs, itemsRead, rfl⟩⟩ :=
      Frame.read_array_ok.mp read
    · exact Sig.Decoded.bytes shallow _
    · exact Sig.Decoded.list notByte shallow (items length start itemsRead)
  case dict =>
    intro d at_ _ key value entries v at' read
    obtain ⟨shallow, length, at₁, start, found, -, -, -, -, -, entriesRead, rfl⟩ := Frame.read_dict_ok.mp read
    obtain ⟨each, distinct⟩ := entries length start (fun e member => by cases member) Value.distinct_nil entriesRead
    exact Sig.Decoded.dict shallow each distinct
  case struct =>
    intro d at_ _ fields inner v at' read
    obtain ⟨shallow, start, xs, -, fieldsRead, rfl⟩ := Frame.read_struct_ok.mp read
    exact Sig.Decoded.tuple shallow (inner start fieldsRead)
  case fieldsNil =>
    intro d at_ xs at' read
    rw [Frame.readFields_nil] at read
    cases read
    exact List.Forall₂.nil
  case fieldsCons =>
    intro d at_ s rest head tail xs at' read
    obtain ⟨x, at₁, ys, first, later, rfl⟩ := Frame.readFields_of_cons read
    exact List.Forall₂.cons (head first) (tail at₁ later)
  case entriesZero =>
    intro d key value stop entries at_ each distinct found at' read
    rw [Frame.readEntries_zero] at read
    cases read
    exact ⟨each, distinct⟩
  case entriesBefore =>
    intro d key value stop entries at_ fuel before keys values later each distinct found at' read
    obtain ⟨start, k, at₁, x, at₂, -, keyRead, valueRead, rest⟩ := Frame.readEntries_of_before before read
    refine later k x at₂ (fun e member => ?_) (Value.insertEntry_distinct distinct) rest
    rcases Value.mem_insertEntry member with inside | ⟨old, oldIn, rfl⟩ | rfl
    · exact each e inside
    · exact ⟨(each old oldIn).1, values at₁ valueRead⟩
    · exact ⟨keys start keyRead, values at₁ valueRead⟩
  case entriesAfter =>
    intro d key value stop entries at_ fuel after each distinct found at' read
    rw [Frame.readEntries_of_after after] at read
    cases read
    exact ⟨each, distinct⟩
  case itemsZero =>
    intro d s stop at_ xs at' read
    rw [Frame.readItems_zero] at read
    cases read
    intro x member
    cases member
  case itemsBefore =>
    intro d s stop at_ fuel before head tail xs at' read
    obtain ⟨x, at₁, rest, first, later, rfl⟩ := Frame.readItems_of_before before read
    intro y member
    rcases List.mem_cons.mp member with rfl | inside
    · exact head first
    · exact tail at₁ later y inside
  case itemsAfter =>
    intro d s stop at_ fuel after xs at' read
    rw [Frame.readItems_of_after after] at read
    cases read
    intro x member
    cases member

/-- Values read one after another as the fields of a struct are each decoded. -/
theorem Frame.readFields_decoded {f : Frame} {d : Nat} {fields : List Sig} {at_ at' : Nat} {xs : List Value}
    (read : f.readFields d fields at_ = .ok (xs, at')) : List.Forall₂ (Sig.Decoded d) fields xs := by
  induction fields generalizing at_ xs with
  | nil =>
    rw [Frame.readFields_nil] at read
    cases read
    exact List.Forall₂.nil
  | cons s rest ih =>
    obtain ⟨x, at₁, ys, first, later, rfl⟩ := Frame.readFields_of_cons read
    exact List.Forall₂.cons (Frame.read_decoded first) (ih later)

end MessageBus
