import Mathlib
import MessageBus.Proofs.Utf8
import MessageBus.Transport.Address

namespace MessageBus

namespace Escapes

/-- Whether an octet stands as it is in a written value: an ASCII letter or digit, `-`, `_`,
`/` or `.`. -/
def unreserved (b : Nat) : Bool :=
  (65 ≤ b && b ≤ 90) || (97 ≤ b && b ≤ 122) || (48 ≤ b && b ≤ 57) || b == 45 || b == 95 ||
    b == 47 || b == 46

/-- The upper-case hexadecimal digit of a number below sixteen. -/
def hexCode (d : Nat) : Nat := if d < 10 then 48 + d else 55 + d

/-- An octet as written in a value: itself, or `%` and its two hexadecimal digits. -/
def escapeOctet (b : UInt8) : List Nat :=
  if unreserved b.toNat then [b.toNat] else [37, hexCode (b.toNat / 16), hexCode (b.toNat % 16)]

/-- A value as written in an address: the octets of its UTF-8 form, each as `escapeOctet`
writes it. -/
def escape (t : Text) : List Nat := (t.codes.flatMap Utf8.encodePoint).flatMap escapeOctet

theorem hexDigit?_hexCode {d : Nat} (small : d < 16) : hexDigit? (hexCode d) = some d := by
  unfold hexDigit? hexCode
  by_cases decimal : d < 10
  · rw [if_pos decimal, if_pos (by simp only [Bool.and_eq_true, decide_eq_true_eq]; omega)]
    congr 1
    omega
  · rw [if_neg decimal, if_neg (by simp only [Bool.and_eq_true, decide_eq_true_eq]; omega),
      if_pos (by simp only [Bool.and_eq_true, decide_eq_true_eq]; omega)]
    congr 1
    omega

theorem octets_cons_of_ne {c : Nat} (notPercent : c ≠ 37) (rest : List Nat) :
    octets (c :: rest) = c.toUInt8 :: octets rest := by
  rw [octets.eq_def]
  split
  · rename_i a b more eq
    exact absurd (List.cons.inj eq).1 notPercent
  · rename_i d more _ eq
    obtain ⟨rfl, rfl⟩ := List.cons.inj eq
    rfl
  · simp at *

/-- Reading the escapes of written octets gives the octets back. -/
theorem octets_escape (bytes : List UInt8) : octets (bytes.flatMap escapeOctet) = bytes := by
  induction bytes with
  | nil => rfl
  | cons b rest ih =>
    have small : b.toNat < 256 := b.toNat_lt
    rw [List.flatMap_cons]
    by_cases plain : unreserved b.toNat = true
    · have notPercent : b.toNat ≠ 37 := fun h => by simp [h, unreserved] at plain
      simp only [escapeOctet, plain, if_true, List.singleton_append]
      rw [octets_cons_of_ne notPercent, ih, Nat.toUInt8, UInt8.ofNat_toNat]
    · simp only [escapeOctet, plain, Bool.false_eq_true, if_false, List.cons_append,
        List.nil_append]
      rw [octets, hexDigit?_hexCode (by omega), hexDigit?_hexCode (by omega)]
      simp only [ih, List.cons.injEq, and_true]
      rw [Nat.div_add_mod', Nat.toUInt8, UInt8.ofNat_toNat]

/-- A written value holds ASCII only, and no `,` or `;`. -/
theorem mem_escape {t : Text} {c : Nat} (mem : c ∈ escape t) : c < 128 ∧ c ≠ 44 ∧ c ≠ 59 := by
  obtain ⟨b, -, written⟩ := List.mem_flatMap.mp mem
  have small : b.toNat < 256 := b.toNat_lt
  unfold escapeOctet at written
  split at written
  · rename_i plain
    simp only [List.mem_singleton] at written
    subst written
    simp only [unreserved, Bool.or_eq_true, Bool.and_eq_true, decide_eq_true_eq,
      beq_iff_eq] at plain
    omega
  · simp only [List.mem_cons, List.not_mem_nil, or_false, hexCode] at written
    rcases written with rfl | rfl | rfl
    · decide
    all_goals split <;> omega

theorem escape_ne_nil {t : Text} (nonempty : t.codes ≠ []) : escape t ≠ [] := by
  obtain ⟨c, rest, split⟩ := List.exists_cons_of_ne_nil nonempty
  have point : Utf8.encodePoint c ≠ [] := by
    unfold Utf8.encodePoint
    split_ifs <;> simp
  obtain ⟨b, bytes, first⟩ := List.exists_cons_of_ne_nil point
  have octet : escapeOctet b ≠ [] := by
    unfold escapeOctet
    split <;> simp
  simp [escape, split, first, octet]

theorem runs_ascii {cs : List Nat} (nonempty : cs ≠ []) (ascii : ∀ c ∈ cs, c < 128) :
    runs cs = [(true, cs)] := by
  induction cs with
  | nil => exact absurd rfl nonempty
  | cons c rest ih =>
    have small : c < 128 := ascii c (by simp)
    cases rest with
    | nil => simp [runs, small]
    | cons d more =>
      rw [runs, ih (by simp) (fun x mem => ascii x (List.mem_cons_of_mem _ mem))]
      simp [small]

theorem octets_of_not_mem {cs : List Nat} (noPercent : 37 ∉ cs) :
    octets cs = cs.map Nat.toUInt8 := by
  induction cs with
  | nil => rfl
  | cons c rest ih =>
    rw [List.mem_cons, not_or] at noPercent
    rw [octets_cons_of_ne (Ne.symm noPercent.1), ih noPercent.2, List.map_cons]

/-- On ASCII code points, decoding the escapes is reading the octets they stand for as UTF-8. -/
theorem decode_of_ascii {cs : List Nat} (ascii : ∀ c ∈ cs, c < 128) :
    decode cs = (Utf8.decode (octets cs)).toOption.map Text.codes := by
  by_cases percent : 37 ∈ cs
  · have nonempty : cs ≠ [] := List.ne_nil_of_mem percent
    have contains : cs.contains 37 = true := by simpa using percent
    rw [decode, contains, runs_ascii nonempty ascii]
    simp only [Bool.not_true, Bool.false_eq_true, if_false, List.foldlM_cons, List.foldlM_nil,
      if_true, List.nil_append]
    cases Utf8.decode (octets cs) <;> rfl
  · have contains : cs.contains 37 = false := by simpa using percent
    have small : ∀ c ∈ cs, c < 0x110000 := fun c member => by
      have := ascii c member
      omega
    rw [decode, contains, octets_of_not_mem percent, Utf8.decode_ascii (t := ⟨cs, small⟩) ascii]
    rfl

/-- Decoding the escapes of a written value of scalar values gives the value back. -/
theorem decode_escape {t : Text} (plain : ∀ c ∈ t.codes, Text.isSurrogate c = false) :
    decode (escape t) = some t.codes := by
  have reads : Utf8.decode (t.codes.flatMap Utf8.encodePoint) = .ok t :=
    Utf8.decode_eq_ok.mpr (Utf8.decodeAt_flatMap _ (fun c member => ⟨t.bounded c member, plain c member⟩) 0)
  rw [decode_of_ascii (fun c mem => (mem_escape mem).1), escape, octets_escape, reads]
  rfl

/-- A value as written in an address, as text. -/
def escapeText (t : Text) : Text :=
  ⟨escape t, fun c inside => by
    have := (mem_escape inside).1
    omega⟩

theorem decodeText_of_decode {t v : Text} (reads : decode t.codes = some v.codes) :
    decodeText t = some v := by
  unfold decodeText
  split
  · rename_i decoded found
    rw [found, Option.some.injEq] at reads
    cases reads
    rfl
  · rename_i found
    rw [found] at reads
    cases reads

theorem decodeText_escape {t : Text} (plain : ∀ c ∈ t.codes, Text.isSurrogate c = false) :
    decodeText (escapeText t) = some t :=
  decodeText_of_decode (decode_escape plain)

end Escapes

/-- The code points split at every separator are the pieces `List.splitOn` gives. -/
theorem splitOn_eq (sep : Nat) (cs : List Nat) : splitOn sep cs = cs.splitOn sep := by
  induction cs with
  | nil => rfl
  | cons c rest ih =>
    have pieces : splitOn sep rest ≠ [] := by rw [ih]; exact List.splitOn_ne_nil sep rest
    obtain ⟨first, more, split⟩ := List.exists_cons_of_ne_nil pieces
    rw [splitOn_cons, split, List.splitOn_cons_eq_if_modifyHead, ← ih, split]
    by_cases atSep : (c == sep) = true
    · rw [if_pos atSep, if_pos atSep]
    · rw [if_neg atSep, if_neg atSep]
      rfl

theorem splitFirst_append {sep : Nat} {a : List Nat} (notIn : sep ∉ a) (b : List Nat) :
    splitFirst sep (a ++ sep :: b) = some (a, b) := by
  have before : ∀ c ∈ a, (c != sep) = true := fun c mem => by
    simpa using fun eq : c = sep => notIn (eq ▸ mem)
  rw [splitFirst, List.dropWhile_append_of_pos before, List.takeWhile_append_of_pos before]
  simp

theorem mem_intercalate {a : Nat} {sep : List Nat} {parts : List (List Nat)}
    (inside : a ∈ sep.intercalate parts) : a ∈ sep ∨ ∃ p ∈ parts, a ∈ p := by
  induction parts with
  | nil => simp at inside
  | cons p rest ih =>
    cases rest with
    | nil => exact .inr ⟨p, List.mem_singleton_self p, by simpa using inside⟩
    | cons q more =>
      rw [List.intercalate_cons_cons] at inside
      rcases List.mem_append.mp inside with front | later
      · rcases List.mem_append.mp front with inP | atSep
        · exact .inr ⟨p, List.mem_cons_self, inP⟩
        · exact .inl atSep
      · rcases ih later with atSep | ⟨r, member, inR⟩
        · exact .inl atSep
        · exact .inr ⟨r, List.mem_cons_of_mem p member, inR⟩

theorem not_mem_intercalate {a : Nat} {sep : List Nat} {parts : List (List Nat)} (notSep : a ∉ sep)
    (notPart : ∀ p ∈ parts, a ∉ p) : a ∉ sep.intercalate parts := fun inside =>
  (mem_intercalate inside).elim notSep fun ⟨p, member, inP⟩ => notPart p member inP

namespace Text

/-- Texts with a separator between each two. -/
def intercalate (sep : Text) (ts : List Text) : Text :=
  ⟨sep.codes.intercalate (ts.map Text.codes), fun c inside => by
    rcases mem_intercalate inside with atSep | ⟨p, member, inP⟩
    · exact sep.bounded c atSep
    · obtain ⟨t, -, rfl⟩ := List.mem_map.mp member
      exact t.bounded c inP⟩

theorem map_codes_splitOn (sep : Nat) (t : Text) :
    (t.splitOn sep).map Text.codes = MessageBus.splitOn sep t.codes := by
  simp [Text.splitOn]

theorem splitOn_intercalate {c : Nat} {sep : Text} (single : sep.codes = [c]) {ts : List Text}
    (free : ∀ t ∈ ts, c ∉ t.codes) (nonempty : ts ≠ []) : (intercalate sep ts).splitOn c = ts := by
  apply List.map_injective_iff.mpr (fun a b same => Text.ext same)
  rw [map_codes_splitOn]
  show MessageBus.splitOn c (sep.codes.intercalate (ts.map Text.codes)) = ts.map Text.codes
  rw [single, splitOn_eq,
    List.splitOn_intercalate c (by simpa using free) (by simpa using nonempty)]

theorem splitFirst_of_codes {sep : Nat} {t a b : Text}
    (split : MessageBus.splitFirst sep t.codes = some (a.codes, b.codes)) :
    t.splitFirst sep = some (a, b) := by
  unfold Text.splitFirst
  split
  · rename_i before after found
    rw [found, Option.some.injEq, Prod.mk.injEq] at split
    obtain ⟨rfl, rfl⟩ := split
    rfl
  · rename_i found
    rw [found] at split
    cases split

end Text

/-- A fold that appends one item for each element it reads, in order, reads them all: the step
may look at the items gathered before the element. -/
theorem foldlM_map_snoc {ε α β : Type} {f : List β → α → Except ε (List β)} {h : β → α}
    (acc ys : List β)
    (step : ∀ pre y post, ys = pre ++ y :: post → f (acc ++ pre) (h y) = .ok (acc ++ pre ++ [y])) :
    (ys.map h).foldlM f acc = .ok (acc ++ ys) := by
  induction ys generalizing acc with
  | nil => rw [List.map_nil, List.foldlM_nil, List.append_nil]; rfl
  | cons y rest ih =>
    have first := step [] y rest rfl
    rw [List.append_nil] at first
    have more := ih (acc ++ [y]) fun pre y' post split => by
      simpa using step (y :: pre) y' post (by rw [split]; rfl)
    rw [List.map_cons, List.foldlM_cons, first]
    show List.foldlM f (acc ++ [y]) (rest.map h) = _
    rw [more, List.append_assoc, List.singleton_append]

namespace Address

/-- An option as written: its key, `=` and its escaped value. -/
def writeOption (option : Text × Text) : Text :=
  option.1 ++ (⟨[61], by decide⟩ ++ Escapes.escapeText option.2)

/-- The options of an entry as written: separated by `,`. -/
def writeOptions (a : Address) : Text := Text.intercalate ⟨[44], by decide⟩ (a.options.map writeOption)

/-- An entry as written: its transport, `:` and its options. -/
def write (a : Address) : Text := a.transport ++ (⟨[58], by decide⟩ ++ a.writeOptions)

/-- What an entry must be for its written form to be read back. -/
structure Writable (a : Address) : Prop where
  transport_ne_nil : a.transport.codes ≠ []
  colon_not_mem : 58 ∉ a.transport.codes
  semicolon_not_mem : 59 ∉ a.transport.codes
  keys_nodup : (a.options.map Prod.fst).Nodup
  key_ne_nil : ∀ o ∈ a.options, o.1.codes ≠ []
  key_plain : ∀ o ∈ a.options, 61 ∉ o.1.codes ∧ 44 ∉ o.1.codes ∧ 59 ∉ o.1.codes
  value_ne_nil : ∀ o ∈ a.options, o.2.codes ≠ []
  value_scalars : ∀ o ∈ a.options, ∀ c ∈ o.2.codes, Text.isSurrogate c = false

theorem not_mem_writeOption {a : Address} (w : a.Writable) {o : Text × Text} (mem : o ∈ a.options)
    {c : Nat} (sep : c = 44 ∨ c = 59) : c ∉ (writeOption o).codes := by
  have plain := w.key_plain o mem
  simp only [writeOption, Escapes.escapeText, Text.codes_append, List.singleton_append,
    List.mem_append, List.mem_cons, not_or]
  refine ⟨by rcases sep with rfl | rfl <;> simp [plain], by omega, fun inside => ?_⟩
  have := Escapes.mem_escape inside
  omega

theorem semicolon_not_mem_write {a : Address} (w : a.Writable) : 59 ∉ a.write.codes := by
  simp only [write, writeOptions, Text.intercalate, Text.codes_append, List.singleton_append,
    List.mem_append, List.mem_cons, not_or]
  refine ⟨w.semicolon_not_mem, by omega, not_mem_intercalate (by simp) ?_⟩
  intro p mem
  obtain ⟨t, written, rfl⟩ := List.mem_map.mp mem
  obtain ⟨o, member, rfl⟩ := List.mem_map.mp written
  exact not_mem_writeOption w member (.inr rfl)

/-- The options of a writable entry are read back from their written form. -/
theorem parseOptions_write {a : Address} (w : a.Writable) :
    parseOptions (a.writeOptions.splitOn 44) = .ok a.options := by
  rcases options : a.options with _ | ⟨o, more⟩
  · simp only [writeOptions, options]
    rfl
  rw [← options, writeOptions, Text.splitOn_intercalate rfl
    (fun p mem => by
      obtain ⟨o, member, rfl⟩ := List.mem_map.mp mem
      exact not_mem_writeOption w member (.inl rfl))
    (by simp [options])]
  unfold parseOptions
  apply foldlM_map_snoc
  intro pre o post split
  have mem : o ∈ a.options := by rw [split]; simp
  have fresh : o.1 ∉ pre.map Prod.fst := by
    have nodup := w.keys_nodup
    rw [split, List.map_append, List.map_cons, List.nodup_append] at nodup
    exact fun inside => nodup.2.2 _ inside _ (by simp) rfl
  obtain ⟨key, value⟩ := o
  have pieceNe : (writeOption (key, value)).isEmpty = false :=
    List.isEmpty_eq_false_iff.mpr (by simp [writeOption])
  have keyNe : key.isEmpty = false := List.isEmpty_eq_false_iff.mpr (w.key_ne_nil _ mem)
  have valueNe : (Escapes.escapeText value).isEmpty = false :=
    List.isEmpty_eq_false_iff.mpr (Escapes.escape_ne_nil (w.value_ne_nil _ mem))
  have unused : (pre.any fun x => x.1 == key) = false := by
    rw [List.any_eq_false]
    intro x inside same
    exact fresh (List.mem_map.mpr ⟨x, inside, by simpa using same⟩)
  have written : (writeOption (key, value)).splitFirst 61 = some (key, Escapes.escapeText value) :=
    Text.splitFirst_of_codes (splitFirst_append (w.key_plain _ mem).1 _)
  simp only [List.nil_append, pieceNe, Bool.false_eq_true, if_false, written, keyNe, valueNe,
    Bool.or_self, unused, Escapes.decodeText_escape (w.value_scalars _ mem)]

end Address

/-- An address as written: its entries separated by `;`. -/
def writeAddress (entries : List Address) : Text := Text.intercalate ⟨[59], by decide⟩ (entries.map Address.write)

/-- An address written from writable entries, at least one, reads back as those entries: the
same transports, and the same options in the same order. -/
theorem parseAddress_write {entries : List Address} (nonempty : entries ≠ [])
    (writable : ∀ a ∈ entries, a.Writable) : parseAddress (writeAddress entries) = .ok entries := by
  have pieces : (writeAddress entries).splitOn 59 = entries.map Address.write := by
    rw [writeAddress, Text.splitOn_intercalate rfl (fun p mem => by
      obtain ⟨a, member, rfl⟩ := List.mem_map.mp mem
      exact Address.semicolon_not_mem_write (writable a member)) (by simpa using nonempty)]
  unfold parseAddress
  rw [pieces, foldlM_map_snoc [] entries]
  · simp [bind, Except.bind, pure, Except.pure, nonempty]
  · intro pre a post split
    have w := writable a (by rw [split]; simp)
    have entryNe : a.write.isEmpty = false :=
      List.isEmpty_eq_false_iff.mpr (by simp [Address.write])
    have transportNe : a.transport.isEmpty = false :=
      List.isEmpty_eq_false_iff.mpr w.transport_ne_nil
    have written : a.write.splitFirst 58 = some (a.transport, a.writeOptions) :=
      Text.splitFirst_of_codes (splitFirst_append w.colon_not_mem _)
    simp only [List.nil_append, entryNe, Bool.false_eq_true, if_false, written, transportNe,
      Address.parseOptions_write w]
    rfl

/-- A `unix` entry whose path holds a space and a letter outside ASCII, both escaped when
written, reads back. -/
theorem parseAddress_write_escaped_path :
    ([(⟨"unix", [("path", "/é b")]⟩ : Address)] ≠ [] ∧
      ∀ a ∈ [(⟨"unix", [("path", "/é b")]⟩ : Address)], a.Writable) ∧
    parseAddress (writeAddress [⟨"unix", [("path", "/é b")]⟩]) =
      .ok [⟨"unix", [("path", "/é b")]⟩] := by
  have nonempty : ([(⟨"unix", [("path", "/é b")]⟩ : Address)] ≠ []) := by simp
  have writable : ∀ a ∈ [(⟨"unix", [("path", "/é b")]⟩ : Address)], a.Writable := by
    intro a mem
    rw [List.mem_singleton] at mem
    subst mem
    exact ⟨by decide, by decide, by decide, by decide, by decide, by decide, by decide, by decide⟩
  exact ⟨⟨nonempty, writable⟩, parseAddress_write nonempty writable⟩

end MessageBus
