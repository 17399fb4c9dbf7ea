import Mathlib
import MessageBus.Proofs.Signature
import MessageBus.Signature.Check

namespace MessageBus

theorem Basic.ofCode_letter (b : Basic) : Basic.ofCode b.letter.toNat = some b := by
  cases b <;> rfl

namespace Sig

mutual

/-- How many array codes, those that open dictionaries included, the deepest part of a complete
type lies inside; a dictionary key is not counted. -/
def arrayDepth : Sig → Nat
  | .basic _ => 0
  | .variant => 0
  | .array e => arrayDepth e + 1
  | .dict _ v => arrayDepth v + 1
  | .struct fs => arrayDepthList fs

/-- The deepest array nesting among complete types. -/
def arrayDepthList : List Sig → Nat
  | [] => 0
  | f :: fs => max (arrayDepth f) (arrayDepthList fs)

end

mutual

/-- How many struct and dictionary-entry openers the deepest part of a complete type lies
inside; a dictionary key is not counted. -/
def structDepth : Sig → Nat
  | .basic _ => 0
  | .variant => 0
  | .array e => structDepth e
  | .dict _ v => structDepth v + 1
  | .struct fs => structDepthList fs + 1

/-- The deepest struct nesting among complete types. -/
def structDepthList : List Sig → Nat
  | [] => 0
  | f :: fs => max (structDepth f) (structDepthList fs)

end

/-- A complete type of the signature grammar: every struct has a field, and nesting stays within
`maxDepth` arrays and `maxDepth` structs. -/
def Valid (t : Sig) : Prop := t.WellFormed ∧ t.arrayDepth ≤ maxDepth ∧ t.structDepth ≤ maxDepth

@[simp] theorem arrayDepthList_le_iff {fs : List Sig} {n : Nat} : arrayDepthList fs ≤ n ↔ ∀ f ∈ fs, arrayDepth f ≤ n := by
  induction fs with
  | nil => simp [arrayDepthList]
  | cons f fs ih => simp [arrayDepthList, ih]

@[simp] theorem structDepthList_le_iff {fs : List Sig} {n : Nat} : structDepthList fs ≤ n ↔ ∀ f ∈ fs, structDepth f ≤ n := by
  induction fs with
  | nil => simp [structDepthList]
  | cons f fs ih => simp [structDepthList, ih]

@[simp] theorem codesList_append (ts us : List Sig) : codesList (ts ++ us) = codesList ts ++ codesList us := by
  induction ts with
  | nil => rfl
  | cons t ts ih => simp [codesList, ih]

/-- A type's codes start with a code that opens a type: never `{` or `)`. -/
theorem codes_cons (t : Sig) : ∃ c cs, t.codes = c :: cs ∧ c ≠ '{'.toNat ∧ c ≠ ')'.toNat := by
  cases t with
  | basic b => exact ⟨_, _, rfl, by cases b <;> decide, by cases b <;> decide⟩
  | variant => exact ⟨_, _, rfl, by decide, by decide⟩
  | array e => exact ⟨_, _, rfl, by decide, by decide⟩
  | dict k v => exact ⟨_, _, rfl, by decide, by decide⟩
  | struct fs => exact ⟨_, _, rfl, by decide, by decide⟩

section Steps

variable {fuel arrays structs : Nat} {rest : List Nat}

/-- A type read within the nesting bounds passes the reader's depth check. -/
theorem tooDeep_eq_false (arraysWithin : arrays ≤ maxDepth) (structsWithin : structs ≤ maxDepth) :
    (decide (arrays > maxDepth) || decide (structs > maxDepth)) = false := by
  simp [Nat.not_lt.mpr arraysWithin, Nat.not_lt.mpr structsWithin]

theorem parseType_basic (b : Basic) (arraysWithin : arrays ≤ maxDepth) (structsWithin : structs ≤ maxDepth) :
    parseType (fuel + 1) arrays structs (b.letter.toNat :: rest) = .ok (.basic b, rest) := by
  simp only [parseType, tooDeep_eq_false arraysWithin structsWithin, Basic.ofCode_letter, Bool.false_eq_true,
    if_false]

theorem parseType_variant (arraysWithin : arrays ≤ maxDepth) (structsWithin : structs ≤ maxDepth) :
    parseType (fuel + 1) arrays structs ('v'.toNat :: rest) = .ok (.variant, rest) := by
  have noBasic : Basic.ofCode 'v'.toNat = none := rfl
  simp only [parseType, tooDeep_eq_false arraysWithin structsWithin, noBasic, Bool.false_eq_true, if_false,
    if_true]

theorem parseType_array {c : Nat} {cs after : List Nat} {e : Sig} (arraysWithin : arrays ≤ maxDepth)
    (structsWithin : structs ≤ maxDepth) (notDict : c ≠ '{'.toNat)
    (element : parseType fuel (arrays + 1) structs (c :: cs) = .ok (e, after)) :
    parseType (fuel + 1) arrays structs ('a'.toNat :: c :: cs) = .ok (.array e, after) := by
  have noBasic : Basic.ofCode 'a'.toNat = none := rfl
  have notVariant : 'a'.toNat ≠ 'v'.toNat := by decide
  simp only [parseType, tooDeep_eq_false arraysWithin structsWithin, noBasic, notVariant, notDict, element,
    Bool.false_eq_true, if_false, if_true]

theorem parseType_dict {cs after : List Nat} {v : Sig} (k : Basic) (arraysWithin : arrays ≤ maxDepth)
    (structsWithin : structs ≤ maxDepth)
    (value : parseType fuel (arrays + 1) (structs + 1) cs = .ok (v, '}'.toNat :: after)) :
    parseType (fuel + 1) arrays structs ('a'.toNat :: '{'.toNat :: k.letter.toNat :: cs) = .ok (.dict k v, after) := by
  have noBasic : Basic.ofCode 'a'.toNat = none := rfl
  have notVariant : 'a'.toNat ≠ 'v'.toNat := by decide
  simp only [parseType, tooDeep_eq_false arraysWithin structsWithin, noBasic, notVariant, Basic.ofCode_letter,
    value, Bool.false_eq_true, if_false, if_true]

theorem parseType_struct {c : Nat} {cs after : List Nat} {fs : List Sig} (arraysWithin : arrays ≤ maxDepth)
    (structsWithin : structs ≤ maxDepth) (notEmpty : c ≠ ')'.toNat)
    (fields : parseFields fuel arrays structs (c :: cs) = .ok (fs, after)) :
    parseType (fuel + 1) arrays structs ('('.toNat :: c :: cs) = .ok (.struct fs, after) := by
  have noBasic : Basic.ofCode '('.toNat = none := rfl
  have notVariant : '('.toNat ≠ 'v'.toNat := by decide
  have notArray : '('.toNat ≠ 'a'.toNat := by decide
  simp only [parseType, tooDeep_eq_false arraysWithin structsWithin, noBasic, notVariant, notArray, notEmpty,
    fields, Bool.false_eq_true, if_false, if_true]

theorem parseFields_close : parseFields (fuel + 1) arrays structs (')'.toNat :: rest) = .ok ([], rest) := by
  simp only [parseFields, if_true]

theorem parseFields_cons {c : Nat} {cs after : List Nat} {f : Sig} {fs : List Sig} (notClose : c ≠ ')'.toNat)
    (field : parseType fuel arrays (structs + 1) (c :: cs) = .ok (f, after))
    (more : parseFields fuel arrays structs after = .ok (fs, rest)) :
    parseFields (fuel + 1) arrays structs (c :: cs) = .ok (f :: fs, rest) := by
  simp only [parseFields, notClose, field, more, if_false]

end Steps

theorem parse_depth (fuel : Nat) :
    (∀ {arrays structs : Nat} {cs after : List Nat} {t : Sig}, parseType fuel arrays structs cs = .ok (t, after) →
      arrays + t.arrayDepth ≤ maxDepth ∧ structs + t.structDepth ≤ maxDepth) ∧
    (∀ {arrays structs : Nat} {cs after : List Nat} {fs : List Sig}, parseFields fuel arrays structs cs = .ok (fs, after) →
      ∀ f ∈ fs, arrays + f.arrayDepth ≤ maxDepth ∧ structs + 1 + f.structDepth ≤ maxDepth) := by
  induction fuel with
  | zero => exact ⟨fun parsed => by simp [parseType] at parsed, fun parsed => by simp [parseFields] at parsed⟩
  | succ fuel ih =>
    obtain ⟨typeDepth, fieldsDepth⟩ := ih
    refine ⟨fun {arrays structs cs after t} parsed => ?_, fun {arrays structs cs after fs} parsed => ?_⟩
    · obtain ⟨c, rest, rfl, arraysWithin, structsWithin, basic | variant | array | dict | struct⟩ := parseType_ok parsed
      · obtain ⟨b, -, rfl, -⟩ := basic
        simp [arrayDepth, structDepth, arraysWithin, structsWithin]
      · obtain ⟨-, rfl, -⟩ := variant
        simp [arrayDepth, structDepth, arraysWithin, structsWithin]
      · obtain ⟨-, -, element, elementParsed, rfl⟩ := array
        have inner := typeDepth elementParsed
        simp only [arrayDepth, structDepth]
        omega
      · obtain ⟨-, k, afterKey, key, value, -, -, valueParsed, rfl⟩ := dict
        have inner := typeDepth valueParsed
        simp only [arrayDepth, structDepth]
        omega
      · obtain ⟨-, -, fields, fieldsParsed, rfl⟩ := struct
        have each := fieldsDepth fieldsParsed
        obtain ⟨f, member⟩ : ∃ f, f ∈ fields := by
          cases (parse_wellFormed _).1 parsed with
          | struct nonempty _ => exact List.exists_mem_of_ne_nil _ nonempty
        have first := each f member
        refine ⟨?_, ?_⟩
        · simp only [arrayDepth]
          have bound : arrayDepthList fields ≤ maxDepth - arrays :=
            arrayDepthList_le_iff.mpr fun g gMember => by have := each g gMember; omega
          omega
        · simp only [structDepth]
          have bound : structDepthList fields ≤ maxDepth - (structs + 1) :=
            structDepthList_le_iff.mpr fun g gMember => by have := each g gMember; omega
          omega
    · rcases parseFields_ok parsed with ⟨-, rfl⟩ | ⟨-, field, rest, more, fieldParsed, moreParsed, rfl⟩
      · simp
      · rintro f (_ | ⟨_, member⟩)
        · have := typeDepth fieldParsed
          omega
        · exact fieldsDepth moreParsed f member

/-- Every type that reading a sequence gives is within the nesting bounds. -/
theorem parseAll_depth {fuel : Nat} {cs : List Nat} {ts : List Sig} (parsed : parseAll fuel cs = .ok ts) :
    ∀ t ∈ ts, t.arrayDepth ≤ maxDepth ∧ t.structDepth ≤ maxDepth := by
  fun_induction parseAll fuel cs generalizing ts with
  | case1 => cases parsed; simp
  | case2 => cases parsed; simp
  | case3 fuel codes notEmpty e typeFailed => cases parsed
  | case4 fuel codes notEmpty t after typeParsed e moreFailed => cases parsed
  | case5 fuel codes notEmpty t after typeParsed more moreParsed ih =>
    cases parsed
    rintro u (_ | ⟨_, member⟩)
    · have depth := (parse_depth _).1 typeParsed
      omega
    · exact ih moreParsed u member

/-- Every type that reading a sequence gives is valid, given fuel past the number of codes. -/
theorem parseAll_valid {fuel : Nat} {cs : List Nat} {ts : List Sig} (enough : cs.length < fuel)
    (parsed : parseAll fuel cs = .ok ts) : ∀ t ∈ ts, t.Valid :=
  fun t member => ⟨(parseAll_codes enough parsed).2 t member, parseAll_depth parsed t member⟩

/-- The reader reads a well-formed type within the nesting bounds from its codes, whatever
follows them, given fuel for its codes; and the fields of a struct up to its `)`. -/
theorem parse_complete (fuel : Nat) :
    (∀ {arrays structs : Nat} {t : Sig} {rest : List Nat}, t.WellFormed → arrays + t.arrayDepth ≤ maxDepth →
      structs + t.structDepth ≤ maxDepth → t.codes.length ≤ fuel →
      parseType fuel arrays structs (t.codes ++ rest) = .ok (t, rest)) ∧
    (∀ {arrays structs : Nat} {fs : List Sig} {rest : List Nat}, (∀ f ∈ fs, f.WellFormed) →
      arrays + arrayDepthList fs ≤ maxDepth → structs + 1 + structDepthList fs ≤ maxDepth →
      (codesList fs).length < fuel → parseFields fuel arrays structs (codesList fs ++ ')'.toNat :: rest) = .ok (fs, rest)) := by
  induction fuel with
  | zero =>
    refine ⟨fun _ _ _ noFuel => ?_, fun _ _ _ noFuel => absurd noFuel (Nat.not_lt_zero _)⟩
    exact absurd (List.eq_nil_of_length_eq_zero (Nat.le_zero.mp noFuel)) (codes_ne_nil _)
  | succ fuel ih =>
    obtain ⟨typeComplete, fieldsComplete⟩ := ih
    refine ⟨fun {arrays structs t rest} formed arraysWithin structsWithin enough => ?_,
      fun {arrays structs fs rest} formed arraysWithin structsWithin enough => ?_⟩
    · cases formed with
      | basic b =>
        simp only [arrayDepth, structDepth] at arraysWithin structsWithin
        exact parseType_basic b (by omega) (by omega)
      | variant =>
        simp only [arrayDepth, structDepth] at arraysWithin structsWithin
        exact parseType_variant (by omega) (by omega)
      | @array e formedE =>
        simp only [arrayDepth, structDepth, codes, List.length_cons] at arraysWithin structsWithin enough
        obtain ⟨c, cs, start, notDict, -⟩ := codes_cons e
        have element : parseType fuel (arrays + 1) structs (e.codes ++ rest) = .ok (e, rest) :=
          typeComplete formedE (by omega) structsWithin (by omega)
        rw [start] at element
        simp only [codes, start, List.cons_append]
        exact parseType_array (by omega) (by omega) notDict element
      | @dict k v formedV =>
        simp only [arrayDepth, structDepth, codes, List.length_append, List.length_cons, List.length_nil]
          at arraysWithin structsWithin enough
        have value : parseType fuel (arrays + 1) (structs + 1) (v.codes ++ '}'.toNat :: rest) =
            .ok (v, '}'.toNat :: rest) :=
          typeComplete formedV (by omega) (by omega) (by omega)
        simp only [codes, List.cons_append, List.nil_append, List.append_assoc]
        exact parseType_dict k (by omega) (by omega) value
      | @struct fs nonempty formedFs =>
        simp only [arrayDepth, structDepth, codes, List.length_cons, List.length_append, List.length_nil]
          at arraysWithin structsWithin enough
        have fields : parseFields fuel arrays structs (codesList fs ++ ')'.toNat :: rest) = .ok (fs, rest) :=
          fieldsComplete formedFs arraysWithin (by omega) (by omega)
        -- the first field's first code is no `)`, so the struct is not taken for an empty one
        obtain ⟨f, more, rfl⟩ := List.exists_cons_of_ne_nil nonempty
        obtain ⟨c, cs, start, -, notEmpty⟩ := codes_cons f
        simp only [codes, codesList, start, List.cons_append, List.nil_append, List.append_assoc] at fields ⊢
        have arraysShallow : arrays ≤ maxDepth := le_trans (Nat.le_add_right _ _) arraysWithin
        exact parseType_struct arraysShallow (by omega) notEmpty fields
    · cases fs with
      | nil => exact parseFields_close
      | cons f more =>
        simp only [arrayDepthList, structDepthList, codesList, List.length_append] at arraysWithin structsWithin enough
        have nonempty : f.codes.length ≠ 0 := by simpa using codes_ne_nil f
        have field : parseType fuel arrays (structs + 1) (f.codes ++ (codesList more ++ ')'.toNat :: rest)) =
            .ok (f, codesList more ++ ')'.toNat :: rest) :=
          typeComplete (formed f List.mem_cons_self) (by omega) (by omega) (by omega)
        have later : parseFields fuel arrays structs (codesList more ++ ')'.toNat :: rest) = .ok (more, rest) :=
          fieldsComplete (fun g member => formed g (List.mem_cons_of_mem f member)) (by omega) (by omega) (by omega)
        obtain ⟨c, cs, start, -, notClose⟩ := codes_cons f
        rw [start] at field
        simp only [codesList, start, List.cons_append, List.append_assoc]
        exact parseFields_cons notClose field later

/-- Reading a sequence gives back valid types from their codes, given fuel past the number of
codes. -/
theorem parseAll_codesList {fuel : Nat} {ts : List Sig} (enough : (codesList ts).length < fuel)
    (valid : ∀ t ∈ ts, t.Valid) : parseAll fuel (codesList ts) = .ok ts := by
  induction ts generalizing fuel with
  | nil =>
    cases fuel with
    | zero => rfl
    | succ fuel => rfl
  | cons t more ih =>
    obtain ⟨formed, arraysWithin, structsWithin⟩ := valid t List.mem_cons_self
    obtain ⟨fuel, rfl⟩ : ∃ f, fuel = f + 1 := Nat.exists_eq_succ_of_ne_zero (by omega)
    simp only [codesList, List.length_append] at enough
    have nonempty : t.codes.length ≠ 0 := by simpa using codes_ne_nil t
    have first : parseType (2 * (codesList (t :: more)).length + 2) 0 0 (t.codes ++ codesList more) =
        .ok (t, codesList more) :=
      (parse_complete _).1 formed (by omega) (by omega) (by simp [codesList]; omega)
    have later : parseAll fuel (codesList more) = .ok more :=
      ih (by omega) (fun u member => valid u (List.mem_cons_of_mem t member))
    obtain ⟨c, cs, start, -⟩ := codes_cons t
    rw [codesList, start] at first ⊢
    simp only [List.cons_append] at first ⊢
    simp only [parseAll, first, later]

/-- A sequence of valid types is written in one way only: their codes determine them. -/
theorem codesList_inj {ts ts' : List Sig} (valid : ∀ t ∈ ts, t.Valid) (valid' : ∀ t ∈ ts', t.Valid)
    (same : codesList ts = codesList ts') : ts = ts' := by
  have read : parseAll ((codesList ts).length + 1) (codesList ts) = .ok ts :=
    parseAll_codesList (Nat.lt_succ_self _) valid
  have read' : parseAll ((codesList ts).length + 1) (codesList ts') = .ok ts' :=
    parseAll_codesList (by rw [same]; exact Nat.lt_succ_self _) valid'
  rw [← same, read] at read'
  exact Except.ok.inj read'

end Sig

/-- A signature text reads as a list of types exactly when it is at most `maxLength` code points
and is their codes one after another, each a valid type. -/
theorem Signature.parse_ok_iff (t : Text) (ts : List Sig) :
    Signature.parse t = .ok ts ↔ t.length ≤ Sig.maxLength ∧ t.codes = Sig.codesList ts ∧ ∀ s ∈ ts, s.Valid := by
  constructor
  · intro parsed
    obtain ⟨short, codes, -⟩ := Signature.parse_ok parsed
    refine ⟨short, codes, ?_⟩
    unfold Signature.parse at parsed
    rw [if_neg (by omega)] at parsed
    split at parsed
    · rename_i types all
      cases parsed
      exact Sig.parseAll_valid (by simp [Text.length]) all
    · cases parsed
  · rintro ⟨short, codes, valid⟩
    unfold Signature.parse
    rw [if_neg (by omega), codes, Sig.parseAll_codesList (by simp [Text.length, codes]) valid]

example : Signature.parse (Text.ofString "sa{sv}(ii)") =
    .ok [.basic .string, .dict .string .variant, .struct [.basic .int32, .basic .int32]] := by
  rfl

/-- A valid type whose codes fit a signature reads back as itself alone. -/
theorem Signature.parse_code {s : Sig} (valid : s.Valid) (short : s.codes.length ≤ Sig.maxLength) :
    Signature.parse s.code = .ok [s] :=
  (Signature.parse_ok_iff _ _).mpr ⟨short, by simp [Sig.code, Sig.codesList], by simpa using valid⟩

/-- Reading a signature given as any value accepts exactly the grammar: it gives a list exactly
when the value is text of at most `maxLength` code points that is the codes of that list of valid
types, one after another; no other list of valid types has the same codes, and each type given
reads back as itself alone. Every other value is refused. -/
theorem Signature.ofValue_ok_iff (v : Value) :
    (∀ ts, Signature.ofValue v = .ok ts ↔
      ∃ t, v = .str t ∧ t.length ≤ Sig.maxLength ∧ t.codes = Sig.codesList ts ∧ ∀ s ∈ ts, s.Valid) ∧
    (∀ ts, Signature.ofValue v = .ok ts →
      (∀ ts', (∀ s ∈ ts', s.Valid) → Sig.codesList ts' = Sig.codesList ts → ts' = ts) ∧
      ∀ s ∈ ts, Signature.parse s.code = .ok [s]) ∧
    ((∃ e, Signature.ofValue v = .error e) ↔
      ¬ ∃ t ts, v = .str t ∧ t.length ≤ Sig.maxLength ∧ t.codes = Sig.codesList ts ∧ ∀ s ∈ ts, s.Valid) := by
  have grammar : ∀ ts, Signature.ofValue v = .ok ts ↔
      ∃ t, v = .str t ∧ t.length ≤ Sig.maxLength ∧ t.codes = Sig.codesList ts ∧ ∀ s ∈ ts, s.Valid := by
    intro ts
    cases v with
    | str t => simp [Signature.ofValue, Signature.parse_ok_iff]
    | _ => simp [Signature.ofValue]
  refine ⟨grammar, fun ts read => ⟨?unique, ?single⟩, ?refused⟩
  case unique =>
    obtain ⟨t, -, -, -, valid⟩ := (grammar ts).mp read
    exact fun ts' valid' same => Sig.codesList_inj valid' valid same
  case single =>
    obtain ⟨t, -, short, codes, valid⟩ := (grammar ts).mp read
    intro s member
    have part : s.codes.length ≤ (Sig.codesList ts).length := by
      obtain ⟨before, after, rfl⟩ := List.append_of_mem member
      simp only [Sig.codesList_append, Sig.codesList, List.length_append]
      omega
    exact Signature.parse_code (valid s member) (by simp only [Text.length] at short; rw [codes] at short; omega)
  case refused =>
    constructor
    · rintro ⟨e, failed⟩ ⟨t, ts, given⟩
      rw [(grammar ts).mpr ⟨t, given⟩] at failed
      cases failed
    · intro outside
      cases read : Signature.ofValue v with
      | error e => exact ⟨e, rfl⟩
      | ok ts =>
        obtain ⟨t, given⟩ := (grammar ts).mp read
        exact absurd ⟨t, ts, given⟩ outside

namespace Sig

theorem Valid.of_array {e : Sig} (valid : (Sig.array e).Valid) : e.Valid := by
  obtain ⟨formed, arrays, structs⟩ := valid
  cases formed with
  | array formedE =>
    simp only [arrayDepth, structDepth] at arrays structs
    exact ⟨formedE, by omega, structs⟩

theorem Valid.of_dict {k : Basic} {v : Sig} (valid : (Sig.dict k v).Valid) : v.Valid := by
  obtain ⟨formed, arrays, structs⟩ := valid
  cases formed with
  | dict _ formedV =>
    simp only [arrayDepth, structDepth] at arrays structs
    exact ⟨formedV, by omega, by omega⟩

theorem Valid.of_struct {fs : List Sig} (valid : (Sig.struct fs).Valid) : ∀ f ∈ fs, f.Valid := by
  obtain ⟨formed, arrays, structs⟩ := valid
  intro f member
  cases formed with
  | struct _ formedFs =>
    simp only [arrayDepth, structDepth] at arrays structs
    have arraysWithin := arrayDepthList_le_iff.mp (le_refl (arrayDepthList fs)) f member
    have structsWithin := structDepthList_le_iff.mp (le_refl (structDepthList fs)) f member
    exact ⟨formedFs f member, by omega, by omega⟩

theorem length_codes_le_codesList {t : Sig} {ts : List Sig} (member : t ∈ ts) :
    t.codes.length ≤ (codesList ts).length := by
  obtain ⟨before, after, rfl⟩ := List.append_of_mem member
  simp only [codesList_append, codesList, List.length_append]
  omega

theorem basic_codes_ne (b : Basic) (c : Nat) (cs : List Nat) (more : cs ≠ []) :
    (Sig.basic b).codes ≠ c :: cs := by
  simp [codes, more.symm]

theorem eq_struct_of_codes {t : Sig} {inner : List Nat} (shape : t.codes = '('.toNat :: inner ++ [')'.toNat]) :
    ∃ fs, t = .struct fs ∧ inner = codesList fs := by
  cases t with
  | struct fs =>
    simp only [codes, List.cons.injEq, List.append_cancel_right_eq, true_and] at shape
    exact ⟨fs, rfl, shape.symm⟩
  | basic b => exact absurd shape (basic_codes_ne b _ _ (by simp))
  | _ => simp [codes] at shape

theorem eq_dict_of_codes {t : Sig} {inner : List Nat}
    (shape : t.codes = 'a'.toNat :: '{'.toNat :: inner ++ ['}'.toNat]) :
    ∃ k v, t = .dict k v ∧ inner = k.letter.toNat :: v.codes := by
  cases t with
  | dict k v =>
    simp only [codes, List.cons_append, List.nil_append, List.cons.injEq, true_and] at shape
    exact ⟨k, v, rfl,
      (List.append_cancel_right (show (k.letter.toNat :: v.codes) ++ ['}'.toNat] = inner ++ ['}'.toNat] from shape)).symm⟩
  | array e =>
    obtain ⟨c, cs, start, notOpen, -⟩ := codes_cons e
    rw [codes, start] at shape
    injection shape with _ rest
    injection rest with same _
    exact absurd same notOpen
  | basic b => exact absurd shape (basic_codes_ne b _ _ (by simp))
  | _ => simp [codes] at shape

theorem eq_array_of_codes {t : Sig} {e : List Nat} (shape : t.codes = 'a'.toNat :: e)
    (notDict : e.head? ≠ some '{'.toNat) : ∃ el, t = .array el ∧ el.codes = e := by
  cases t with
  | array el =>
    simp only [codes, List.cons.injEq, true_and] at shape
    exact ⟨el, rfl, shape⟩
  | dict k v =>
    simp only [codes, List.cons_append, List.cons.injEq, true_and] at shape
    simp [← shape] at notDict
  | basic b => cases b <;> simp [codes, Basic.letter] at shape
  | _ => simp [codes] at shape

end Sig

theorem Signature.parse_fields {fs : List Sig} {inner : Text} (codes : inner.codes = Sig.codesList fs)
    (valid : (Sig.struct fs).Valid) (fits : (Sig.struct fs).codes.length ≤ Sig.maxLength) :
    Signature.parse inner = .ok fs := by
  refine (Signature.parse_ok_iff _ _).mpr ⟨?_, codes, Sig.Valid.of_struct valid⟩
  simp only [Text.length, codes, Sig.codes, List.length_cons, List.length_append] at fits ⊢
  omega

theorem Signature.parse_entry {k : Basic} {v : Sig} {inner : Text}
    (codes : inner.codes = k.letter.toNat :: v.codes) (valid : (Sig.dict k v).Valid)
    (fits : (Sig.dict k v).codes.length ≤ Sig.maxLength) :
    Signature.parse inner = .ok [.basic k, v] := by
  have listed : inner.codes = Sig.codesList [.basic k, v] := by
    simp [codes, Sig.codesList, Sig.codes]
  have keyValid : (Sig.basic k).Valid := ⟨.basic k, by simp [Sig.arrayDepth], by simp [Sig.structDepth]⟩
  refine (Signature.parse_ok_iff _ _).mpr ⟨?_, listed, ?_⟩
  · simp only [Text.length, codes, Sig.codes, List.length_cons, List.length_append] at fits ⊢
    omega
  · simpa using ⟨keyValid, Sig.Valid.of_dict valid⟩

/-- The parts of a type that a signature reads as read again on their own: the codes between
a struct's parentheses read as its fields, the codes between a dictionary's braces as its key and
value, and the codes after an array's `a` as its element alone; each part's codes are shorter than
the type's. -/
theorem Signature.parse_parts {sig : Text} {ts : List Sig} (parsed : Signature.parse sig = .ok ts)
    {t : Sig} (member : t ∈ ts) :
    (∀ inner : Text, t.codes = '('.toNat :: inner.codes ++ [')'.toNat] →
      ∃ fs, t = .struct fs ∧ Signature.parse inner = .ok fs ∧ ∀ f ∈ fs, f.codes.length < t.codes.length) ∧
    (∀ inner : Text, t.codes = 'a'.toNat :: '{'.toNat :: inner.codes ++ ['}'.toNat] →
      ∃ k v, t = .dict k v ∧ Signature.parse inner = .ok [.basic k, v] ∧ v.codes.length < t.codes.length) ∧
    (∀ e : Text, t.codes = 'a'.toNat :: e.codes → e.codes.head? ≠ some '{'.toNat →
      ∃ el, t = .array el ∧ el.codes = e.codes ∧ Signature.parse e = .ok [el] ∧
        el.codes.length < t.codes.length) := by
  obtain ⟨short, codes, valid⟩ := (Signature.parse_ok_iff sig ts).mp parsed
  have fits : t.codes.length ≤ Sig.maxLength := by
    have := Sig.length_codes_le_codesList member
    simp only [Text.length] at short
    rw [codes] at short
    omega
  have whole := valid t member
  refine ⟨fun inner shape => ?_, fun inner shape => ?_, fun e shape notDict => ?_⟩
  · obtain ⟨fs, rfl, fields⟩ := Sig.eq_struct_of_codes shape
    refine ⟨fs, rfl, Signature.parse_fields fields whole fits, fun f inside => ?_⟩
    have := Sig.length_codes_le_codesList inside
    simp only [Sig.codes, List.length_cons, List.length_append]
    omega
  · obtain ⟨k, v, rfl, entry⟩ := Sig.eq_dict_of_codes shape
    refine ⟨k, v, rfl, Signature.parse_entry entry whole fits, ?_⟩
    simp only [Sig.codes, List.length_append, List.length_cons, List.length_nil]
    omega
  · obtain ⟨el, rfl, element⟩ := Sig.eq_array_of_codes shape notDict
    have same : el.code = e := Text.ext element
    refine ⟨el, rfl, element, same ▸ Signature.parse_code (Sig.Valid.of_array whole) ?_, by simp [Sig.codes]⟩
    simp only [Sig.codes, List.length_cons] at fits
    omega

/-- The struct `(ia{sv})` gets its fields `i` and `a{sv}` back from the codes between its
parentheses. -/
theorem Signature.parse_parts_of_struct :
    Signature.parse (Text.ofString "(ia\x7bsv\x7d)") = .ok [.struct [.basic .int32, .dict .string .variant]] ∧
      ∃ fs, Sig.struct [.basic .int32, .dict .string .variant] = .struct fs ∧
        Signature.parse (Text.ofString "ia\x7bsv\x7d") = .ok fs ∧
        ∀ f ∈ fs, f.codes.length < (Sig.struct [.basic .int32, .dict .string .variant]).codes.length := by
  have parsed : Signature.parse (Text.ofString "(ia\x7bsv\x7d)") =
      .ok [.struct [.basic .int32, .dict .string .variant]] := by rfl
  exact ⟨parsed, (Signature.parse_parts parsed List.mem_cons_self).1 (Text.ofString "ia\x7bsv\x7d") rfl⟩

end MessageBus
