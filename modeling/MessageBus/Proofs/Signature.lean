import Mathlib
import MessageBus.Signature.Parse

namespace MessageBus

theorem Basic.letter_of_ofCode {c : Nat} {b : Basic} (found : Basic.ofCode c = some b) : b.letter.toNat = c := by
  have := List.find?_some found
  simpa using this

namespace Sig

/-- Everything one step of `parseType` can return, with what it read. -/
theorem parseType_ok {fuel arrays structs : Nat} {cs after : List Nat} {t : Sig}
    (parsed : parseType (fuel + 1) arrays structs cs = .ok (t, after)) :
    ∃ c rest, cs = c :: rest ∧ arrays ≤ maxDepth ∧ structs ≤ maxDepth ∧
      ((∃ b, Basic.ofCode c = some b ∧ t = .basic b ∧ after = rest) ∨
       (c = 'v'.toNat ∧ t = .variant ∧ after = rest) ∨
       (c = 'a'.toNat ∧ rest.head? ≠ some '{'.toNat ∧
          ∃ element, parseType fuel (arrays + 1) structs rest = .ok (element, after) ∧ t = .array element) ∨
       (c = 'a'.toNat ∧ ∃ k afterKey key value, rest = '{'.toNat :: k :: afterKey ∧ Basic.ofCode k = some key ∧
          parseType fuel (arrays + 1) (structs + 1) afterKey = .ok (value, '}'.toNat :: after) ∧
          t = .dict key value) ∨
       (c = '('.toNat ∧ rest.head? ≠ some ')'.toNat ∧
          ∃ fields, parseFields fuel arrays structs rest = .ok (fields, after) ∧ t = .struct fields)) := by
  rcases cs with _ | ⟨c, rest⟩
  · simp [parseType] at parsed
  refine ⟨c, rest, rfl, ?_⟩
  simp only [parseType] at parsed
  split at parsed
  · cases parsed
  rename_i shallow
  simp only [Bool.or_eq_true, decide_eq_true_eq, not_or, not_lt] at shallow
  refine ⟨shallow.1, shallow.2, ?_⟩
  split at parsed
  · rename_i b found
    cases parsed
    exact .inl ⟨b, found, rfl, rfl⟩
  split at parsed
  · cases parsed
    exact .inr (.inl ⟨by assumption, rfl, rfl⟩)
  split at parsed
  · rename_i array
    split at parsed
    · rename_i open_ afterOpen
      split at parsed
      · rename_i dict
        split at parsed
        · cases parsed
        split at parsed
        · cases parsed
        rename_i k afterKey _ key keyFound
        split at parsed
        · cases parsed
        rename_i value rest valueParsed
        split at parsed
        · split at parsed
          · cases parsed
            rename_i close _ isClose
            subst isClose dict
            exact .inr (.inr (.inr (.inl ⟨array, k, afterKey, key, value, rfl, keyFound, valueParsed, rfl⟩)))
          · cases parsed
        · cases parsed
      · rename_i notDict
        split at parsed
        · cases parsed
        · cases parsed
          rename_i element elementParsed
          exact .inr (.inr (.inl ⟨array, by simpa using notDict, element, elementParsed, rfl⟩))
    · split at parsed
      · cases parsed
      · cases parsed
        rename_i element elementParsed
        exact .inr (.inr (.inl ⟨array, by simp, element, elementParsed, rfl⟩))
  split at parsed
  · rename_i struct
    split at parsed
    · rename_i first more
      split at parsed
      · cases parsed
      rename_i notClose
      split at parsed
      · cases parsed
      · cases parsed
        rename_i fields fieldsParsed
        exact .inr (.inr (.inr (.inr ⟨struct, by simpa using notClose, fields, fieldsParsed, rfl⟩)))
    · cases parsed
  · cases parsed

/-- Everything one step of `parseFields` can return, with what it read. -/
theorem parseFields_ok {fuel arrays structs : Nat} {cs after : List Nat} {fs : List Sig}
    (parsed : parseFields (fuel + 1) arrays structs cs = .ok (fs, after)) :
    (cs = ')'.toNat :: after ∧ fs = []) ∨
    (cs.head? ≠ some ')'.toNat ∧ ∃ field rest more, parseType fuel arrays (structs + 1) cs = .ok (field, rest) ∧
      parseFields fuel arrays structs rest = .ok (more, after) ∧ fs = field :: more) := by
  rcases cs with _ | ⟨c, rest⟩
  · simp [parseFields] at parsed
  simp only [parseFields] at parsed
  split at parsed
  · cases parsed
    exact .inl ⟨by simp_all, rfl⟩
  rename_i notClose
  split at parsed
  · cases parsed
  rename_i field afterField fieldParsed
  split at parsed
  · cases parsed
  · cases parsed
    rename_i more moreParsed
    exact .inr ⟨by simpa using notClose, field, afterField, more, fieldParsed, moreParsed, rfl⟩

/-- What `parseType` and `parseFields` read is the code of what they return. -/
theorem parse_codes (fuel : Nat) :
    (∀ {arrays structs : Nat} {cs after : List Nat} {t : Sig},
      parseType fuel arrays structs cs = .ok (t, after) → cs = t.codes ++ after) ∧
    (∀ {arrays structs : Nat} {cs after : List Nat} {fs : List Sig},
      parseFields fuel arrays structs cs = .ok (fs, after) → cs = codesList fs ++ ')'.toNat :: after) := by
  induction fuel with
  | zero => exact ⟨fun parsed => by simp [parseType] at parsed, fun parsed => by simp [parseFields] at parsed⟩
  | succ fuel ih =>
    obtain ⟨typeCodes, fieldsCodes⟩ := ih
    refine ⟨fun parsed => ?_, fun parsed => ?_⟩
    · obtain ⟨c, rest, rfl, -, -, basic | variant | array | dict | struct⟩ := parseType_ok parsed
      · obtain ⟨b, found, rfl, rfl⟩ := basic
        simp [codes, Basic.letter_of_ofCode found]
      · obtain ⟨rfl, rfl, rfl⟩ := variant
        simp [codes]
      · obtain ⟨rfl, -, element, elementParsed, rfl⟩ := array
        simp [codes, typeCodes elementParsed]
      · obtain ⟨rfl, k, afterKey, key, value, rfl, keyFound, valueParsed, rfl⟩ := dict
        simp [codes, typeCodes valueParsed, Basic.letter_of_ofCode keyFound]
      · obtain ⟨rfl, -, fields, fieldsParsed, rfl⟩ := struct
        simp [codes, fieldsCodes fieldsParsed]
    · rcases parseFields_ok parsed with ⟨rfl, rfl⟩ | ⟨-, field, rest, more, fieldParsed, moreParsed, rfl⟩
      · simp [codesList]
      · rw [typeCodes fieldParsed, fieldsCodes moreParsed]
        simp [codesList]

/-- A complete type as the parser builds it: every struct has a field. -/
inductive WellFormed : Sig → Prop
  | basic (b : Basic) : WellFormed (.basic b)
  | variant : WellFormed .variant
  | array {element : Sig} : WellFormed element → WellFormed (.array element)
  | dict (key : Basic) {value : Sig} : WellFormed value → WellFormed (.dict key value)
  | struct {fields : List Sig} : fields ≠ [] → (∀ f ∈ fields, WellFormed f) → WellFormed (.struct fields)

theorem parse_wellFormed (fuel : Nat) :
    (∀ {arrays structs : Nat} {cs after : List Nat} {t : Sig},
      parseType fuel arrays structs cs = .ok (t, after) → t.WellFormed) ∧
    (∀ {arrays structs : Nat} {cs after : List Nat} {fs : List Sig},
      parseFields fuel arrays structs cs = .ok (fs, after) → ∀ f ∈ fs, f.WellFormed) := by
  induction fuel with
  | zero => exact ⟨fun parsed => by simp [parseType] at parsed, fun parsed => by simp [parseFields] at parsed⟩
  | succ fuel ih =>
    obtain ⟨typeFormed, fieldsFormed⟩ := ih
    refine ⟨fun parsed => ?_, fun parsed => ?_⟩
    · obtain ⟨c, rest, rfl, -, -, basic | variant | array | dict | struct⟩ := parseType_ok parsed
      · obtain ⟨b, -, rfl, -⟩ := basic
        exact .basic b
      · obtain ⟨-, rfl, -⟩ := variant
        exact .variant
      · obtain ⟨-, -, element, elementParsed, rfl⟩ := array
        exact .array (typeFormed elementParsed)
      · obtain ⟨-, k, afterKey, key, value, -, -, valueParsed, rfl⟩ := dict
        exact .dict key (typeFormed valueParsed)
      · obtain ⟨-, notClose, fields, fieldsParsed, rfl⟩ := struct
        refine .struct ?_ (fieldsFormed fieldsParsed)
        -- the fields are read with one less fuel; a struct that is not closed at once has a field
        cases fuel with
        | zero => simp [parseFields] at fieldsParsed
        | succ fuel =>
          rcases parseFields_ok fieldsParsed with ⟨rfl, -⟩ | ⟨-, field, _, more, -, -, rfl⟩
          · simp at notClose
          · simp
    · rcases parseFields_ok parsed with ⟨-, rfl⟩ | ⟨-, field, rest, more, fieldParsed, moreParsed, rfl⟩
      · simp
      · rintro f (_ | ⟨_, member⟩)
        · exact typeFormed fieldParsed
        · exact fieldsFormed moreParsed f member

theorem codes_ne_nil (s : Sig) : s.codes ≠ [] := by
  cases s <;> simp [codes]

/-- Reading complete types one after another, with more fuel than codes, reads the codes of what
it returns. -/
theorem parseAll_codes {fuel : Nat} {cs : List Nat} {ts : List Sig} (enough : cs.length < fuel)
    (parsed : parseAll fuel cs = .ok ts) : cs = codesList ts ∧ ∀ t ∈ ts, t.WellFormed := by
  induction fuel generalizing cs ts with
  | zero => omega
  | succ fuel ih =>
    rcases cs with _ | ⟨c, rest⟩
    · simp only [parseAll, Except.ok.injEq] at parsed
      subst parsed
      simp [codesList]
    simp only [parseAll] at parsed
    split at parsed
    · cases parsed
    rename_i t after typeParsed
    split at parsed
    · cases parsed
    rename_i more moreParsed
    cases parsed
    have read := (parse_codes _).1 typeParsed
    have shorter : after.length < fuel := by
      have lengths := congrArg List.length read
      have nonempty : t.codes.length ≠ 0 := by simpa using codes_ne_nil t
      simp only [List.length_append, List.length_cons] at lengths enough
      omega
    obtain ⟨rest, formed⟩ := ih shorter moreParsed
    refine ⟨by rw [read, rest]; rfl, ?_⟩
    rintro u (_ | ⟨_, member⟩)
    · exact (parse_wellFormed _).1 typeParsed
    · exact formed u member

end Sig

/-- A signature that parses is at most 255 code points, the codes of the complete types it
parses to, and these are well formed. -/
theorem Signature.parse_ok {t : Text} {ts : List Sig} (parsed : Signature.parse t = .ok ts) :
    t.length ≤ Sig.maxLength ∧ t.codes = Sig.codesList ts ∧ ∀ s ∈ ts, s.WellFormed := by
  unfold Signature.parse at parsed
  split at parsed
  · cases parsed
  rename_i short
  split at parsed
  · cases parsed
    rename_i all
    exact ⟨by omega, Sig.parseAll_codes (by simp [Text.length]) all⟩
  · cases parsed

theorem Signature.parse_basic_code (b : Basic) : Signature.parse (Sig.basic b).code = .ok [.basic b] := by
  cases b <;> rfl

end MessageBus
