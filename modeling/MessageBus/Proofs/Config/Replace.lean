import Mathlib
import MessageBus.Config.Settings

namespace MessageBus

/-- A converted value as the value its key holds. -/
def Setting.value : Setting → Value
  | .seconds none => .none
  | .seconds (some x) => .float x
  | .size n => .int n
  | .text t => .str t

/-- What a key holds once converted. -/
def Setting.Fits : Key → Setting → Prop
  | .timeout, .seconds x => ∀ y, x = some y → y.nonPositive = false
  | .authTimeout, .seconds x => x.isSome
  | .maxLine, .size n | .maxBuffer, .size n | .readSize, .size n => 0 < n
  | .systemBusAddress, .text _ | .sessionVariable, .text _ => True
  | _, _ => False

namespace Setting.Fits

variable {st : Setting}

theorem timeout (fits : st.Fits .timeout) : ∃ x, st = .seconds x := by
  cases st <;> simp_all [Setting.Fits]

theorem authTimeout (fits : st.Fits .authTimeout) : ∃ x, st = .seconds (some x) := by
  cases st <;> simp_all [Setting.Fits, Option.isSome_iff_exists]

theorem size {k : Key} (fits : st.Fits k) (size : k.kind = .size) : ∃ n, st = .size n := by
  cases k <;> cases st <;> simp_all [Setting.Fits, Key.kind]

theorem text {k : Key} (fits : st.Fits k) (text : k.kind = .text) : ∃ t, st = .text t := by
  cases k <;> cases st <;> simp_all [Setting.Fits, Key.kind]

end Setting.Fits

namespace Key

theorem fits_of_convert {k : Key} {v : Value} {st : Setting} (h : k.convert v = .ok st) :
    st.Fits k := by
  unfold Key.convert at h
  split at h
  · split at h
    · rename_i timeout
      cases h
      rw [beq_iff_eq] at timeout
      subst timeout
      simp [Setting.Fits]
    · cases h
  · split at h
    · split at h
      · cases h
      · cases h
        cases k <;> simp_all [Setting.Fits, Key.kind]
    · split at h
      · cases h
      · split at h
        · cases h
        · cases h
          cases k <;> simp_all [Setting.Fits, Key.kind]
    · split at h <;> cases h <;> cases k <;> simp_all [Setting.Fits, Key.kind]

theorem convert_value_of_fits {k : Key} {st : Setting} (fits : st.Fits k) :
    k.convert st.value = .ok st := by
  cases k <;> cases st <;> simp only [Setting.Fits] at fits
  case timeout.seconds x =>
    cases x with
    | none => rfl
    | some y => simp [Setting.value, Key.convert, Key.kind, Value.toFloat, fits y rfl]
  case authTimeout.seconds x =>
    obtain ⟨y, rfl⟩ := Option.isSome_iff_exists.mp fits
    rfl
  case maxLine.size n | maxBuffer.size n | readSize.size n =>
    simp [Setting.value, Key.convert, Key.kind, Value.toInt, not_le.mpr fits]
  case systemBusAddress.text | sessionVariable.text => rfl

/-- Converting a converted value again gives it back. -/
theorem convert_idempotent {k : Key} {v : Value} {st : Setting} (h : k.convert v = .ok st) :
    k.convert st.value = .ok st :=
  convert_value_of_fits (fits_of_convert h)

theorem ofName?_name (k : Key) : Key.ofName? (Text.ofString k.name) = some k := by
  cases k <;> rfl

end Key

theorem lastValue_append (xs ys : List (Text × Value)) (n : Text) :
    lastValue (xs ++ ys) n = (lastValue ys n).or (lastValue xs n) := by
  unfold lastValue
  rw [List.reverse_append, List.find?_append]
  cases List.find? (·.1 == n) ys.reverse <;> rfl

theorem mem_of_lastValue {xs : List (Text × Value)} {n : Text} {v : Value}
    (last : lastValue xs n = some v) : (n, v) ∈ xs := by
  simp only [lastValue, Option.map_eq_some_iff] at last
  obtain ⟨⟨n', v'⟩, found, rfl⟩ := last
  have named := List.find?_some found
  rw [beq_iff_eq] at named
  subst named
  simpa using List.mem_of_find?_eq_some found

namespace Settings

/-- The converted value a key holds. -/
def setting (s : Settings) : Key → Setting
  | .timeout => .seconds s.timeout
  | .authTimeout => .seconds (some s.authTimeout)
  | .maxLine => .size s.maxLine
  | .maxBuffer => .size s.maxBuffer
  | .readSize => .size s.readSize
  | .systemBusAddress => .text s.systemBusAddress
  | .sessionVariable => .text s.sessionVariable

theorem value_eq_setting (s : Settings) (k : Key) : s.value k = (s.setting k).value := by
  cases k
  case timeout => cases h : s.timeout <;> simp [value, setting, Setting.value, h]
  all_goals rfl

theorem lastValue_values (s : Settings) (k : Key) :
    lastValue s.values (Text.ofString k.name) = some (s.value k) := by
  cases k <;> rfl

/-- The value a key takes from named values: the one named last, or its default. -/
def given (values : List (Text × Value)) (k : Key) : Value :=
  (lastValue values (Text.ofString k.name)).getD k.default

theorem lastValue_getD (values : List (Text × Value)) (k : Key) :
    (lastValue values (Text.ofString k.name)).getD k.default = given values k := rfl

/-- Settings built from named values hold the conversion of the value each key takes. -/
theorem ofValues_setting {values : List (Text × Value)} {s : Settings}
    (h : ofValues values = .ok s) (k : Key) : k.convert (given values k) = .ok (s.setting k) := by
  unfold ofValues at h
  simp only [bind, Except.bind, pure, Except.pure, lastValue_getD] at h
  generalize values.find? (fun p => (Key.ofName? p.1).isNone) = found at h
  generalize c1 : Key.timeout.convert (given values .timeout) = r1 at h
  generalize c2 : Key.authTimeout.convert (given values .authTimeout) = r2 at h
  generalize c3 : Key.maxLine.convert (given values .maxLine) = r3 at h
  generalize c4 : Key.maxBuffer.convert (given values .maxBuffer) = r4 at h
  generalize c5 : Key.readSize.convert (given values .readSize) = r5 at h
  generalize c6 : Key.systemBusAddress.convert (given values .systemBusAddress) = r6 at h
  generalize c7 : Key.sessionVariable.convert (given values .sessionVariable) = r7 at h
  -- in the order the keys are converted: a failure would leave `h` an error, and a success has
  -- the shape of its key, which picks the branch the fold of the results takes
  rcases found with _ | ⟨n, v⟩
  swap; · simp [throw, throwThe, MonadExceptOf.throw] at h
  rcases r1 with e | st1; · simp at h
  obtain ⟨x1, rfl⟩ := (Key.fits_of_convert c1).timeout
  rcases r2 with e | st2; · simp at h
  obtain ⟨x2, rfl⟩ := (Key.fits_of_convert c2).authTimeout
  rcases r3 with e | st3; · simp at h
  obtain ⟨n3, rfl⟩ := (Key.fits_of_convert c3).size rfl
  rcases r4 with e | st4; · simp at h
  obtain ⟨n4, rfl⟩ := (Key.fits_of_convert c4).size rfl
  rcases r5 with e | st5; · simp at h
  obtain ⟨n5, rfl⟩ := (Key.fits_of_convert c5).size rfl
  rcases r6 with e | st6; · simp at h
  obtain ⟨t6, rfl⟩ := (Key.fits_of_convert c6).text rfl
  rcases r7 with e | st7; · simp at h
  obtain ⟨t7, rfl⟩ := (Key.fits_of_convert c7).text rfl
  simp only [Except.ok.injEq] at h
  subst h
  cases k with
  | timeout => exact c1
  | authTimeout => exact c2
  | maxLine => exact c3
  | maxBuffer => exact c4
  | readSize => exact c5
  | systemBusAddress => exact c6
  | sessionVariable => exact c7

/-- Named values that are all keys, each of whose keys takes a value that converts, build
settings. -/
theorem ofValues_ok_of_converts {values : List (Text × Value)}
    (known : values.find? (fun p => (Key.ofName? p.1).isNone) = none)
    (converts : ∀ k : Key, ∃ st, k.convert (given values k) = .ok st) :
    ∃ s, ofValues values = .ok s := by
  obtain ⟨st1, c1⟩ := converts .timeout
  obtain ⟨x1, rfl⟩ := (Key.fits_of_convert c1).timeout
  obtain ⟨st2, c2⟩ := converts .authTimeout
  obtain ⟨x2, rfl⟩ := (Key.fits_of_convert c2).authTimeout
  obtain ⟨st3, c3⟩ := converts .maxLine
  obtain ⟨n3, rfl⟩ := (Key.fits_of_convert c3).size rfl
  obtain ⟨st4, c4⟩ := converts .maxBuffer
  obtain ⟨n4, rfl⟩ := (Key.fits_of_convert c4).size rfl
  obtain ⟨st5, c5⟩ := converts .readSize
  obtain ⟨n5, rfl⟩ := (Key.fits_of_convert c5).size rfl
  obtain ⟨st6, c6⟩ := converts .systemBusAddress
  obtain ⟨t6, rfl⟩ := (Key.fits_of_convert c6).text rfl
  obtain ⟨st7, c7⟩ := converts .sessionVariable
  obtain ⟨t7, rfl⟩ := (Key.fits_of_convert c7).text rfl
  refine ⟨⟨x1, x2, n3, n4, n5, t6, t7⟩, ?_⟩
  simp [ofValues, bind, Except.bind, pure, Except.pure, known, lastValue_getD, c1, c2, c3, c4, c5,
    c6, c7]

theorem given_replace (s : Settings) (changes : List (Text × Value)) (k : Key) :
    given (s.values ++ changes) k =
      (lastValue changes (Text.ofString k.name)).getD (s.value k) := by
  unfold given
  rw [lastValue_append, lastValue_values]
  cases lastValue changes (Text.ofString k.name) <;> rfl

/-- Replacing keys of settings, each named by a change with a value its key takes, gives
settings in which a key named by a change holds the conversion of the value given last, and
every other key holds what it held before; this is because conversion gives a converted value
back. -/
theorem replace_touches_given {vals changes : List (Text × Value)} {s : Settings}
    (built : ofValues vals = .ok s)
    (accepted : ∀ p ∈ changes, ∃ k, Key.ofName? p.1 = some k ∧ ∃ st, k.convert p.2 = .ok st) :
    (∃ s', s.replace changes = .ok s' ∧
      (∀ (k : Key) v, lastValue changes (Text.ofString k.name) = some v →
        (k.convert v).map Setting.value = .ok (s'.value k)) ∧
      ∀ k : Key, lastValue changes (Text.ofString k.name) = none → s'.value k = s.value k) ∧
    ∀ (k : Key) v st, k.convert v = .ok st → k.convert st.value = .ok st := by
  refine ⟨?_, fun k v st h => Key.convert_idempotent h⟩
  have old : ∀ k : Key, k.convert (s.value k) = .ok (s.setting k) := fun k => by
    rw [value_eq_setting]
    exact Key.convert_value_of_fits (Key.fits_of_convert (ofValues_setting built k))
  have new : ∀ (k : Key) v, lastValue changes (Text.ofString k.name) = some v →
      ∃ st, k.convert v = .ok st := by
    intro k v last
    obtain ⟨k', named, st, conv⟩ := accepted _ (mem_of_lastValue last)
    rw [Key.ofName?_name, Option.some_inj] at named
    subst named
    exact ⟨st, conv⟩
  have known : (s.values ++ changes).find? (fun p => (Key.ofName? p.1).isNone) = none := by
    rw [List.find?_eq_none]
    intro p mem
    rcases List.mem_append.mp mem with mem | mem
    · obtain ⟨k, -, rfl⟩ := List.mem_map.mp mem
      simp [Key.ofName?_name]
    · obtain ⟨k, named, -⟩ := accepted p mem
      simp [named]
  obtain ⟨s', replaced⟩ := ofValues_ok_of_converts known fun k => by
    rw [given_replace]
    cases last : lastValue changes (Text.ofString k.name) with
    | some v => exact new k v last
    | none => exact ⟨_, old k⟩
  refine ⟨s', replaced, ?_, ?_⟩
  · intro k v last
    have held := ofValues_setting replaced k
    rw [given_replace, last, Option.getD_some] at held
    rw [held, value_eq_setting]
    rfl
  · intro k last
    have held := ofValues_setting replaced k
    rw [given_replace, last, Option.getD_none, old k] at held
    rw [value_eq_setting, value_eq_setting, (Except.ok.inj held)]

/-- The defaults with the time-out turned off and the line limit given as text. -/
theorem replace_defaults_timeout_off :
    ofValues [] = .ok defaults ∧
    (∀ p ∈ [(Text.ofString "timeout", Value.int (-1)), (Text.ofString "max_line", Value.ofString "12")],
      ∃ k, Key.ofName? p.1 = some k ∧ ∃ st, k.convert p.2 = .ok st) ∧
    ((∃ s', defaults.replace
        [(Text.ofString "timeout", Value.int (-1)), (Text.ofString "max_line", Value.ofString "12")] =
          .ok s' ∧
      (∀ (k : Key) v, lastValue [(Text.ofString "timeout", Value.int (-1)),
          (Text.ofString "max_line", Value.ofString "12")] (Text.ofString k.name) = some v →
        (k.convert v).map Setting.value = .ok (s'.value k)) ∧
      ∀ k : Key, lastValue [(Text.ofString "timeout", Value.int (-1)),
          (Text.ofString "max_line", Value.ofString "12")] (Text.ofString k.name) = none →
        s'.value k = defaults.value k) ∧
    ∀ (k : Key) v st, k.convert v = .ok st → k.convert st.value = .ok st) := by
  have built : ofValues [] = .ok defaults := rfl
  have accepted : ∀ p ∈ [(Text.ofString "timeout", Value.int (-1)),
      (Text.ofString "max_line", Value.ofString "12")],
      ∃ k, Key.ofName? p.1 = some k ∧ ∃ st, k.convert p.2 = .ok st := by
    intro p mem
    simp only [List.mem_cons, List.not_mem_nil, or_false] at mem
    rcases mem with rfl | rfl
    · exact ⟨.timeout, rfl, _, rfl⟩
    · exact ⟨.maxLine, rfl, _, rfl⟩
  exact ⟨built, accepted, replace_touches_given built accepted⟩

end Settings

end MessageBus
