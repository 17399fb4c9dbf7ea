import Mathlib
import MessageBus.Proofs.Wire.Basic

namespace MessageBus

/-- What precedes the `n` octets of an array's contents written at offset `o`: padding to four,
the length word, and padding to the contents' alignment `a`. -/
def arrayHead (order : ByteOrder) (o a n : Nat) : List UInt8 :=
  List.replicate (padding o 4) 0 ++ Word.octets order 4 n ++ List.replicate (padding (o + padding o 4 + 4) a) 0

theorem length_arrayHead (order : ByteOrder) (o a n : Nat) :
    (arrayHead order o a n).length = padding o 4 + 4 + padding (o + padding o 4 + 4) a := by
  simp [arrayHead]
  omega

namespace Writer.Appends

/-- An array or a dictionary: the length word is written over its placeholder once the contents
`B` are known. -/
theorem framed {w w₃ : Writer} {a : Nat} {B : List UInt8}
    (body : (((w.align 4).put [0, 0, 0, 0]).align a).Appends B w₃) :
    w.Appends (arrayHead w.order w.buf.size a B.length ++ B)
      (w₃.patch (w.align 4).buf.size (w₃.buf.size - (((w.align 4).put [0, 0, 0, 0]).align a).buf.size)) := by
  have count : w₃.buf.size - (((w.align 4).put [0, 0, 0, 0]).align a).buf.size = B.length := by
    rw [body.size]; omega
  have placeholder : w₃.buf.toList = (w.buf.toList ++ List.replicate (padding w.buf.size 4) 0) ++ [0, 0, 0, 0] ++
      (List.replicate (padding (w.buf.size + padding w.buf.size 4 + 4) a) 0 ++ B) := by
    rw [body.2]
    simp [ByteArray.size_eq_length, Nat.add_assoc]
  have start : (w.align 4).buf.size = (w.buf.toList ++ List.replicate (padding w.buf.size 4) 0).length := by
    simp [ByteArray.size_eq_length]
  have order : w₃.order = w.order := by
    rw [body.1, order_align, order_put, order_align]
  refine ⟨by rw [order_patch, order], ?_⟩
  rw [count, start, toList_patch w₃ placeholder, order]
  simp [arrayHead]

end Writer.Appends

namespace Frame

/-- The length word and the padding before an array's contents read back, and the contents fit. -/
theorem arrayHead_of_layout {f : Frame} {P B Q : List UInt8} {o a : Nat} (divides : a ∣ 8)
    (residue : P.length % 8 = o % 8) (short : B.length ≤ maxArray)
    (layout : f.data.toList = P ++ (arrayHead f.order o a B.length ++ B) ++ Q) :
    f.word P.length = .ok (B.length, P.length + (padding o 4 + 4)) ∧
    f.align (P.length + (padding o 4 + 4)) a = .ok (P ++ arrayHead f.order o a B.length).length ∧
    f.need (P ++ arrayHead f.order o a B.length).length B.length = .ok () := by
  have size := size_of_layout layout
  simp only [List.length_append, length_arrayHead] at size
  have word := unsigned_of_layout (E := Word.octets f.order 4 B.length)
    (Q := List.replicate (padding (o + padding o 4 + 4) a) 0 ++ B ++ Q) (by rw [layout]; simp [arrayHead])
    residue (show 4 ∣ 8 by decide) (by simp)
  rw [Word.value_octets, Nat.mod_eq_of_lt (by unfold maxArray at short; omega)] at word
  have pad : padding (P.length + (padding o 4 + 4)) a = padding (o + padding o 4 + 4) a :=
    padding_congr divides (by omega)
  refine ⟨word, ?_, need_ok ?_⟩
  · rw [align_ok (by rw [pad]; omega), pad]
    simp [length_arrayHead]
    omega
  · simp [length_arrayHead]
    omega

theorem read_basic {f : Frame} {d : Nat} (b : Basic) (at_ : Nat) (shallow : d ≤ maxNesting) :
    f.read d (.basic b) at_ = f.basic b at_ := by
  rw [read, dif_neg (by omega)]

end Frame

theorem Sig.alignment_dvd (s : Sig) : s.alignment ∣ 8 := by
  cases s with
  | basic b => cases b <;> decide
  | _ => simp [Sig.alignment]

/-- The writer's shape for arrays and dictionaries: when it succeeds, the contents were written
after the length word and padding to `a`, and took at most `maxArray` octets. -/
theorem Writer.framed_ok {w w' : Writer} {a : Nat} {body : Except EncodeError Writer}
    (written : (match body with
      | .error e => (Except.error e : Except EncodeError Writer)
      | .ok w₃ =>
        if w₃.buf.size - (((w.align 4).put [0, 0, 0, 0]).align a).buf.size > maxArray then
          Except.error (.arrayTooLong (w₃.buf.size - (((w.align 4).put [0, 0, 0, 0]).align a).buf.size))
        else Except.ok (w₃.patch (w.align 4).buf.size (w₃.buf.size - (((w.align 4).put [0, 0, 0, 0]).align a).buf.size))) =
      .ok w') :
    ∃ w₃, body = .ok w₃ ∧ w₃.buf.size - (((w.align 4).put [0, 0, 0, 0]).align a).buf.size ≤ maxArray ∧
      w' = w₃.patch (w.align 4).buf.size (w₃.buf.size - (((w.align 4).put [0, 0, 0, 0]).align a).buf.size) := by
  split at written
  · cases written
  rename_i w₃
  split at written
  · cases written
  cases written
  exact ⟨w₃, rfl, by omega, rfl⟩

theorem Writer.size_head (w : Writer) (a : Nat) :
    (((w.align 4).put [0, 0, 0, 0]).align a).buf.size = w.buf.size + (padding w.buf.size 4 + 4 + padding (w.buf.size + padding w.buf.size 4 + 4) a) := by
  simp [ByteArray.size_eq_length, Nat.add_assoc]
  omega

/-- Writing `v` as `s`, from any writer where it succeeds, appends octets, at least one, that read
back as the normal form of `v`. -/
def WritesBack (s : Sig) (v : Value) : Prop :=
  ∀ ⦃w w' : Writer⦄, w.write s v = .ok w' → ∃ E, w.Appends E w' ∧ E ≠ [] ∧ ReadsBack w.order w.buf.size s v E

/-- Array elements written at offset `o` as the octets `E` read back as their normal forms: up to
the end of `E`, with more fuel than octets, at a depth that leaves room for each element's
nesting. -/
def ItemsReadBack (order : ByteOrder) (o : Nat) (s : Sig) (xs : List Value) (E : List UInt8) : Prop :=
  ∀ {d fuel : Nat} {f : Frame} {P Q : List UInt8}, (∀ x ∈ xs, d + s.nesting x ≤ maxNesting) → E.length < fuel →
    f.order = order → f.data.toList = P ++ E ++ Q → P.length % 8 = o % 8 →
    f.readItems d s (P.length + E.length) fuel P.length = .ok (Sig.normalEach s xs, P.length + E.length)

/-- Reading the elements of `x :: rest`, where `x` takes `E₁`, reads `x` and then the rest. -/
theorem Frame.readItems_cons {f : Frame} {d stop fuel at_ n : Nat} {s : Sig} {x : Value}
    {rest : List Value × Nat} (before : at_ < stop) (first : f.read d s at_ = .ok (x, n))
    (later : f.readItems d s stop fuel n = .ok rest) :
    f.readItems d s stop (fuel + 1) at_ = .ok (x :: rest.1, rest.2) := by
  rw [Frame.readItems, if_pos before]
  simp [first, later]

/-- Dictionary entries written at offset `o` as the octets `E` read back as their normal forms,
inserted one after another into the entries `R` read before them. -/
def EntriesReadBack (order : ByteOrder) (o : Nat) (key : Basic) (value : Sig) (entries : List (Value × Value))
    (E : List UInt8) : Prop :=
  ∀ {d fuel : Nat} {f : Frame} {P Q : List UInt8} {R : List (Value × Value)},
    (∀ e ∈ entries, d + value.nesting e.2 ≤ maxNesting) → E.length < fuel → f.order = order →
    f.data.toList = P ++ E ++ Q → P.length % 8 = o % 8 →
    f.readEntries d key value (P.length + E.length) fuel R P.length =
      .ok ((Sig.normalEntries key value entries).foldl (fun acc e => Value.insertEntry acc e.1 e.2) R,
        P.length + E.length)

/-- Struct fields written at offset `o` as the octets `E` read back as their normal forms. -/
def FieldsReadBack (order : ByteOrder) (o : Nat) (fields : List Sig) (xs : List Value) (E : List UInt8) : Prop :=
  ∀ {d : Nat} {f : Frame} {P Q : List UInt8}, (∀ pair ∈ fields.zip xs, d + pair.1.nesting pair.2 ≤ maxNesting) →
    f.order = order → f.data.toList = P ++ E ++ Q → P.length % 8 = o % 8 →
    f.readFields d fields P.length = .ok (Sig.normalFields fields xs, P.length + E.length)

theorem Frame.readEntries_cons {f : Frame} {d stop fuel at_ start n m : Nat} {key : Basic} {value : Sig}
    {k x : Value} {acc : List (Value × Value)} {rest : List (Value × Value) × Nat} (before : at_ < stop)
    (aligned : f.align at_ 8 = .ok start) (readKey : f.read d (.basic key) start = .ok (k, n))
    (readValue : f.read d value n = .ok (x, m))
    (later : f.readEntries d key value stop fuel (Value.insertEntry acc k x) m = .ok rest) :
    f.readEntries d key value stop (fuel + 1) acc at_ = .ok rest := by
  rw [Frame.readEntries, if_pos before]
  simp [aligned, readKey, readValue, later]

theorem Frame.readFields_cons {f : Frame} {d at_ n : Nat} {s : Sig} {fields : List Sig} {x : Value}
    {rest : List Value × Nat} (first : f.read d s at_ = .ok (x, n)) (later : f.readFields d fields n = .ok rest) :
    f.readFields d (s :: fields) at_ = .ok (x :: rest.1, rest.2) := by
  rw [Frame.readFields]
  simp [first, later]

namespace Writer

theorem writeEach_readsBack {s : Sig} {xs : List Value} (each : ∀ x ∈ xs, WritesBack s x) :
    ∀ {w w' : Writer}, w.writeEach s xs = .ok w' →
      ∃ E, w.Appends E w' ∧ xs.length ≤ E.length ∧ ItemsReadBack w.order w.buf.size s xs E := by
  induction xs with
  | nil =>
    intro w w' written
    unfold writeEach at written
    cases written
    refine ⟨[], ⟨rfl, by simp⟩, le_refl _, @fun d fuel f P Q deep more order layout residue => ?_⟩
    obtain ⟨fuel, rfl⟩ : ∃ k, fuel = k + 1 := ⟨fuel - 1, by simp at more; omega⟩
    simp [Frame.readItems, Sig.normalEach]
  | cons x rest ih =>
    intro w w' written
    unfold writeEach at written
    split at written
    · cases written
    rename_i w₁ first
    obtain ⟨E₁, app₁, nonempty, back₁⟩ := each x List.mem_cons_self first
    obtain ⟨E₂, app₂, count, back₂⟩ := ih (fun y member => each y (List.mem_cons_of_mem _ member)) written
    have wide := List.length_pos_of_ne_nil nonempty
    refine ⟨E₁ ++ E₂, app₁.trans app₂, by simp; omega, @fun d fuel f P Q deep more order layout residue => ?_⟩
    simp only [List.length_append] at more ⊢
    obtain ⟨fuel, rfl⟩ : ∃ k, fuel = k + 1 := ⟨fuel - 1, by omega⟩
    have readX := back₁ (P := P) (Q := E₂ ++ Q) (deep x List.mem_cons_self) order (by simp [layout]) residue
    have readRest := back₂ (P := P ++ E₁) (Q := Q) (fun y member => deep y (List.mem_cons_of_mem _ member))
      (show E₂.length < fuel by omega) (app₁.1 ▸ order) (by simp [layout])
      (by rw [app₁.size]; simp only [List.length_append]; omega)
    simp only [List.length_append, Nat.add_assoc] at readRest
    rw [Frame.readItems_cons (by omega) readX readRest, Sig.normalEach]

theorem writeEntries_readsBack {key : Basic} {value : Sig} {entries : List (Value × Value)}
    (each : ∀ e ∈ entries, WritesBack (.basic key) e.1 ∧ WritesBack value e.2) :
    ∀ {w w' : Writer}, w.writeEntries key value entries = .ok w' →
      ∃ E, w.Appends E w' ∧ entries.length ≤ E.length ∧ EntriesReadBack w.order w.buf.size key value entries E := by
  induction entries with
  | nil =>
    intro w w' written
    unfold writeEntries at written
    cases written
    refine ⟨[], ⟨rfl, by simp⟩, le_refl _, @fun d fuel f P Q R deep more order layout residue => ?_⟩
    obtain ⟨fuel, rfl⟩ : ∃ k, fuel = k + 1 := ⟨fuel - 1, by simp at more; omega⟩
    simp [Frame.readEntries, Sig.normalEntries]
  | cons entry rest ih =>
    obtain ⟨k, x⟩ := entry
    intro w w' written
    unfold writeEntries at written
    split at written
    · cases written
    rename_i w₁ keyWritten
    split at written
    · cases written
    rename_i w₂ valueWritten
    obtain ⟨Ek, appk, nonempty, backk⟩ := (each (k, x) List.mem_cons_self).1 keyWritten
    obtain ⟨Ex, appx, -, backx⟩ := (each (k, x) List.mem_cons_self).2 valueWritten
    obtain ⟨Er, appr, count, backr⟩ := ih (fun e member => each e (List.mem_cons_of_mem _ member)) written
    have wide := List.length_pos_of_ne_nil nonempty
    have appPad := Appends.align w 8
    refine ⟨List.replicate (padding w.buf.size 8) 0 ++ Ek ++ Ex ++ Er, ((appPad.trans appk).trans appx).trans appr,
      by simp; omega, @fun d fuel f P Q R deep more order layout residue => ?_⟩
    simp only [List.length_append, List.length_replicate] at more ⊢
    obtain ⟨fuel, rfl⟩ : ∃ k, fuel = k + 1 := ⟨fuel - 1, by omega⟩
    have first := deep (k, x) List.mem_cons_self
    have pad : padding P.length 8 = padding w.buf.size 8 := padding_congr (dvd_refl 8) residue
    have size := Frame.size_of_layout layout
    simp only [List.length_append, List.length_replicate] at size
    have aligned : f.align P.length 8 = .ok (P.length + padding w.buf.size 8) := by
      rw [Frame.align_ok (by omega), pad]
    have readKey := backk (d := d) (P := P ++ List.replicate (padding w.buf.size 8) 0) (Q := Ex ++ Er ++ Q)
      (by simp only [Sig.nesting_basic]; omega) (order.trans appPad.1.symm) (by simp [layout])
      (by rw [appPad.size]; simp only [List.length_append, List.length_replicate]; omega)
    have readValue := backx (d := d) (P := P ++ List.replicate (padding w.buf.size 8) 0 ++ Ek) (Q := Er ++ Q)
      first (by rw [appk.1, appPad.1, order]) (by simp [layout])
      (by rw [appk.size, appPad.size]; simp only [List.length_append, List.length_replicate]; omega)
    have readRest := backr (P := P ++ List.replicate (padding w.buf.size 8) 0 ++ Ek ++ Ex) (Q := Q)
      (R := Value.insertEntry R ((Sig.basic key).normal k) (value.normal x))
      (fun e member => deep e (List.mem_cons_of_mem _ member)) (show Er.length < fuel by omega)
      (by rw [appx.1, appk.1, appPad.1, order]) (by simp [layout])
      (by rw [appx.size, appk.size, appPad.size]; simp only [List.length_append, List.length_replicate]; omega)
    simp only [List.length_append, List.length_replicate] at readKey readValue readRest
    rw [Sig.normalEntries, List.foldl_cons]
    refine Frame.readEntries_cons (by omega) aligned readKey readValue ?_
    simpa only [Nat.add_assoc] using readRest

theorem writeFields_readsBack {fields : List Sig} {xs : List Value} (same : fields.length = xs.length)
    (each : ∀ pair ∈ fields.zip xs, WritesBack pair.1 pair.2) :
    ∀ {w w' : Writer}, w.writeFields fields xs = .ok w' →
      ∃ E, w.Appends E w' ∧ (fields ≠ [] → E ≠ []) ∧ FieldsReadBack w.order w.buf.size fields xs E := by
  induction fields generalizing xs with
  | nil =>
    intro w w' written
    unfold writeFields at written
    cases written
    refine ⟨[], ⟨rfl, by simp⟩, fun nonempty => (nonempty rfl).elim, @fun d f P Q deep order layout residue => ?_⟩
    simp [Frame.readFields, Sig.normalFields]
  | cons s fs ih =>
    cases xs with
    | nil => simp at same
    | cons x rest =>
      intro w w' written
      unfold writeFields at written
      split at written
      · cases written
      rename_i w₁ first
      obtain ⟨E₁, app₁, nonempty, back₁⟩ := each (s, x) (by simp)
        first
      obtain ⟨E₂, app₂, -, back₂⟩ := ih (show fs.length = rest.length by simpa using same)
        (fun pair member => each pair (by simp [member])) written
      refine ⟨E₁ ++ E₂, app₁.trans app₂, fun _ => by simp [nonempty], @fun d f P Q deep order layout residue => ?_⟩
      have readX := back₁ (P := P) (Q := E₂ ++ Q) (deep (s, x) (by simp)) order (by simp [layout]) residue
      have readRest := back₂ (P := P ++ E₁) (Q := Q) (fun pair member => deep pair (by simp [member]))
        (app₁.1 ▸ order) (by simp [layout]) (by rw [app₁.size]; simp only [List.length_append]; omega)
      simp only [List.length_append, Nat.add_assoc] at readRest
      rw [Frame.readFields_cons readX readRest, Sig.normalFields, List.length_append]

/-- A byte that checks is one octet. -/
theorem signedOctets_byte (order : ByteOrder) {n : Int} (low : 0 ≤ n) (high : n ≤ 0xFF) :
    Word.signedOctets order 1 n = [Value.octet (.int n)] := by
  have small : n.toNat < 256 := by omega
  cases order <;> simp [Word.signedOctets, Word.octets, Word.octetsLE, Value.octet, Int.emod_eq_of_lt low
    (show n < 256 by omega), Nat.mod_eq_of_lt small]

/-- The elements of an `ay` list are written as one octet each. -/
theorem writeEach_bytes {xs : List Value} (checked : ∀ x ∈ xs, (Sig.basic .byte).check x = .ok ()) :
    ∀ {w w' : Writer}, w.writeEach (.basic .byte) xs = .ok w' → w.Appends (xs.map Value.octet) w' := by
  induction xs with
  | nil =>
    intro w w' written
    unfold writeEach at written
    cases written
    exact ⟨rfl, by simp⟩
  | cons x rest ih =>
    intro w w' written
    unfold writeEach at written
    split at written
    · cases written
    rename_i w₁ first
    obtain ⟨low, high, n, range, rfl, above, below⟩ : ∃ low high n, Basic.byte.range? = some (low, high) ∧
        x = .int n ∧ low ≤ n ∧ n ≤ high := by
      rcases Sig.check_basic (checked x List.mem_cons_self) with found | ⟨no, -⟩ | ⟨no, -⟩ | ⟨no | no, -⟩ | ⟨no, -⟩
      · exact found
      all_goals cases no
    simp only [Basic.range?, Option.some.injEq, Prod.mk.injEq] at range
    obtain ⟨rfl, rfl⟩ := range
    rw [write_basic_int w (show Basic.byte.range? = some (0, 0xFF) from rfl)] at first
    obtain ⟨-, -, width, -, wide, -, -, app₁⟩ := integer_ok first
    simp only [Basic.width?, Option.some.injEq] at wide
    subst wide
    rw [padding_eq_zero (Nat.mod_one _), List.replicate_zero, List.nil_append, signedOctets_byte _ above below]
      at app₁
    exact app₁.trans (ih (fun y member => checked y (List.mem_cons_of_mem _ member)) written)

end Writer

/-- A variant is its signature and then its contents, one level deeper. -/
theorem writesBack_variant {sig : Text} {t : Sig} {inner : Value} (parsed : Signature.parse sig = .ok [t])
    (contents : WritesBack t inner) : WritesBack .variant (.variant (.str sig) inner) := by
  intro w w' written
  unfold Writer.write at written
  simp only [parsed] at written
  obtain ⟨E, app, -, reads⟩ := contents written
  obtain ⟨short, codes, -⟩ := Signature.parse_ok parsed
  have ascii : ∀ c ∈ sig.codes, c < 128 := by rw [codes]; exact Sig.codesList_lt [t]
  have appSig : w.Appends ((sig.length % 256).toUInt8 :: sig.codes.map Nat.toUInt8 ++ [0]) (w.signature sig) :=
    (Writer.Appends.put _ _).trans (.put _ [0])
  refine ⟨_, appSig.trans app, by simp, @fun d f P Q deep order layout residue => ?_⟩
  rw [Sig.nesting_variant parsed] at deep
  have readSig := Frame.signatureText_of_layout (f := f) (P := P) (Q := E ++ Q)
    (by simpa [Sig.maxLength] using short) ascii (by rw [layout]; simp)
  have readInner := reads (d := d + 1) (P := P ++ ((sig.length % 256).toUInt8 :: sig.codes.map Nat.toUInt8 ++ [0]))
    (Q := Q) (by omega) (by rw [order]; rfl) (by rw [layout]; simp)
    (by rw [appSig.size]; simp only [List.length_append, List.length_cons, List.length_map]; omega)
  simp only [List.length_append, List.length_cons, List.length_map] at readInner
  rw [Frame.read, dif_neg (by omega)]
  simp only [readSig, Except.ok_bind, parsed]
  simp at readInner
  simp [readInner, Sig.normal_variant parsed, Text.length]
  omega

/-- Writing an array from a list appends its head and then its elements, which read back as
elements. -/
theorem Writer.write_array {w w' : Writer} {element : Sig} {v : Value} {xs : List Value}
    (seq : v = .list xs ∨ v = .tuple xs) (each : ∀ x ∈ xs, WritesBack element x)
    (written : w.write (.array element) v = .ok w') :
    ∃ B, w.Appends (arrayHead w.order w.buf.size element.alignment B.length ++ B) w' ∧ B.length ≤ maxArray ∧
      ItemsReadBack w.order (w.buf.size + (arrayHead w.order w.buf.size element.alignment B.length).length)
        element xs B := by
  unfold Writer.write at written
  obtain ⟨w₃, body, short, rfl⟩ := Writer.framed_ok written
  clear written
  have elements : (((w.align 4).put [0, 0, 0, 0]).align element.alignment).writeEach element xs = .ok w₃ := by
    rcases seq with rfl | rfl <;> simpa using body
  obtain ⟨B, app, -, items⟩ := Writer.writeEach_readsBack each elements
  refine ⟨B, Writer.Appends.framed app, by rw [app.size] at short; omega, ?_⟩
  rw [length_arrayHead, ← Writer.size_head]
  rw [Writer.order_align, Writer.order_put, Writer.order_align] at items
  exact items

/-- An array of elements other than bytes: its length word, padding to the element's alignment,
and the elements one level deeper. -/
theorem writesBack_array {element : Sig} {v : Value} {xs : List Value} (notByte : element ≠ .basic .byte)
    (seq : v = .list xs ∨ v = .tuple xs) (each : ∀ x ∈ xs, WritesBack element x) : WritesBack (.array element) v := by
  intro w w' written
  obtain ⟨B, app, short, items⟩ := Writer.write_array seq each written
  refine ⟨_, app, List.ne_nil_of_length_pos (by rw [List.length_append, length_arrayHead]; omega),
    @fun d f P Q deep order layout residue => ?_⟩
  rw [Sig.nesting_array notByte seq] at deep
  rw [← order] at layout
  obtain ⟨word, aligned, room⟩ := Frame.arrayHead_of_layout (element.alignment_dvd) residue short (by simpa using layout)
  have readItems := items (d := d + 1) (P := P ++ arrayHead f.order w.buf.size element.alignment B.length)
    (Q := Q) (fun x member => by have := Sig.nesting_lt_nestingEach (s := element) member; omega)
    (show B.length < B.length + 1 by omega) order (by rw [layout]; simp)
    (by rw [order]; simp only [List.length_append]; omega)
  rw [Frame.read, dif_neg (by omega)]
  simp only [word, aligned, room, Except.ok_bind]
  rw [if_neg (by omega), readItems]
  simp [Sig.normal_array notByte seq, order, Nat.add_assoc]

/-- An `ay` array is its length word and its octets, which read back whole as a byte string. -/
theorem writesBack_byteArray {w w₃ : Writer} {v : Value} {B : List UInt8}
    (app : (((w.align 4).put [0, 0, 0, 0]).align (Sig.basic .byte).alignment).Appends B w₃)
    (short : w₃.buf.size - (((w.align 4).put [0, 0, 0, 0]).align (Sig.basic .byte).alignment).buf.size ≤ maxArray)
    (normal : (Sig.array (.basic .byte)).normal v = .bytes ⟨B.toArray⟩) :
    ∃ E, w.Appends E (w₃.patch (w.align 4).buf.size
        (w₃.buf.size - (((w.align 4).put [0, 0, 0, 0]).align (Sig.basic .byte).alignment).buf.size)) ∧
      E ≠ [] ∧ ReadsBack w.order w.buf.size (.array (.basic .byte)) v E := by
  have short : B.length ≤ maxArray := by rw [app.size] at short; omega
  refine ⟨_, Writer.Appends.framed app, List.ne_nil_of_length_pos (by rw [List.length_append, length_arrayHead]; omega),
    @fun d f P Q deep order layout residue => ?_⟩
  rw [Sig.nesting_bytes] at deep
  rw [← order] at layout
  obtain ⟨word, aligned, room⟩ := Frame.arrayHead_of_layout (Sig.alignment_dvd _) residue short (by simpa using layout)
  have contents : f.data.extract (P ++ arrayHead f.order w.buf.size (Sig.basic .byte).alignment B.length).length
      ((P ++ arrayHead f.order w.buf.size (Sig.basic .byte).alignment B.length).length + B.length) = ⟨B.toArray⟩ := by
    apply ByteArray.eq_of_toList
    rw [ByteArray.toList_extract, layout, ByteArray.toList_eq_data]
    simp
  rw [order] at contents
  simp only [List.length_append, Nat.add_assoc] at contents
  rw [Frame.read, dif_neg (by omega)]
  simp only [word, aligned, room, Except.ok_bind]
  rw [if_neg (by omega)]
  simp [contents, normal, order, Nat.add_assoc]

theorem writesBack_bytes (b : ByteArray) : WritesBack (.array (.basic .byte)) (.bytes b) := by
  intro w w' written
  unfold Writer.write at written
  simp only at written
  split at written
  · cases written
  rename_i short
  cases written
  have app : (((w.align 4).put [0, 0, 0, 0]).align (Sig.basic .byte).alignment).Appends b.toList
      { order := (((w.align 4).put [0, 0, 0, 0]).align (Sig.basic .byte).alignment).order,
        buf := (((w.align 4).put [0, 0, 0, 0]).align (Sig.basic .byte).alignment).buf ++ b } := ⟨rfl, by simp⟩
  refine writesBack_byteArray app (Nat.le_of_not_lt short) ?_
  rw [Sig.normal_bytes, ByteArray.toList_eq_data]

/-- An `ay` array no longer than an array may be is written as its head and its octets. -/
theorem Writer.write_bytes (w : Writer) {b : ByteArray} (short : b.size ≤ maxArray) :
    ∃ w', w.write (.array (.basic .byte)) (.bytes b) = .ok w' ∧
      w.Appends (arrayHead w.order w.buf.size 1 b.size ++ b.toList) w' := by
  have app : (((w.align 4).put [0, 0, 0, 0]).align (Sig.basic .byte).alignment).Appends b.toList
      { order := (((w.align 4).put [0, 0, 0, 0]).align (Sig.basic .byte).alignment).order,
        buf := (((w.align 4).put [0, 0, 0, 0]).align (Sig.basic .byte).alignment).buf ++ b } := ⟨rfl, by simp⟩
  have length : b.toList.length ≤ maxArray := by rwa [← ByteArray.size_eq_length]
  unfold Writer.write
  simp only
  rw [if_neg (by rw [app.size]; omega), ByteArray.size_eq_length b]
  exact ⟨_, rfl, Writer.Appends.framed app⟩

theorem writesBack_byteList {v : Value} {xs : List Value} (seq : v = .list xs ∨ v = .tuple xs)
    (checked : ∀ x ∈ xs, (Sig.basic .byte).check x = .ok ()) : WritesBack (.array (.basic .byte)) v := by
  intro w w' written
  unfold Writer.write at written
  obtain ⟨w₃, body, short, rfl⟩ := Writer.framed_ok written
  clear written
  have elements : (((w.align 4).put [0, 0, 0, 0]).align (Sig.basic .byte).alignment).writeEach (.basic .byte) xs =
      .ok w₃ := by
    rcases seq with rfl | rfl <;> simpa using body
  exact writesBack_byteArray (Writer.writeEach_bytes checked elements) short (Sig.normal_bytes_of_seq seq)

/-- A dictionary is its length word, padding to eight, and the entries one level deeper. -/
theorem writesBack_dict {key : Basic} {value : Sig} {entries : List (Value × Value)}
    (each : ∀ e ∈ entries, WritesBack (.basic key) e.1 ∧ WritesBack value e.2) :
    WritesBack (.dict key value) (.dict entries) := by
  intro w w' written
  unfold Writer.write at written
  obtain ⟨w₃, body, short, rfl⟩ := Writer.framed_ok written
  clear written
  obtain ⟨B, app, -, back⟩ := Writer.writeEntries_readsBack each body
  have short : B.length ≤ maxArray := by rw [app.size] at short; omega
  refine ⟨_, Writer.Appends.framed app, List.ne_nil_of_length_pos (by rw [List.length_append, length_arrayHead]; omega),
    @fun d f P Q deep order layout residue => ?_⟩
  rw [Sig.nesting_dict] at deep
  rw [← order] at layout
  obtain ⟨word, aligned, room⟩ := Frame.arrayHead_of_layout (a := 8) (by decide) residue short (by simpa using layout)
  have readEntries := back (d := d + 1) (P := P ++ arrayHead f.order w.buf.size 8 B.length) (Q := Q) (R := [])
    (fun e member => by
      have : value.nesting e.2 < Sig.nestingEntries key value entries := Sig.nesting_lt_nestingEntries member
      omega)
    (show B.length < B.length + 1 by omega) (by rw [order]; simp) (by rw [layout]; simp)
    (by rw [Writer.size_head]; simp only [List.length_append, length_arrayHead]; omega)
  rw [Frame.read, dif_neg (by omega)]
  simp only [word, aligned, room, Except.ok_bind]
  rw [if_neg (by omega), readEntries]
  simp [Sig.normal_dict, Value.dictOf, order, Nat.add_assoc]

/-- A struct is padding to eight and its fields one level deeper. -/
theorem writesBack_struct {fields : List Sig} {v : Value} {xs : List Value} (nonempty : fields ≠ [])
    (seq : v = .list xs ∨ v = .tuple xs) (same : fields.length = xs.length)
    (each : ∀ pair ∈ fields.zip xs, WritesBack pair.1 pair.2) : WritesBack (.struct fields) v := by
  intro w w' written
  have body : (w.align 8).writeFields fields xs = .ok w' := by
    rcases seq with rfl | rfl <;> (unfold Writer.write at written; exact written)
  obtain ⟨F, app, wide, back⟩ := Writer.writeFields_readsBack same each body
  have appPad := Writer.Appends.align w 8
  refine ⟨_, appPad.trans app, by simp [wide nonempty], @fun d f P Q deep order layout residue => ?_⟩
  rw [Sig.nesting_struct fields seq] at deep
  have size := Frame.size_of_layout layout
  simp only [List.length_append, List.length_replicate] at size
  have pad : padding P.length 8 = padding w.buf.size 8 := padding_congr (dvd_refl 8) residue
  have aligned : f.align P.length 8 = .ok (P.length + padding w.buf.size 8) := by
    rw [Frame.align_ok (by omega), pad]
  have readFields := back (d := d + 1) (P := P ++ List.replicate (padding w.buf.size 8) 0) (Q := Q)
    (fun pair member => by have := Sig.nesting_lt_nestingFields member; omega) (by rw [order]; rfl)
    (by rw [layout]; simp) (by rw [appPad.size]; simp only [List.length_append, List.length_replicate]; omega)
  rw [Frame.read, dif_neg (by omega)]
  simp only [List.length_append, List.length_replicate] at readFields
  simp [aligned, readFields, Sig.normal_struct fields seq, Nat.add_assoc]

theorem writesBack_basic {b : Basic} {v : Value} (checked : (Sig.basic b).check v = .ok ()) :
    WritesBack (.basic b) v := by
  intro w w' written
  obtain ⟨E, app, nonempty, reads⟩ := Writer.writesBasic written checked
  refine ⟨E, app, nonempty, @fun d f P Q deep order layout residue => ?_⟩
  rw [Frame.read_basic b _ (by simpa using deep)]
  exact reads order layout residue

theorem Value.sizeOf_lt_of_seq {v x : Value} {xs : List Value} (seq : v = .list xs ∨ v = .tuple xs)
    (member : x ∈ xs) : sizeOf x < sizeOf v := by
  have := List.sizeOf_lt_of_mem member
  rcases seq with rfl | rfl <;> simp <;> omega

theorem Value.sizeOf_lt_of_entry {e : Value × Value} {entries : List (Value × Value)} (member : e ∈ entries) :
    sizeOf e.1 < sizeOf (Value.dict entries) ∧ sizeOf e.2 < sizeOf (Value.dict entries) := by
  have := List.sizeOf_lt_of_mem member
  obtain ⟨k, x⟩ := e
  simp at this ⊢
  omega

/-- Every value that checks against a well-formed complete type is written as octets that read
back as its normal form. -/
theorem writesBack {s : Sig} {v : Value} (formed : s.WellFormed) (checked : s.check v = .ok ()) :
    WritesBack s v := by
  cases formed with
  | basic b => exact writesBack_basic checked
  | variant =>
    obtain ⟨sig, inner, t, rfl, parsed, innerChecked⟩ := Sig.check_variant checked
    have formedInner : t.WellFormed := (Signature.parse_ok parsed).2.2 t (List.mem_singleton_self t)
    exact writesBack_variant parsed (writesBack formedInner innerChecked)
  | array formed =>
    rename_i element
    rcases Sig.check_array checked with ⟨xs, seq, each⟩ | ⟨rfl, b, rfl⟩
    · by_cases byte : element = .basic .byte
      · subst byte
        exact writesBack_byteList seq each
      · exact writesBack_array byte seq (fun x member => writesBack formed (each x member))
    · exact writesBack_bytes b
  | dict key formed =>
    obtain ⟨entries, rfl, each⟩ := Sig.check_dict checked
    exact writesBack_dict fun e member =>
      ⟨writesBack (.basic key) (each e member).1, writesBack formed (each e member).2⟩
  | struct nonempty formed =>
    obtain ⟨xs, seq, same, each⟩ := Sig.check_struct checked
    exact writesBack_struct nonempty seq same fun pair member =>
      writesBack (formed pair.1 (List.of_mem_zip member).1) (each pair member)
termination_by sizeOf v
decreasing_by
  all_goals subst_vars
  all_goals first
    | exact Value.sizeOf_lt_of_seq seq member
    | exact Value.sizeOf_lt_of_seq seq (List.of_mem_zip member).2
    | exact (Value.sizeOf_lt_of_entry member).1
    | exact (Value.sizeOf_lt_of_entry member).2
    | simp

/-- A value written by any writer reads back, from the offset where writing started, as its normal
form, whatever octets follow, and reading stops where writing stopped. The type is one that a
signature reads, the value checks against it, and reading at depth `d` leaves room for the
value's nesting. -/
theorem Writer.read_after_write {sig : Text} {ts : List Sig} (parsed : Signature.parse sig = .ok ts)
    {t : Sig} (member : t ∈ ts) {v : Value} (checked : t.check v = .ok ()) {d : Nat} (room : d + t.nesting v ≤ maxNesting) {w w' : Writer} (written : w.write t v = .ok w')
    (R : ByteArray) : (Frame.mk (w'.buf ++ R) w.order).read d t w.buf.size = .ok (t.normal v, w'.buf.size) := by
  obtain ⟨E, appends, -, reads⟩ := writesBack ((Signature.parse_ok parsed).2.2 t member) checked written
  have layout : (w'.buf ++ R).toList = w.buf.toList ++ E ++ R.toList := by
    rw [ByteArray.toList_append', appends.2]
  have read := reads (d := d) (f := ⟨w'.buf ++ R, w.order⟩) room rfl layout (by rw [ByteArray.size_eq_length])
  rw [← ByteArray.size_eq_length] at read
  rwa [appends.size]

set_option maxRecDepth 100000 in
/-- The array `[1, 2]` of `ai`, written after one octet, reads back from there up to its end. -/
theorem Writer.read_after_write_array :
    Signature.parse (Text.ofString "ai") = .ok [.array (.basic .int32)] ∧
      (Writer.mk .little ⟨#[7]⟩).write (.array (.basic .int32)) (.list [.int 1, .int 2]) =
        .ok ⟨.little, ⟨#[7, 0, 0, 0, 8, 0, 0, 0, 1, 0, 0, 0, 2, 0, 0, 0]⟩⟩ ∧
      (Frame.mk (⟨#[7, 0, 0, 0, 8, 0, 0, 0, 1, 0, 0, 0, 2, 0, 0, 0]⟩ ++ ⟨#[9]⟩) .little).read 0
          (.array (.basic .int32)) 1 = .ok ((Sig.array (.basic .int32)).normal (.list [.int 1, .int 2]), 16) := by
  have parsed : Signature.parse (Text.ofString "ai") = .ok [.array (.basic .int32)] := by rfl
  have written : (Writer.mk .little ⟨#[7]⟩).write (.array (.basic .int32)) (.list [.int 1, .int 2]) =
      .ok ⟨.little, ⟨#[7, 0, 0, 0, 8, 0, 0, 0, 1, 0, 0, 0, 2, 0, 0, 0]⟩⟩ := by
    with_unfolding_all rfl
  have checked : (Sig.array (.basic .int32)).check (.list [.int 1, .int 2]) = .ok () := by
    with_unfolding_all rfl
  have room : 0 + (Sig.array (.basic .int32)).nesting (.list [.int 1, .int 2]) ≤ maxNesting := by
    simp [Sig.nesting, Sig.nestingEach, maxNesting, Sig.maxDepth]
  exact ⟨parsed, written, Writer.read_after_write parsed List.mem_cons_self checked room written ⟨#[9]⟩⟩

end MessageBus
