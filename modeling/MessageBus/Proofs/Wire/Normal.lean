import Mathlib
import MessageBus.Wire.Codec

namespace MessageBus

namespace Value

mutual

/-- Every text in a value, the signatures its variants carry included. -/
def texts : Value → List Text
  | .str t => [t]
  | .list xs | .tuple xs => textsEach xs
  | .dict entries => textsEntries entries
  | .variant s v => texts s ++ texts v
  | _ => []

def textsEach : List Value → List Text
  | [] => []
  | x :: rest => texts x ++ textsEach rest

def textsEntries : List (Value × Value) → List Text
  | [] => []
  | (k, x) :: rest => texts k ++ texts x ++ textsEntries rest

end

/-- The octet an integer stands for in a byte string. -/
def octet : Value → UInt8
  | .int n => n.toNat.toUInt8
  | _ => 0

end Value

namespace Sig

mutual

/-- The value that reading gives back for a value written as a complete type: a `d` integer as
the nearest binary64 number, an `ay` list of integers as a byte string, other arrays as lists,
structs as tuples, a dictionary rebuilt from its entries in order with a later equal key taking
the place of an earlier one, and the contents of a variant in the normal form of its signature. -/
def normal (s : Sig) (v : Value) : Value :=
  match s with
  | .basic .double =>
    match v with
    | .int n => .float ((Binary64.ofInt? n).getD default)
    | v => v
  | .basic _ => v
  | .variant =>
    match v with
    | .variant (.str sig) inner =>
      match Signature.parse sig with
      | .ok [t] => .variant (.str sig) (normal t inner)
      | _ => v
    | v => v
  | .array element =>
    match element, v with
    | .basic .byte, .list xs | .basic .byte, .tuple xs => .bytes ⟨(xs.map Value.octet).toArray⟩
    | _, .list xs | _, .tuple xs => .list (normalEach element xs)
    | _, v => v
  | .dict key value =>
    match v with
    | .dict entries => Value.dictOf (normalEntries key value entries)
    | v => v
  | .struct fields =>
    match v with
    | .list xs | .tuple xs => .tuple (normalFields fields xs)
    | v => v
termination_by sizeOf v

def normalEach (s : Sig) (xs : List Value) : List Value :=
  match xs with
  | [] => []
  | x :: rest => normal s x :: normalEach s rest
termination_by sizeOf xs

def normalEntries (key : Basic) (value : Sig) (entries : List (Value × Value)) : List (Value × Value) :=
  match entries with
  | [] => []
  | (k, x) :: rest => (normal (.basic key) k, normal value x) :: normalEntries key value rest
termination_by sizeOf entries

def normalFields (fields : List Sig) (xs : List Value) : List Value :=
  match fields, xs with
  | f :: fs, x :: rest => normal f x :: normalFields fs rest
  | _, _ => []
termination_by sizeOf xs

end

mutual

/-- How many levels of containers and variants reading a value goes down, as the reader counts
them: a variant and a struct add one, and so does an array or a dictionary with an element; the
octets of an `ay` array are taken whole. -/
def nesting (s : Sig) (v : Value) : Nat :=
  match s with
  | .basic _ => 0
  | .variant =>
    match v with
    | .variant (.str sig) inner =>
      match Signature.parse sig with
      | .ok [t] => nesting t inner + 1
      | _ => 0
    | _ => 0
  | .array element =>
    match element, v with
    | .basic .byte, _ => 0
    | _, .list xs | _, .tuple xs => nestingEach element xs
    | _, _ => 0
  | .dict key value =>
    match v with
    | .dict entries => nestingEntries key value entries
    | _ => 0
  | .struct fields =>
    match v with
    | .list xs | .tuple xs => nestingFields fields xs
    | _ => 0
termination_by sizeOf v

def nestingEach (s : Sig) (xs : List Value) : Nat :=
  match xs with
  | [] => 0
  | x :: rest => max (nesting s x + 1) (nestingEach s rest)
termination_by sizeOf xs

def nestingEntries (key : Basic) (value : Sig) (entries : List (Value × Value)) : Nat :=
  match entries with
  | [] => 0
  | (k, x) :: rest => max (max (nesting (.basic key) k) (nesting value x) + 1) (nestingEntries key value rest)
termination_by sizeOf entries

def nestingFields (fields : List Sig) (xs : List Value) : Nat :=
  match fields, xs with
  | f :: fs, x :: rest => max (nesting f x + 1) (nestingFields fs rest)
  | _, _ => 0
termination_by sizeOf xs

end

end Sig

end MessageBus

namespace MessageBus

namespace Value

theorem texts_subset_textsEach {x : Value} {xs : List Value} (member : x ∈ xs) : x.texts ⊆ textsEach xs := by
  induction xs with
  | nil => cases member
  | cons y rest ih =>
    rw [textsEach]
    rcases List.mem_cons.mp member with rfl | later
    · exact List.subset_append_left _ _
    · exact List.Subset.trans (ih later) (List.subset_append_right _ _)

theorem mem_textsEach {t : Text} {xs : List Value} : t ∈ textsEach xs ↔ ∃ x ∈ xs, t ∈ x.texts := by
  induction xs with
  | nil => simp [textsEach]
  | cons x rest ih => simp [textsEach, ih]

theorem texts_subset_textsEntries {e : Value × Value} {entries : List (Value × Value)} (member : e ∈ entries) :
    e.1.texts ⊆ textsEntries entries ∧ e.2.texts ⊆ textsEntries entries := by
  induction entries with
  | nil => cases member
  | cons entry rest ih =>
    obtain ⟨k, x⟩ := entry
    rw [textsEntries]
    rcases List.mem_cons.mp member with rfl | later
    · exact ⟨fun t mem => by simp [mem], fun t mem => by simp [mem]⟩
    · exact ⟨List.Subset.trans (ih later).1 (List.subset_append_right _ _),
        List.Subset.trans (ih later).2 (List.subset_append_right _ _)⟩

theorem mem_textsEntries {t : Text} {entries : List (Value × Value)} :
    t ∈ textsEntries entries ↔ ∃ e ∈ entries, t ∈ e.1.texts ∨ t ∈ e.2.texts := by
  induction entries with
  | nil => simp [textsEntries]
  | cons entry rest ih =>
    obtain ⟨k, x⟩ := entry
    simp [textsEntries, ih, or_assoc]

theorem texts_subset_of_seq {v x : Value} {xs : List Value} (seq : v = .list xs ∨ v = .tuple xs) (member : x ∈ xs) :
    x.texts ⊆ v.texts := by
  rcases seq with rfl | rfl <;> (rw [texts]; exact texts_subset_textsEach member)

theorem texts_subset_of_entry {e : Value × Value} {entries : List (Value × Value)} (member : e ∈ entries) :
    e.1.texts ⊆ (Value.dict entries).texts ∧ e.2.texts ⊆ (Value.dict entries).texts := by
  rw [texts]
  exact texts_subset_textsEntries member

end Value

namespace Sig

variable {t : Sig} {sig : Text} {inner : Value} {xs : List Value}

theorem normal_variant (parsed : Signature.parse sig = .ok [t]) :
    Sig.variant.normal (.variant (.str sig) inner) = .variant (.str sig) (t.normal inner) := by
  rw [normal, parsed]

theorem normal_bytes (b : ByteArray) : (Sig.array (.basic .byte)).normal (.bytes b) = .bytes b := by
  unfold normal
  rfl

theorem normal_bytes_of_seq {v : Value} (seq : v = .list xs ∨ v = .tuple xs) :
    (Sig.array (.basic .byte)).normal v = .bytes ⟨(xs.map Value.octet).toArray⟩ := by
  rcases seq with rfl | rfl <;> rw [normal]

theorem normal_array {e : Sig} {v : Value} (notByte : e ≠ .basic .byte) (seq : v = .list xs ∨ v = .tuple xs) :
    (Sig.array e).normal v = .list (normalEach e xs) := by
  rcases seq with rfl | rfl <;> rw [normal] <;> exact notByte

theorem normal_dict (key : Basic) (value : Sig) (entries : List (Value × Value)) :
    (Sig.dict key value).normal (.dict entries) = Value.dictOf (normalEntries key value entries) := by
  rw [normal]

theorem normal_struct (fields : List Sig) {v : Value} (seq : v = .list xs ∨ v = .tuple xs) :
    (Sig.struct fields).normal v = .tuple (normalFields fields xs) := by
  rcases seq with rfl | rfl <;> rw [normal]

@[simp] theorem nesting_basic (b : Basic) (v : Value) : (Sig.basic b).nesting v = 0 := by
  rw [nesting]

@[simp] theorem nesting_bytes (v : Value) : (Sig.array (.basic .byte)).nesting v = 0 := by
  rw [nesting]

theorem nesting_variant (parsed : Signature.parse sig = .ok [t]) :
    Sig.variant.nesting (.variant (.str sig) inner) = t.nesting inner + 1 := by
  rw [nesting, parsed]

theorem nesting_array {e : Sig} {v : Value} (notByte : e ≠ .basic .byte) (seq : v = .list xs ∨ v = .tuple xs) :
    (Sig.array e).nesting v = nestingEach e xs := by
  rcases seq with rfl | rfl <;> rw [nesting] <;> exact notByte

theorem nesting_dict (key : Basic) (value : Sig) (entries : List (Value × Value)) :
    (Sig.dict key value).nesting (.dict entries) = nestingEntries key value entries := by
  rw [nesting]

theorem nesting_struct (fields : List Sig) {v : Value} (seq : v = .list xs ∨ v = .tuple xs) :
    (Sig.struct fields).nesting v = nestingFields fields xs := by
  rcases seq with rfl | rfl <;> rw [nesting]

theorem normalEach_eq_self {s : Sig} (fixed : ∀ x ∈ xs, s.normal x = x) : normalEach s xs = xs := by
  induction xs with
  | nil => rw [normalEach]
  | cons x rest ih =>
    rw [normalEach, fixed x List.mem_cons_self, ih fun y member => fixed y (List.mem_cons_of_mem _ member)]

theorem nestingEach_le {s : Sig} {n : Nat} (bound : ∀ x ∈ xs, s.nesting x < n) : nestingEach s xs ≤ n := by
  induction xs with
  | nil => simp [nestingEach]
  | cons x rest ih =>
    rw [nestingEach]
    have head := bound x List.mem_cons_self
    have later := ih fun y member => bound y (List.mem_cons_of_mem _ member)
    omega

theorem normalEntries_eq_self {key : Basic} {value : Sig} {entries : List (Value × Value)}
    (fixed : ∀ e ∈ entries, (Sig.basic key).normal e.1 = e.1 ∧ value.normal e.2 = e.2) :
    normalEntries key value entries = entries := by
  induction entries with
  | nil => rw [normalEntries]
  | cons entry rest ih =>
    obtain ⟨k, x⟩ := entry
    obtain ⟨keyFixed, valueFixed⟩ := fixed (k, x) List.mem_cons_self
    rw [normalEntries, keyFixed, valueFixed, ih fun e member => fixed e (List.mem_cons_of_mem _ member)]

theorem nestingEntries_le {key : Basic} {value : Sig} {entries : List (Value × Value)} {n : Nat}
    (bound : ∀ e ∈ entries, (Sig.basic key).nesting e.1 < n ∧ value.nesting e.2 < n) :
    nestingEntries key value entries ≤ n := by
  induction entries with
  | nil => simp [nestingEntries]
  | cons entry rest ih =>
    obtain ⟨k, x⟩ := entry
    rw [nestingEntries]
    have head := bound (k, x) List.mem_cons_self
    have later := ih fun e member => bound e (List.mem_cons_of_mem _ member)
    dsimp only at head
    omega

theorem nestingFields_le {fields : List Sig} {n : Nat} (bound : ∀ pair ∈ fields.zip xs, pair.1.nesting pair.2 < n) :
    nestingFields fields xs ≤ n := by
  induction fields generalizing xs with
  | nil => simp [nestingFields]
  | cons f fs ih => cases xs with
    | nil => simp [nestingFields]
    | cons x rest =>
      rw [nestingFields]
      have head := bound (f, x) (by simp)
      have later := @ih rest fun pair member => bound pair (by simp [member])
      dsimp only at head
      omega

/-- An element of an array is read one level deeper than the array. -/
theorem nesting_lt_nestingEach {s : Sig} {x : Value} (member : x ∈ xs) : s.nesting x < nestingEach s xs := by
  induction xs with
  | nil => cases member
  | cons y rest ih =>
    rw [nestingEach]
    rcases List.mem_cons.mp member with rfl | later
    · omega
    · have := ih later; omega

theorem nesting_lt_nestingEntries {key : Basic} {value : Sig} {e : Value × Value} {entries : List (Value × Value)}
    (member : e ∈ entries) : value.nesting e.2 < nestingEntries key value entries := by
  induction entries with
  | nil => cases member
  | cons entry rest ih =>
    obtain ⟨k, x⟩ := entry
    rw [nestingEntries]
    rcases List.mem_cons.mp member with rfl | later
    · dsimp only
      omega
    · have := ih later; omega

theorem nesting_lt_nestingFields {fields : List Sig} {pair : Sig × Value} (member : pair ∈ fields.zip xs) :
    pair.1.nesting pair.2 < nestingFields fields xs := by
  induction fields generalizing xs with
  | nil => simp at member
  | cons f fs ih =>
    cases xs with
    | nil => simp at member
    | cons x rest =>
      rw [nestingFields]
      rcases List.mem_cons.mp (List.zip_cons_cons ▸ member) with rfl | later
      · dsimp only
        omega
      · have := ih later; omega

end Sig

end MessageBus
