import Mathlib
import MessageBus.Signature.Check

namespace MessageBus

namespace ObjectPath

/-- A path element: one or more ASCII letters, digits or underscores. -/
def IsElement (e : List Nat) : Prop := e ≠ [] ∧ ∀ c ∈ e, elementChar c = true

/-- Elements, each written after a `/`. -/
def written (elements : List (List Nat)) : List Nat := elements.flatMap (47 :: ·)

@[simp] theorem written_nil : written [] = [] := rfl

@[simp] theorem written_cons (e : List Nat) (elements : List (List Nat)) :
    written (e :: elements) = 47 :: (e ++ written elements) := rfl

/-- The object path grammar: `/` alone, or one or more elements, each written after a `/`. -/
def IsPath (cs : List Nat) : Prop :=
  cs = [47] ∨ ∃ elements : List (List Nat), elements ≠ [] ∧ (∀ e ∈ elements, IsElement e) ∧
    cs = written elements

theorem elementChar_slash : elementChar 47 = false := by decide

/-- What is left after a `/` and part of an element: the rest of that element (which must not
be empty unless part of it has been read), then whole elements, each after its `/`. -/
theorem elementsFrom_iff (inElement : Bool) (cs : List Nat) :
    elementsFrom inElement cs = true ↔
      ∃ (w : List Nat) (elements : List (List Nat)), (inElement = true ∨ w ≠ []) ∧
        (∀ c ∈ w, elementChar c = true) ∧ (∀ e ∈ elements, IsElement e) ∧
        cs = w ++ written elements := by
  induction cs generalizing inElement with
  | nil =>
    constructor
    · intro h
      exact ⟨[], [], .inl (by simpa [elementsFrom] using h), by simp, by simp, by simp⟩
    · rintro ⟨w, elements, started, -, -, split⟩
      have hw : w = [] := (List.append_eq_nil_iff.mp split.symm).1
      subst hw
      simpa [elementsFrom] using started
  | cons c rest ih =>
    by_cases slash : c = 47
    · subst slash
      simp only [elementsFrom, if_pos, Bool.and_eq_true, ih]
      constructor
      · rintro ⟨started, w, elements, nonempty, chars, whole, split⟩
        refine ⟨[], w :: elements, .inl started, by simp, ?_, by simp [split]⟩
        intro e he
        rcases List.mem_cons.mp he with rfl | he
        · exact ⟨by simpa using nonempty, chars⟩
        · exact whole e he
      · rintro ⟨w, elements, started, chars, whole, split⟩
        cases w with
        | cons d w =>
          have hd : d = 47 := (List.cons_eq_cons.mp split).1.symm
          have := chars d (by simp)
          simp [hd, elementChar_slash] at this
        | nil =>
          simp only [ne_eq, not_true_eq_false, or_false] at started
          cases elements with
          | nil => simp at split
          | cons e elements =>
            simp only [written_cons, List.nil_append, List.cons.injEq, true_and] at split
            have he := whole e (by simp)
            exact ⟨started, e, elements, .inr he.1, he.2,
              fun e' h' => whole e' (List.mem_cons_of_mem _ h'), split⟩
    · simp only [elementsFrom, if_neg slash, Bool.and_eq_true, ih]
      constructor
      · rintro ⟨char, w, elements, -, chars, whole, split⟩
        refine ⟨c :: w, elements, .inr (by simp), ?_, whole, by simp [split]⟩
        intro d hd
        rcases List.mem_cons.mp hd with rfl | hd
        · exact char
        · exact chars d hd
      · rintro ⟨w, elements, -, chars, whole, split⟩
        cases w with
        | nil =>
          cases elements with
          | nil => simp at split
          | cons e elements => simp at split; exact absurd split.1 slash
        | cons d w =>
          simp only [List.cons_append, List.cons.injEq] at split
          obtain ⟨rfl, split⟩ := split
          exact ⟨chars c (by simp), w, elements, by simp,
            fun d' h' => chars d' (List.mem_cons_of_mem _ h'), whole, split⟩

/-- The recognizer decides the object path grammar. -/
theorem grammar_iff (cs : List Nat) : grammar cs = true ↔ IsPath cs := by
  unfold grammar IsPath
  split
  · simp
  · rename_i rest notRoot
    rw [elementsFrom_iff]
    constructor
    · rintro ⟨w, elements, nonempty, chars, whole, split⟩
      refine .inr ⟨w :: elements, by simp, ?_, by simp [split]⟩
      intro e he
      rcases List.mem_cons.mp he with rfl | he
      · exact ⟨by simpa using nonempty, chars⟩
      · exact whole e he
    · rintro (root | ⟨elements, nonempty, whole, split⟩)
      · exact absurd (List.cons_eq_cons.mp root).2 (fun h => notRoot (by rw [h]))
      · obtain ⟨e, elements, rfl⟩ := List.exists_cons_of_ne_nil nonempty
        simp only [written_cons, List.cons.injEq, true_and] at split
        have he := whole e (by simp)
        exact ⟨e, elements, .inr he.1, he.2,
          fun e' h' => whole e' (List.mem_cons_of_mem _ h'), split⟩
  · rename_i notPath
    simp only [Bool.false_eq_true, false_iff, not_or]
    refine ⟨fun root => notPath [] root, ?_⟩
    rintro ⟨elements, nonempty, -, split⟩
    obtain ⟨e, elements, rfl⟩ := List.exists_cons_of_ne_nil nonempty
    exact notPath (e ++ written elements) (by simp [split])

/-- No object path holds a NUL. -/
theorem zero_not_mem_of_isPath {cs : List Nat} (path : IsPath cs) : 0 ∉ cs := by
  rcases path with rfl | ⟨elements, -, whole, rfl⟩
  · simp
  · simp only [written, List.mem_flatMap, List.mem_cons, not_exists, not_and, not_or]
    intro e he
    exact ⟨by decide, fun h => by simpa [elementChar] using (whole e he).2 0 h⟩

/-- An object path, or one followed by a single line feed: what the check on object paths
takes. -/
def IsPathLine (cs : List Nat) : Prop := IsPath cs ∨ ∃ p, IsPath p ∧ cs = p ++ [10]

theorem zero_not_mem_of_isPathLine {cs : List Nat} (path : IsPathLine cs) : 0 ∉ cs := by
  rcases path with path | ⟨p, path, rfl⟩
  · exact zero_not_mem_of_isPath path
  · simpa using zero_not_mem_of_isPath path

end ObjectPath

open ObjectPath

/-- Text passes as an object path when it is one, or when it is one followed by a single line
feed. -/
theorem Text.isObjectPath_iff (t : Text) : t.isObjectPath = true ↔ IsPathLine t.codes := by
  simp only [Text.isObjectPath, Bool.or_eq_true, Bool.and_eq_true, beq_iff_eq, grammar_iff,
    List.getLast?_eq_some_iff, IsPathLine]
  constructor
  · rintro (path | ⟨⟨p, split⟩, path⟩)
    · exact .inl path
    · rw [split, List.dropLast_concat] at path
      exact .inr ⟨p, path, split⟩
  · rintro (path | ⟨p, path, split⟩)
    · exact .inl path
    · exact .inr ⟨⟨p, split⟩, by rwa [split, List.dropLast_concat]⟩

/-- Object path recognition decides the grammar with one line feed allowed after the path, and
so does the check on values of type `o`, which is also the check `marshal` makes of the path
header field (`HeaderField.basic .path` is `o`): the check on NUL refuses nothing more. -/
theorem Sig.objectPath_accepts (t : Text) :
    (t.isObjectPath = true ↔ IsPathLine t.codes) ∧
      ((Sig.basic .objectPath).check (.str t) = .ok () ↔ IsPathLine t.codes) := by
  refine ⟨Text.isObjectPath_iff t, ?_⟩
  rw [← Text.isObjectPath_iff]
  by_cases path : t.isObjectPath = true
  · have noNul := zero_not_mem_of_isPathLine ((Text.isObjectPath_iff t).mp path)
    simp [Sig.check, Basic.range?, noNul, path]
  · simp only [Sig.check, Basic.range?, path]
    split <;> simp

example : (Text.ofString "/a\n").isObjectPath = true := by decide

end MessageBus
