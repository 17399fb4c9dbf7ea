import Mathlib
import MessageBus.Introspection.Data
import MessageBus.Proofs.Utf8

namespace MessageBus

/-- Items by key: for each key in the order it first appears, the last item with that key. -/
def lastByKey {α : Type} (key : α → Text) (items : List α) : List α :=
  (items.map key).eraseDups.filterMap fun k => (items.filter (key · == k)).getLast?

section LastByKey

variable {α : Type} (key : α → Text)

theorem getLast?_filter_key {items : List α} {k : Text} (mem : k ∈ items.map key) :
    ∃ y, (items.filter (key · == k)).getLast? = some y ∧ key y = k := by
  obtain ⟨x, inside, rfl⟩ := List.mem_map.mp mem
  have nonempty : items.filter (key · == key x) ≠ [] :=
    List.ne_nil_of_mem (List.mem_filter.mpr ⟨inside, by simp⟩)
  obtain ⟨y, last⟩ := Option.ne_none_iff_exists'.mp (mt List.getLast?_eq_none_iff.mp nonempty)
  have := List.mem_of_getLast? last
  exact ⟨y, last, by simpa using (List.mem_filter.mp this).2⟩

theorem key_of_mem_lastByKey {items : List α} {y : α} (mem : y ∈ lastByKey key items) :
    key y ∈ items.map key := by
  obtain ⟨k, inKeys, last⟩ := List.mem_filterMap.mp mem
  obtain ⟨y', last', named⟩ := getLast?_filter_key key (List.mem_eraseDups.mp inKeys)
  rw [last', Option.some_inj] at last
  subst last
  rw [named]
  exact List.mem_eraseDups.mp inKeys

theorem mem_of_mem_lastByKey {items : List α} {y : α} (mem : y ∈ lastByKey key items) :
    y ∈ items := by
  obtain ⟨k, -, last⟩ := List.mem_filterMap.mp mem
  exact (List.mem_filter.mp (List.mem_of_getLast? last)).1

theorem any_lastByKey (items : List α) (k : Text) :
    (lastByKey key items).any (key · == k) = (items.map key).contains k := by
  rw [Bool.eq_iff_iff, List.any_eq_true, List.contains_iff_mem]
  constructor
  · rintro ⟨y, mem, named⟩
    rw [beq_iff_eq] at named
    exact named ▸ key_of_mem_lastByKey key mem
  · intro inKeys
    obtain ⟨y, last, named⟩ := getLast?_filter_key key inKeys
    exact ⟨y, List.mem_filterMap.mpr ⟨k, List.mem_eraseDups.mpr inKeys, last⟩, by simpa using named⟩

/-- The last items by key come in the order their keys first appear. -/
theorem map_lastByKey (items : List α) :
    (lastByKey key items).map key = (items.map key).eraseDups := by
  unfold lastByKey
  have each : ∀ k ∈ (items.map key).eraseDups,
      ∃ y, (items.filter (key · == k)).getLast? = some y ∧ key y = k :=
    fun k mem => getLast?_filter_key key (List.mem_eraseDups.mp mem)
  generalize (items.map key).eraseDups = keys at each ⊢
  induction keys with
  | nil => rfl
  | cons k keys ih =>
    obtain ⟨y, last, named⟩ := each k (by simp)
    simp only [List.filterMap_cons, last, List.map_cons, named,
      ih fun k' mem => each k' (List.mem_cons_of_mem _ mem)]

/-- The item the last items by key hold for a key is the last item with that key. -/
theorem find?_lastByKey (items : List α) (k : Text) :
    (lastByKey key items).find? (key · == k) = (items.filter (key · == k)).getLast? := by
  unfold lastByKey
  have each : ∀ k ∈ (items.map key).eraseDups,
      ∃ y, (items.filter (key · == k)).getLast? = some y ∧ key y = k :=
    fun k mem => getLast?_filter_key key (List.mem_eraseDups.mp mem)
  have found : ∀ keys : List Text, (∀ k ∈ keys, ∃ y,
      (items.filter (key · == k)).getLast? = some y ∧ key y = k) →
      (keys.filterMap fun k => (items.filter (key · == k)).getLast?).find? (key · == k) =
        if k ∈ keys then (items.filter (key · == k)).getLast? else none := by
    intro keys each
    induction keys with
    | nil => rfl
    | cons k' keys ih =>
      obtain ⟨y, last, named⟩ := each k' (by simp)
      simp only [List.filterMap_cons, last, List.find?_cons,
        ih fun k'' mem => each k'' (List.mem_cons_of_mem _ mem)]
      by_cases same : k' = k
      · subst same
        simp [named, last]
      · simp [named, beq_eq_false_iff_ne.mpr same, Ne.symm same]
  rw [found _ each]
  split
  · rfl
  · rename_i absent
    have none : items.filter (key · == k) = [] := by
      rw [List.filter_eq_nil_iff]
      intro x mem same
      exact absent (List.mem_eraseDups.mpr (by simpa using ⟨x, mem, (beq_iff_eq.mp same)⟩))
    rw [none, List.getLast?_nil]

/-- Adding an item by its key to the last items by key of a list gives the last items by key of
the list with that item after it. -/
theorem upsert_lastByKey (items : List α) (x : α) :
    upsert key x (lastByKey key items) = lastByKey key (items ++ [x]) := by
  have lastOf : ∀ k, ((items ++ [x]).filter (key · == k)).getLast? =
      if key x = k then some x else (items.filter (key · == k)).getLast? := by
    intro k
    by_cases same : key x = k <;> simp [List.filter_append, same]
  unfold upsert
  rw [any_lastByKey]
  unfold lastByKey
  rw [List.map_append, List.map_singleton, List.eraseDups_append]
  by_cases present : key x ∈ items.map key
  · have gone : [key x].removeAll (items.map key) = [] := by simpa [List.removeAll] using present
    rw [if_pos (List.contains_iff_mem.mpr present), gone, List.eraseDups_nil, List.append_nil,
      List.map_filterMap]
    apply List.filterMap_congr
    intro k inKeys
    obtain ⟨y, last, named⟩ := getLast?_filter_key key (List.mem_eraseDups.mp inKeys)
    rw [lastOf, last]
    by_cases same : key x = k
    · simp [same, named]
    · simp [same, named, Ne.symm same]
  · have kept : [key x].removeAll (items.map key) = [key x] := by
      simpa [List.removeAll] using present
    rw [if_neg (by simpa [List.contains_iff_mem] using present), kept, List.filterMap_append]
    congr 1
    · apply List.filterMap_congr
      intro k inKeys
      have differ : key x ≠ k := fun same => present (same ▸ List.mem_eraseDups.mp inKeys)
      rw [lastOf, if_neg differ]
    · rw [List.eraseDups_cons, List.filter_nil, List.eraseDups_nil, List.filterMap_cons, lastOf,
        if_pos rfl]
      rfl

end LastByKey

/-- A computation reads as `v` exactly when `ok` holds: it returns `v` when `ok` holds, and
fails with an error of the kind `Fails` names when it does not. -/
def Reads {ε β : Type} (ok : Prop) (Fails : ε → Prop) (v : β) (r : Except ε β) : Prop :=
  (ok → r = .ok v) ∧ (¬ ok → ∃ e, r = .error e ∧ Fails e)

namespace Reads

variable {ε α β σ : Type} {Fails : ε → Prop}

theorem of_iff {P Q : Prop} {v : β} {r : Except ε β} (reads : Reads P Fails v r) (same : P ↔ Q) :
    Reads Q Fails v r :=
  ⟨fun q => reads.1 (same.mpr q), fun q => reads.2 (mt same.mp q)⟩

theorem fail {v : β} {e : ε} (kind : Fails e) : Reads False Fails v (throw e : Except ε β) :=
  ⟨fun no => no.elim, fun _ => ⟨e, rfl, kind⟩⟩

theorem pure (v : β) : Reads True Fails v (Pure.pure v : Except ε β) :=
  ⟨fun _ => rfl, fun no => absurd trivial no⟩

/-- The first computation must read and then the rest, at what the first returned. -/
theorem bind {P Q : Prop} {a : α} {v : β} {r : Except ε α} {k : α → Except ε β}
    (first : Reads P Fails a r) (rest : P → Reads Q Fails v (k a)) :
    Reads (P ∧ Q) Fails v (r >>= k) := by
  constructor
  · rintro ⟨p, q⟩
    rw [first.1 p]
    exact (rest p).1 q
  · intro bad
    by_cases p : P
    · rw [first.1 p]
      exact (rest p).2 fun q => bad ⟨p, q⟩
    · obtain ⟨e, failed, kind⟩ := first.2 p
      exact ⟨e, by rw [failed]; rfl, kind⟩

/-- A map reads when every item does. -/
theorem mapM {g : α → Except ε β} {h : α → β} (Good : α → Prop)
    (each : ∀ x, Reads (Good x) Fails (h x) (g x)) :
    ∀ xs : List α, Reads (∀ x ∈ xs, Good x) Fails (xs.map h) (xs.mapM g)
  | [] => (pure []).of_iff (by simp)
  | x :: xs => by
    rw [List.mapM_cons]
    have rest : ∀ b, Reads (∀ y ∈ xs, Good y) Fails (b :: xs.map h)
        (xs.mapM g >>= fun bs => Pure.pure (b :: bs)) := fun b =>
      ((mapM Good each xs).bind fun _ => pure (b :: xs.map h)).of_iff (by simp)
    exact ((each x).bind fun _ => rest (h x)).of_iff (by simp)

/-- A fold reads when each step does, from the state after a prefix to the state after the
longer prefix. -/
theorem foldlM {f : σ → α → Except ε σ} (S : List α → σ) (Good : α → Prop)
    (step : ∀ ps x, Reads (Good x) Fails (S (ps ++ [x])) (f (S ps) x)) :
    ∀ (xs ps : List α), Reads (∀ x ∈ xs, Good x) Fails (S (ps ++ xs)) (xs.foldlM f (S ps))
  | [], ps => by
    rw [List.append_nil]
    exact (pure (S ps)).of_iff (by simp)
  | x :: xs, ps => by
    rw [List.foldlM_cons]
    have rest := foldlM S Good step xs (ps ++ [x])
    rw [List.append_assoc, List.singleton_append] at rest
    exact ((step ps x).bind fun _ => rest).of_iff (by simp)

end Reads

namespace Xml.Element

/-- The children of an element with a given plain name, in order. -/
def childrenNamed (e : Element) (tag : String) : List Element := e.children.filter (·.named tag)

/-- The value of an attribute, or empty text when the element leaves it out. -/
def attr (e : Element) (name : String) : Text := (e.get name).getD Text.empty

theorem not_named {e : Element} {a b : String} (named : e.named a = true)
    (differ : (Text.ofString a == Text.ofString b) = false) : e.named b = false := by
  unfold Element.named at named ⊢
  rw [beq_iff_eq] at named
  rwa [named]

end Xml.Element

open Xml

namespace Introspection

/-- An argument as its `arg` element declares it: a direction other than `out` reads as `in`. -/
def argumentOf (a : Element) : Argument :=
  { name := a.get "name", type := a.attr "type",
    direction := if a.get "direction" = some (Text.ofString "out") then .output else .input }

/-- A method as its `method` element declares it: its name and its `arg` children in order. -/
def methodOf (m : Element) : MethodData :=
  { name := m.attr "name", arguments := (m.childrenNamed "arg").map argumentOf }

/-- A property as its `property` element declares it: its name, type and access, which is
`read` when not given. -/
def propertyOf (p : Element) : Text × PropertyData :=
  (p.attr "name", { type := p.attr "type", access := (p.get "access").getD (Text.ofString "read") })

/-- The types of a method element's `arg` children whose direction passes a test, one after
another. -/
def argTypes (m : Element) (direction : Option Text → Bool) : Text :=
  Text.join (((m.childrenNamed "arg").filter fun a => direction (a.get "direction")).map (·.attr "type"))

/-- An interface as the children of its element declare it: methods and properties by name, the
last declaration of a name in the place of the first, and all signals in order. -/
def interfaceOf (name : Text) (children : List Element) : InterfaceData :=
  { name,
    methods := lastByKey (·.name) ((children.filter (·.named "method")).map methodOf),
    signals := (children.filter (·.named "signal")).map (·.attr "name"),
    properties := lastByKey (·.1) ((children.filter (·.named "property")).map propertyOf) }

/-- What the children of a `node` element say: its interfaces by name, the last declaration of
a name in the place of the first, and the names of its `node` children that are not empty. -/
def ofChildren (children : List Element) : Introspection :=
  { interfaces := lastByKey (·.name)
      ((children.filter (·.named "interface")).map fun i => interfaceOf (i.attr "name") i.children),
    children := (children.filter (·.named "node")).filterMap fun c =>
      (c.get "name").filter (!·.isEmpty) }

/-- An `arg` element that can be read: it has a type, and a direction, if any, of `in` or
`out`. -/
def ArgumentReadable (a : Element) : Prop :=
  (a.get "type").isSome ∧
    (a.get "direction").all (fun d => d == Text.ofString "in" || d == Text.ofString "out")

/-- A child of an interface element that can be read: a method with arguments that can be read
and a name, a signal with a name, a property with a name and a type, or any other element. -/
def MemberReadable (c : Element) : Prop :=
  (c.named "method" → (∀ a ∈ c.childrenNamed "arg", ArgumentReadable a) ∧ (c.get "name").isSome) ∧
  (c.named "signal" → (c.get "name").isSome) ∧
  (c.named "property" → (c.get "name").isSome ∧ (c.get "type").isSome)

/-- An interface element that can be read: it has a name and its children can be read. -/
def InterfaceReadable (i : Element) : Prop :=
  (i.get "name").isSome ∧ ∀ c ∈ i.children, MemberReadable c

/-- A root element that can be read as introspection data: a `node` whose `interface` children
can be read. -/
def Readable (root : Element) : Prop :=
  root.named "node" ∧ ∀ c ∈ root.children, c.named "interface" → InterfaceReadable c

instance (a : Element) : Decidable (ArgumentReadable a) := inferInstanceAs (Decidable (_ ∧ _))

instance (c : Element) : Decidable (MemberReadable c) := inferInstanceAs (Decidable (_ ∧ _ ∧ _))

instance (i : Element) : Decidable (InterfaceReadable i) := inferInstanceAs (Decidable (_ ∧ _))

instance (root : Element) : Decidable (Readable root) := inferInstanceAs (Decidable (_ ∧ _))

section Steps

variable (n : Text) (ps : List Element) {x : Element}

theorem interfaceOf_nil : interfaceOf n [] = ⟨n, [], [], []⟩ := rfl

theorem interfaceOf_method (method : x.named "method") :
    interfaceOf n (ps ++ [x]) = { interfaceOf n ps with
      methods := upsert (·.name) (methodOf x) (interfaceOf n ps).methods } := by
  have signal : x.named "signal" = false := Element.not_named method (by decide)
  have property : x.named "property" = false := Element.not_named method (by decide)
  simp only [interfaceOf, List.filter_append, List.filter_singleton, method, signal, property,
    cond_true, cond_false, List.append_nil, List.map_append, List.map_singleton, upsert_lastByKey]

theorem interfaceOf_signal (signal : x.named "signal") :
    interfaceOf n (ps ++ [x]) = { interfaceOf n ps with
      signals := (interfaceOf n ps).signals ++ [x.attr "name"] } := by
  have method : x.named "method" = false := Element.not_named signal (by decide)
  have property : x.named "property" = false := Element.not_named signal (by decide)
  simp only [interfaceOf, List.filter_append, List.filter_singleton, method, signal, property,
    cond_true, cond_false, List.append_nil, List.map_append, List.map_singleton]

theorem interfaceOf_property (property : x.named "property") :
    interfaceOf n (ps ++ [x]) = { interfaceOf n ps with
      properties := upsert (·.1) (propertyOf x) (interfaceOf n ps).properties } := by
  have method : x.named "method" = false := Element.not_named property (by decide)
  have signal : x.named "signal" = false := Element.not_named property (by decide)
  simp only [interfaceOf, List.filter_append, List.filter_singleton, method, signal, property,
    cond_true, cond_false, List.append_nil, List.map_append, List.map_singleton, upsert_lastByKey]

theorem interfaceOf_other (method : x.named "method" = false) (signal : x.named "signal" = false)
    (property : x.named "property" = false) : interfaceOf n (ps ++ [x]) = interfaceOf n ps := by
  simp only [interfaceOf, List.filter_append, List.filter_singleton, method, signal, property,
    cond_false, List.append_nil]

theorem ofChildren_nil : ofChildren [] = empty := rfl

theorem ofChildren_interface (interface : x.named "interface") :
    ofChildren (ps ++ [x]) = { ofChildren ps with
      interfaces := upsert (·.name) (interfaceOf (x.attr "name") x.children)
        (ofChildren ps).interfaces } := by
  have node : x.named "node" = false := Element.not_named interface (by decide)
  simp only [ofChildren, List.filter_append, List.filter_singleton, interface, node,
    cond_true, cond_false, List.append_nil, List.map_append, List.map_singleton, upsert_lastByKey]

theorem ofChildren_node (node : x.named "node") :
    ofChildren (ps ++ [x]) = { ofChildren ps with
      children := (ofChildren ps).children ++ ((x.get "name").filter (!·.isEmpty)).toList } := by
  have interface : x.named "interface" = false := Element.not_named node (by decide)
  simp only [ofChildren, List.filter_append, List.filter_singleton, interface, node,
    cond_true, cond_false, List.append_nil, List.filterMap_append, List.filterMap_cons,
    List.filterMap_nil]
  cases (x.get "name").filter (!·.isEmpty) <;> rfl

theorem ofChildren_other (interface : x.named "interface" = false)
    (node : x.named "node" = false) : ofChildren (ps ++ [x]) = ofChildren ps := by
  simp only [ofChildren, List.filter_append, List.filter_singleton, interface, node,
    cond_false, List.append_nil]

end Steps

theorem required_reads (e : Element) (attr : String) :
    Reads (e.get attr).isSome (·.kind = "ProtocolError") (e.attr attr) (e.required attr) := by
  unfold Element.required Element.attr
  cases e.get attr with
  | none => exact ⟨fun no => by simp at no, fun _ => ⟨_, rfl, rfl⟩⟩
  | some v => exact ⟨fun _ => rfl, fun no => by simp at no⟩

theorem arguments_reads (m : Element) :
    Reads (∀ a ∈ m.childrenNamed "arg", ArgumentReadable a) (·.kind = "ProtocolError")
      ((m.childrenNamed "arg").map argumentOf) m.arguments := by
  refine Reads.mapM ArgumentReadable (fun a => ?_) (m.childrenNamed "arg")
  have type := required_reads a "type"
  cases direction : a.get "direction" with
  | none =>
    have : argumentOf a = ⟨a.get "name", a.attr "type", .input⟩ := by simp [argumentOf, direction]
    rw [this]
    simp only [pure_bind]
    exact Reads.of_iff (type.bind fun _ => Reads.pure _) (by simp [ArgumentReadable, direction])
  | some d =>
    have inOut : Text.ofString "in" ≠ Text.ofString "out" := by decide
    by_cases isIn : d = Text.ofString "in"
    · have : argumentOf a = ⟨a.get "name", a.attr "type", .input⟩ := by
        simp [argumentOf, direction, isIn, inOut]
      rw [this]
      simp only [isIn, beq_self_eq_true, ↓reduceIte, pure_bind]
      exact Reads.of_iff (type.bind fun _ => Reads.pure _)
        (by simp [ArgumentReadable, direction, isIn])
    by_cases isOut : d = Text.ofString "out"
    · have : argumentOf a = ⟨a.get "name", a.attr "type", .output⟩ := by
        simp [argumentOf, direction, isOut]
      rw [this]
      simp only [isOut, beq_self_eq_true, ↓reduceIte, pure_bind]
      exact Reads.of_iff (type.bind fun _ => Reads.pure _)
        (by simp [ArgumentReadable, direction, isOut])
    · simp only [beq_eq_false_iff_ne.mpr isIn, beq_eq_false_iff_ne.mpr isOut, Bool.false_eq_true,
        ↓reduceIte]
      exact Reads.of_iff (type.bind fun _ => Reads.bind (Reads.fail (by rfl)) fun _ => Reads.pure _)
        (by simp [ArgumentReadable, direction, isIn, isOut])

theorem interfaceData_reads (i : Element) :
    Reads (InterfaceReadable i) (·.kind = "ProtocolError")
      (interfaceOf (i.attr "name") i.children) i.interfaceData := by
  unfold Element.interfaceData
  refine Reads.of_iff ((required_reads i "name").bind fun _ => ?_) Iff.rfl
  rw [← interfaceOf_nil]
  refine Reads.foldlM (interfaceOf (i.attr "name")) MemberReadable (fun ps x => ?_) i.children []
  by_cases method : x.named "method" = true
  · have signal : x.named "signal" = false := Element.not_named method (by decide)
    have property : x.named "property" = false := Element.not_named method (by decide)
    rw [if_pos method, interfaceOf_method _ _ method]
    exact Reads.of_iff
      ((arguments_reads x).bind fun _ => (required_reads x "name").bind fun _ => Reads.pure _)
      (by simp [MemberReadable, method, signal, property])
  rw [if_neg method]
  by_cases signal : x.named "signal" = true
  · have property : x.named "property" = false := Element.not_named signal (by decide)
    rw [if_pos signal, interfaceOf_signal _ _ signal]
    exact Reads.of_iff ((required_reads x "name").bind fun _ => Reads.pure _)
      (by simp [MemberReadable, method, signal, property])
  rw [if_neg signal]
  by_cases property : x.named "property" = true
  · rw [if_pos property, interfaceOf_property _ _ property]
    exact Reads.of_iff
      ((required_reads x "name").bind fun _ => (required_reads x "type").bind fun _ => Reads.pure _)
      (by simp [MemberReadable, method, signal, property])
  · rw [if_neg property, interfaceOf_other _ _ (by simpa using method) (by simpa using signal)
      (by simpa using property)]
    exact Reads.of_iff (Reads.pure _) (by simp [MemberReadable, method, signal, property])

theorem parse_reads {text : Text} {root : Element} (encodes : ∃ b, Utf8.encode text = .ok b)
    (tree : Xml.parse text = some root) :
    Reads (Readable root) (·.kind = "ProtocolError") (ofChildren root.children) (parse text) := by
  obtain ⟨b, encoded⟩ := encodes
  unfold parse
  simp only [encoded, tree, pure_bind]
  by_cases node : root.named "node" = true
  · rw [if_neg (by simp [node]), ← ofChildren_nil]
    refine Reads.of_iff
      (Reads.foldlM ofChildren (fun c => c.named "interface" → InterfaceReadable c)
        (fun ps x => ?_) root.children [])
      (by simp [Readable, node])
    by_cases interface : x.named "interface" = true
    · rw [if_pos interface, ofChildren_interface _ interface]
      exact Reads.of_iff ((interfaceData_reads x).bind fun _ => Reads.pure _) (by simp [interface])
    rw [if_neg interface]
    by_cases child : x.named "node" = true
    · rw [if_pos child, ofChildren_node _ child]
      cases name : x.get "name" with
      | none =>
        simp only [Option.filter_none, Option.toList_none, List.append_nil]
        exact Reads.of_iff (Reads.pure _) (by simp [interface])
      | some n =>
        by_cases empty : n.isEmpty = true
        · simp only [Option.filter_some, empty, Bool.not_true, Bool.false_eq_true, ↓reduceIte,
            Option.toList_none, List.append_nil]
          exact Reads.of_iff (Reads.pure _) (by simp [interface])
        · simp only [Option.filter_some, empty, Bool.not_false, ↓reduceIte, Option.toList_some]
          exact Reads.of_iff (Reads.pure _) (by simp [interface])
    · rw [if_neg child, ofChildren_other _ (by simpa using interface) (by simpa using child)]
      exact Reads.of_iff (Reads.pure _) (by simp [interface])
  · rw [if_pos (by simpa using node)]
    exact ⟨fun readable => absurd readable.1 node, fun _ => ⟨_, rfl, rfl⟩⟩

/-- A method's signature in one direction: the types of its `arg` children whose direction passes
a test that agrees with the direction each of them reads as. -/
theorem signature_methodOf {m : Element} {d : Direction} {test : Option Text → Bool}
    (agrees : ∀ a ∈ m.childrenNamed "arg",
      ((argumentOf a).direction == d) = test (a.get "direction")) :
    (methodOf m).signature d = argTypes m test := by
  simp only [MethodData.signature, methodOf, argTypes, List.filter_map, List.map_map,
    Function.comp_def]
  rw [List.filter_congr agrees]
  rfl

/-- The signatures of a method whose arguments can be read: the types of its `arg` children with
direction `in` or none for the input, and with direction `out` for the output. -/
theorem methodOf_signatures {m : Element}
    (readable : ∀ a ∈ m.childrenNamed "arg", ArgumentReadable a) :
    (methodOf m).inputSignature = argTypes m (·.all (· == Text.ofString "in")) ∧
      (methodOf m).outputSignature = argTypes m (· == some (Text.ofString "out")) := by
  have inOut : Text.ofString "in" ≠ Text.ofString "out" := by decide
  have inputs : ∀ a ∈ m.childrenNamed "arg",
      ((argumentOf a).direction == .input) = (a.get "direction").all (· == Text.ofString "in") := by
    intro a mem
    obtain ⟨-, given⟩ := readable a mem
    cases direction : a.get "direction" with
    | none => simp [argumentOf, direction]
    | some d =>
      rw [direction] at given
      simp only [Option.all_some, Bool.or_eq_true, beq_iff_eq] at given
      rcases given with rfl | rfl <;> simp [argumentOf, direction, inOut, Ne.symm inOut]
  have outputs : ∀ a ∈ m.childrenNamed "arg",
      ((argumentOf a).direction == .output) =
        (a.get "direction" == some (Text.ofString "out")) := by
    intro a _
    by_cases out : a.get "direction" = some (Text.ofString "out") <;> simp [argumentOf, out]
  exact ⟨signature_methodOf inputs, signature_methodOf outputs⟩

/-- Every method of the reference is declared by a `method` child of one of the `interface`
children. -/
theorem mem_methods_ofChildren {children : List Element} {i : InterfaceData} {md : MethodData}
    (interface : i ∈ (ofChildren children).interfaces) (method : md ∈ i.methods) :
    ∃ ie ∈ children, ie.named "interface" ∧
      ∃ m ∈ ie.children, m.named "method" ∧ md = methodOf m := by
  obtain ⟨ie, inChildren, rfl⟩ := List.mem_map.mp (mem_of_mem_lastByKey _ interface)
  obtain ⟨m, inInterface, rfl⟩ := List.mem_map.mp (mem_of_mem_lastByKey _ method)
  rw [List.mem_filter] at inChildren inInterface
  exact ⟨ie, inChildren.1, inChildren.2, m, inInterface.1, inInterface.2, rfl⟩

/-- Reading a well-formed document: when its root can be read, the reader returns the reference
for the root's children, each of whose methods carries the signatures its `arg` children give;
otherwise it fails with a protocol error. -/
theorem parse_agrees_with_reference {text : Text} {root : Element}
    (encodes : ∃ b, Utf8.encode text = .ok b) (tree : Xml.parse text = some root) :
    (Readable root → parse text = .ok (ofChildren root.children) ∧
      ∀ i ∈ (ofChildren root.children).interfaces, ∀ md ∈ i.methods, ∃ m, md = methodOf m ∧
        md.inputSignature = argTypes m (·.all (· == Text.ofString "in")) ∧
        md.outputSignature = argTypes m (· == some (Text.ofString "out"))) ∧
    (¬ Readable root → ∃ e, parse text = .error e ∧ e.kind = "ProtocolError") := by
  have reads := parse_reads encodes tree
  refine ⟨fun readable => ⟨reads.1 readable, ?_⟩, reads.2⟩
  intro i interface md method
  obtain ⟨ie, inRoot, isInterface, m, inInterface, isMethod, rfl⟩ :=
    mem_methods_ofChildren interface method
  have arguments := ((readable.2 ie inRoot isInterface).2 m inInterface).1 isMethod
  exact ⟨m, rfl, methodOf_signatures arguments.1⟩

theorem parse_reads_sample_document :
    ∃ root, Xml.parse (Text.ofString
        "<node><interface name=\"a.B\"><method name=\"M\"><arg type=\"s\"/><arg type=\"i\" direction=\"out\"/></method></interface><node name=\"c\"/></node>") = some root ∧
      Readable root ∧ parse (Text.ofString
        "<node><interface name=\"a.B\"><method name=\"M\"><arg type=\"s\"/><arg type=\"i\" direction=\"out\"/></method></interface><node name=\"c\"/></node>") = .ok (ofChildren root.children) := by
  refine ⟨_, (Option.some_get ?document).symm, ?readable,
    ((parse_agrees_with_reference ⟨_, Utf8.encodeAt_of_plain ?plain⟩
      (Option.some_get ?document).symm).1 ?readable).1⟩
  case document => decide +kernel
  case plain => decide +kernel
  case readable => decide +kernel

end Introspection

end MessageBus
