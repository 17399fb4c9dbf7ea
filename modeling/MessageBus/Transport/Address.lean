import MessageBus.Bus.Error
import MessageBus.Config.Load
import MessageBus.Value.Equality

namespace MessageBus

/-- One entry of a bus address: a transport and its options, in order. -/
structure Address where
  transport : Text
  options : List (Text × Text)

namespace Address

/-- The value of an option. -/
def option? (a : Address) (key : String) : Option Text :=
  (a.options.find? (·.1 == Text.ofString key)).map Prod.snd

/-- The bus's identity, if the address names one. -/
def guid (a : Address) : Option Text := a.option? "guid"

/-- The options as a dictionary value, as messages quote them. -/
def optionsValue (a : Address) : Value :=
  .dict (a.options.map (fun (k, v) => (.str k, .str v)))

/-- The socket a `unix` address names: an abstract name with a leading NUL, or a path. -/
def socketPath (a : Address) : Except BusError Text :=
  if a.transport != Text.ofString "unix" then
    .error (.connection ("unsupported bus transport: " ++ a.transport.quoted))
  else
    match a.option? "abstract", a.option? "path" with
    | some name, _ => .ok (⟨[0], by decide⟩ ++ name)
    | none, some path => .ok path
    | none, none =>
      .error (.connection ("unix bus address needs an abstract= or path= key: " ++
        a.optionsValue.literal))

end Address

/-- Code points split at every occurrence of a separator. -/
def splitOn (sep : Nat) (cs : List Nat) : List (List Nat) :=
  cs.foldr (fun c acc =>
    if c == sep then [] :: acc
    else match acc with
      | first :: rest => (c :: first) :: rest
      | [] => [[c]]) [[]]

/-- Code points split at the first occurrence of a separator, if there is one. -/
def splitFirst (sep : Nat) (cs : List Nat) : Option (List Nat × List Nat) :=
  match cs.dropWhile (· != sep) with
  | [] => none
  | _ :: after => some (cs.takeWhile (· != sep), after)

theorem splitOn_cons (sep c : Nat) (rest : List Nat) :
    splitOn sep (c :: rest) =
      if c == sep then [] :: splitOn sep rest
      else match splitOn sep rest with
        | first :: more => (c :: first) :: more
        | [] => [[c]] := rfl

theorem mem_of_mem_splitOn {sep c : Nat} {cs piece : List Nat} (member : piece ∈ splitOn sep cs)
    (inside : c ∈ piece) : c ∈ cs := by
  induction cs generalizing piece with
  | nil =>
    rw [List.mem_singleton.mp member] at inside
    cases inside
  | cons x rest ih =>
    rw [splitOn_cons] at member
    split at member
    · rcases List.mem_cons.mp member with rfl | later
      · cases inside
      · exact List.mem_cons_of_mem x (ih later inside)
    · split at member
      · rename_i first more pieces
        rcases List.mem_cons.mp member with rfl | later
        · rcases List.mem_cons.mp inside with rfl | inFirst
          · exact List.mem_cons_self
          · exact List.mem_cons_of_mem x (ih (by rw [pieces]; exact List.mem_cons_self) inFirst)
        · exact List.mem_cons_of_mem x (ih (by rw [pieces]; exact List.mem_cons_of_mem _ later) inside)
      · rw [List.mem_singleton.mp member] at inside
        rw [List.mem_singleton.mp inside]
        exact List.mem_cons_self

theorem mem_of_splitFirst {sep c : Nat} {cs before after : List Nat}
    (split : splitFirst sep cs = some (before, after)) :
    (c ∈ before → c ∈ cs) ∧ (c ∈ after → c ∈ cs) := by
  unfold splitFirst at split
  split at split
  · cases split
  · rename_i x rest dropped
    cases split
    refine ⟨fun inside => (List.takeWhile_sublist _).subset inside, fun inside => ?_⟩
    have whole : c ∈ cs.dropWhile (· != sep) := by rw [dropped]; exact List.mem_cons_of_mem x inside
    exact (List.dropWhile_sublist _).subset whole

namespace Text

/-- A text split at every occurrence of a separator. -/
def splitOn (sep : Nat) (t : Text) : List Text :=
  (MessageBus.splitOn sep t.codes).attach.map fun ⟨piece, member⟩ =>
    ⟨piece, fun c inside => t.bounded c (mem_of_mem_splitOn member inside)⟩

/-- A text split at the first occurrence of a separator, if there is one. -/
def splitFirst (sep : Nat) (t : Text) : Option (Text × Text) :=
  match split : MessageBus.splitFirst sep t.codes with
  | some (before, after) =>
    some (⟨before, fun c inside => t.bounded c ((mem_of_splitFirst split).1 inside)⟩,
      ⟨after, fun c inside => t.bounded c ((mem_of_splitFirst split).2 inside)⟩)
  | none => none

end Text

namespace Escapes

/-- The value of a hexadecimal digit. -/
def hexDigit? (c : Nat) : Option Nat :=
  if 48 ≤ c && c ≤ 57 then some (c - 48)
  else if 65 ≤ c && c ≤ 70 then some (c - 55)
  else if 97 ≤ c && c ≤ 102 then some (c - 87)
  else none

/-- ASCII code points with `%` escapes turned into the octets they stand for; a `%` not followed
by two hexadecimal digits stands for itself. -/
def octets : List Nat → List UInt8
  | 37 :: a :: b :: rest =>
    match hexDigit? a, hexDigit? b with
    | some x, some y => (x * 16 + y).toUInt8 :: octets rest
    | _, _ => 37 :: octets (a :: b :: rest)
  | c :: rest => c.toUInt8 :: octets rest
  | [] => []

/-- Runs of ASCII and of other code points, in order, each with whether it is ASCII. -/
def runs : List Nat → List (Bool × List Nat)
  | [] => []
  | c :: rest =>
    match runs rest with
    | (ascii, run) :: more =>
      if ascii == decide (c < 128) then (ascii, c :: run) :: more
      else (decide (c < 128), [c]) :: (ascii, run) :: more
    | [] => [(decide (c < 128), [c])]

/-- Decode `%` escapes: each run of ASCII code points has its escapes replaced by their octets,
which must read as UTF-8 on their own; other code points stay as they are. -/
def decode (cs : List Nat) : Option (List Nat) :=
  if !cs.contains 37 then some cs
  else
    (runs cs).foldlM (fun acc (ascii, run) =>
      if ascii then
        match Utf8.decode (octets run) with
        | .ok t => some (acc ++ t.codes)
        | .error _ => none
      else some (acc ++ run)) []

theorem mem_of_mem_runs {cs run : List Nat} {ascii : Bool} {c : Nat}
    (member : (ascii, run) ∈ runs cs) (inside : c ∈ run) : c ∈ cs := by
  induction cs generalizing ascii run with
  | nil => cases member
  | cons x rest ih =>
    unfold runs at member
    split at member
    · rename_i ascii' run' more found
      have inRest {a : Bool} {r : List Nat} (m : (a, r) ∈ runs rest) (i : c ∈ r) : c ∈ x :: rest :=
        List.mem_cons_of_mem x (ih m i)
      split at member
      · rcases List.mem_cons.mp member with same | later
        · cases same
          rcases List.mem_cons.mp inside with rfl | inRun
          · exact List.mem_cons_self
          · exact inRest (by rw [found]; exact List.mem_cons_self) inRun
        · exact inRest (by rw [found]; exact List.mem_cons_of_mem _ later) inside
      · rcases List.mem_cons.mp member with same | later
        · cases same
          rw [List.mem_singleton.mp inside]
          exact List.mem_cons_self
        · exact inRest (by rw [found]; exact later) inside
    · cases List.mem_singleton.mp member
      rw [List.mem_singleton.mp inside]
      exact List.mem_cons_self

/-- A fold in `Option` ends where every step that starts from an accumulator with the property,
on an element of the list, leads: at an accumulator with the property. -/
theorem foldlM_some_keeps {α β : Type} (keeps : β → Prop) (good : α → Prop) {f : β → α → Option β}
    (step : ∀ acc x acc', good x → keeps acc → f acc x = some acc' → keeps acc') :
    ∀ {xs : List α} {acc result : β}, (∀ x ∈ xs, good x) → keeps acc → xs.foldlM f acc = some result →
      keeps result := by
  intro xs
  induction xs with
  | nil =>
    intro acc result _ kept done
    cases done
    exact kept
  | cons x more ih =>
    intro acc result allGood kept done
    rw [List.foldlM_cons] at done
    cases next : f acc x with
    | none =>
      rw [next] at done
      cases done
    | some acc' =>
      rw [next] at done
      exact ih (fun y member => allGood y (List.mem_cons_of_mem _ member))
        (step acc x acc' (allGood x List.mem_cons_self) kept next) done

/-- Every code point of decoded escapes is a decoded character or one of the input's. -/
theorem decode_lt {cs decoded : List Nat} (bounded : ∀ c ∈ cs, c < 0x110000)
    (reads : decode cs = some decoded) : ∀ c ∈ decoded, c < 0x110000 := by
  unfold decode at reads
  split at reads
  · cases reads
    exact bounded
  · refine foldlM_some_keeps (fun acc => ∀ c ∈ acc, c < 0x110000) (· ∈ runs cs) ?_ (fun _ member => member)
      (fun c member => by cases member) reads
    intro acc r acc' fromRuns accBounded stepped
    obtain ⟨ascii, run⟩ := r
    dsimp only at stepped
    split at stepped
    · cases read : Utf8.decode (octets run) with
      | ok t =>
        rw [read] at stepped
        cases stepped
        intro c inside
        rcases List.mem_append.mp inside with old | new
        · exact accBounded c old
        · exact t.bounded c new
      | error _ =>
        rw [read] at stepped
        cases stepped
    · cases stepped
      intro c inside
      rcases List.mem_append.mp inside with old | new
      · exact accBounded c old
      · exact bounded c (mem_of_mem_runs fromRuns new)

/-- The `%` escapes of a text decoded. -/
def decodeText (t : Text) : Option Text :=
  match reads : decode t.codes with
  | some decoded => some ⟨decoded, decode_lt t.bounded reads⟩
  | none => none

end Escapes

/-- Read the options of an entry, in order. -/
def parseOptions (pairs : List Text) : Except BusError (List (Text × Text)) :=
  pairs.foldlM (fun (options : List (Text × Text)) pair =>
    if pair.isEmpty then .ok options
    else
      match pair.splitFirst 61 with
      | none => .error (.connection ("malformed bus address, expected key=value: " ++ pair.quoted))
      | some (key, value) =>
        if key.isEmpty || value.isEmpty then
          .error (.connection ("malformed bus address, empty key or value: " ++ pair.quoted))
        else if options.any (·.1 == key) then
          .error (.connection ("malformed bus address, duplicate key: " ++ key.quoted))
        else
          match Escapes.decodeText value with
          | some v => .ok (options ++ [(key, v)])
          | none => .error (.connection ("malformed bus address, bad escape in: " ++ pair.quoted)))
    []

/-- The entries of a bus address. -/
def parseAddress (address : Text) : Except BusError (List Address) := do
  let entries ← (address.splitOn 59).foldlM (fun (entries : List Address) entry =>
    if entry.isEmpty then .ok entries
    else
      match entry.splitFirst 58 with
      | none => .error (.connection ("malformed bus address, no transport: " ++ entry.quoted))
      | some (transport, rest) =>
        if transport.isEmpty then
          .error (.connection ("malformed bus address, empty transport: " ++ entry.quoted))
        else do
          let options ← parseOptions (rest.splitOn 44)
          pure (entries ++ [⟨transport, options⟩])) []
  if entries.isEmpty then throw (.connection "bus address is empty")
  pure entries

/-- The session bus's address, from the environment variable the settings name. -/
def sessionAddress (settings : Settings) (env : Environment) : Except BusError Text :=
  let name := settings.sessionVariable.toString
  match env.get? name with
  | none => .error (.connection ("session bus address not set: $" ++ name ++ " is missing"))
  | some a =>
    if a.isEmpty then .error (.connection ("session bus address not set: $" ++ name ++
      " is empty"))
    else .ok a

/-- The system bus's address, as the settings give it. -/
def systemAddress (settings : Settings) : Text := settings.systemBusAddress

/-- Dial the first entry of an address that connects, with `dial` connecting to a socket (its
failure is the operating system's description). Gives the connection and the entry used. -/
def connectAddress {σ : Type} (dial : Text → Except String σ) (address : Text) :
    Except BusError (σ × Address) := do
  let entries ← parseAddress address
  let rec go (failures : List String) : List Address → Except BusError (σ × Address)
    | [] => .error (.connection (String.intercalate "; " failures.reverse))
    | entry :: rest =>
      match entry.socketPath with
      | .error e => go (e.message :: failures) rest
      | .ok target =>
        match dial target with
        | .ok s => .ok (s, entry)
        | .error why =>
          let shown : Text := ⟨target.codes.dropWhile (· == 0),
            fun c inside => target.bounded c ((List.dropWhile_sublist _).subset inside)⟩
          go (("cannot connect to " ++ shown.quoted ++ ": " ++ why) :: failures) rest
  go [] entries

end MessageBus
