import MessageBus.Config.Settings
import MessageBus.Json.Reader
import MessageBus.Text.Utf8
import MessageBus.Value.Equality

namespace MessageBus

/-- What a process sees: its environment variables, and the files it can read, by path. -/
structure Environment where
  /-- Variables, a later binding of a name replacing an earlier one. -/
  bindings : List (String × Text)
  /-- The contents of the file at a path, if there is one. -/
  file : Text → Option (List UInt8)

namespace Environment

/-- The value of a variable. -/
def get? (env : Environment) (name : String) : Option Text :=
  (env.bindings.reverse.find? (·.1 == name)).map Prod.snd

end Environment

/-- A path joined to a relative one: a `/` between them unless the first is empty or ends with
one. -/
def joinPath (base : Text) (name : String) : Text :=
  if base.isEmpty || base.codes.getLast? == some 47 then base ++ Text.ofString name
  else base ++ Text.ofString ("/" ++ name)

/-- A JSON number as a caller's value: an integer when written without fraction or exponent
and within the range of 64-bit words, signed or unsigned; else the nearest binary64 number, or
none when that is an infinity. -/
def JsonNumber.toValue? (n : JsonNumber) : Option Value :=
  let i : Int := if n.negative then -(n.digits : Int) else n.digits
  if n.integral && -9223372036854775808 ≤ i && i ≤ 18446744073709551615 then some (.int i)
  else
    let x := Binary64.ofDecimal n.negative n.digits n.exponent
    if x.isInfinite then none else some (.float x)

mutual

/-- The JSON value a document holds, as a caller's value: arrays become lists and objects
dictionaries; none when a number in it is out of range. -/
def Json.toValue? : Json → Option Value
  | .null => some .none
  | .bool b => some (.bool b)
  | .number n => n.toValue?
  | .string t => some (.str t)
  | .array items => (Json.itemValues? items).map Value.list
  | .object members => (Json.memberValues? members).map Value.dictOf

/-- Array items as values. -/
def Json.itemValues? : List Json → Option (List Value)
  | [] => some []
  | j :: rest => do
    let v ← j.toValue?
    let more ← Json.itemValues? rest
    some (v :: more)

/-- Object members as dictionary entries keyed by text. -/
def Json.memberValues? : List (Text × Json) → Option (List (Value × Value))
  | [] => some []
  | (k, j) :: rest => do
    let v ← j.toValue?
    let more ← Json.memberValues? rest
    some ((.str k, v) :: more)

end

namespace Config

/-- The name of the configuration file. -/
def fileName : String := "config.json"

/-- The environment variable that overrides a key. -/
def Key.variable (k : Key) : String := "BUSLINE_" ++ k.name.toUpper

/-- The configuration directory. -/
def directory (env : Environment) (default : Option Text := none) : Except ConfigError Text :=
  match default with
  | some d => if d.codes.head? == some 47 then .ok d else .error .relativeDefault
  | none =>
    match env.get? "BUSLINE_HOME" with
    | some d => .ok d
    | none =>
      match env.get? "HOME" with
      | some home => .ok (joinPath home ".busline")
      | none => .error .noDirectory

/-- The settings a configuration file's octets hold. -/
def fileValues (path : Text) (bytes : List UInt8) : Except ConfigError (List (Text × Value)) :=
  match Utf8.decode bytes with
  | .error _ => .error .badJson
  | .ok text =>
    match Json.parseCodes true text.codes with
    | .error _ => .error .badJson
    | .ok doc =>
      match doc.toValue? with
      | none => .error .badJson
      | some (.dict entries) =>
        .ok (entries.map (fun (k, v) => match k with
          | .str t => (t, v)
          | _ => (Text.empty, v)))
      | _ => .error (.notObject path)

/-- Settings from the configuration file, if any, and the environment. -/
def load (env : Environment) (base : Option Text := none) : Except ConfigError Settings := do
  let dir ← match directory env base with
    | .ok d => pure (some d)
    | .error .noDirectory => pure none
    | .error e => throw e
  let fromFile ← match dir with
    | none => pure []
    | some d =>
      let path := joinPath d fileName
      match env.file path with
      | some bytes => fileValues path bytes
      | none => pure []
  let fromEnv := Key.all.filterMap fun k =>
    (env.get? (Key.variable k)).map fun v => (Text.ofString k.name, Value.str v)
  Settings.ofValues (fromFile ++ fromEnv)

end Config

/-- The settings a process uses, loaded on first use and kept until cleared. Each load is
numbered, so that callers can tell one loaded instance from another. -/
structure ConfigCache where
  loads : Nat := 0
  current : Option (Nat × Settings) := none

namespace ConfigCache

/-- The kept settings with their load number, loading them first if none are kept. -/
def get (c : ConfigCache) (env : Environment) :
    Except ConfigError ((Nat × Settings) × ConfigCache) :=
  match c.current with
  | some s => .ok (s, c)
  | none =>
    match Config.load env with
    | .error e => .error e
    | .ok s =>
      let entry := (c.loads + 1, s)
      .ok (entry, { loads := c.loads + 1, current := some entry })

/-- Forget the kept settings. -/
def clear (c : ConfigCache) : ConfigCache := { c with current := none }

end ConfigCache

end MessageBus
