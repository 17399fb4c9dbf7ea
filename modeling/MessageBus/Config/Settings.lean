import MessageBus.Value.Numeric

namespace MessageBus

/-- The configuration keys. -/
inductive Key where
  | timeout
  | authTimeout
  | maxLine
  | maxBuffer
  | readSize
  | systemBusAddress
  | sessionVariable
  deriving DecidableEq, Repr

namespace Key

/-- Every key, in the order values are converted. -/
def all : List Key :=
  [.timeout, .authTimeout, .maxLine, .maxBuffer, .readSize, .systemBusAddress, .sessionVariable]

/-- The name of a key. -/
def name : Key → String
  | .timeout => "timeout"
  | .authTimeout => "auth_timeout"
  | .maxLine => "max_line"
  | .maxBuffer => "max_buffer"
  | .readSize => "read_size"
  | .systemBusAddress => "system_bus_address"
  | .sessionVariable => "session_variable"

/-- The key a name stands for. -/
def ofName? (t : Text) : Option Key := all.find? (fun k => Text.ofString k.name == t)

/-- The default value of a key. -/
def default : Key → Value
  | .timeout => .float (Binary64.ofDecimal false 25 0)
  | .authTimeout => .float (Binary64.ofDecimal false 5 0)
  | .maxLine => .int 16384
  | .maxBuffer => .int 134217728
  | .readSize => .int 4096
  | .systemBusAddress => Value.ofString "unix:path=/var/run/dbus/system_bus_socket"
  | .sessionVariable => Value.ofString "DBUS_SESSION_BUS_ADDRESS"

/-- The kinds of value a key holds. -/
inductive Kind where
  | seconds
  | size
  | text

/-- The kind of value a key holds. -/
def kind : Key → Kind
  | .timeout | .authTimeout => .seconds
  | .maxLine | .maxBuffer | .readSize => .size
  | .systemBusAddress | .sessionVariable => .text

end Key

/-- Why settings cannot be made or loaded. -/
inductive ConfigError where
  | unknownKey (key : Text)
  | nullKey (key : Key)
  | notPositive (key : Key)
  | number (e : NumberError)
  /-- The configuration file holds JSON that is not an object; its path is given. -/
  | notObject (path : Text)
  /-- The configuration file is not JSON. -/
  | badJson
  | noDirectory
  | relativeDefault

/-- The kind of a configuration failure, as the caller's language classes it. -/
def ConfigError.kind : ConfigError → String
  | .number e => e.kind
  | .badJson => "JSONDecodeError"
  | .noDirectory => "RuntimeError"
  | _ => "ValueError"

/-- The message of a configuration failure. -/
def ConfigError.message : ConfigError → String
  | .unknownKey k => "unknown configuration key: " ++ k.quoted
  | .nullKey k => "configuration key " ++ Text.quotedString k.name ++ " cannot be null"
  | .notPositive k => "configuration key " ++ Text.quotedString k.name ++ " must be positive"
  | .number e => e.message
  | .notObject path => "configuration file must contain a JSON object: " ++ path.toString
  | .badJson => ""
  | .noDirectory =>
    "BUSLINE_HOME and HOME environment variables not set, cannot determine busline " ++
      "configuration directory"
  | .relativeDefault => "the default directory must be an absolute path"

/-- Connection settings. -/
structure Settings where
  /-- How long a call waits for its reply, in seconds; `none` waits for ever. -/
  timeout : Option Binary64
  /-- How long the handshake waits for each line, in seconds. -/
  authTimeout : Binary64
  /-- The longest handshake line, in octets. -/
  maxLine : Int
  /-- The longest frame, in octets. -/
  maxBuffer : Int
  /-- How many octets one read asks for. -/
  readSize : Int
  systemBusAddress : Text
  sessionVariable : Text

/-- A converted value of a key. -/
inductive Setting where
  | seconds (x : Option Binary64)
  | size (n : Int)
  | text (t : Text)

/-- Convert a value for a key. -/
def Key.convert (k : Key) (v : Value) : Except ConfigError Setting :=
  match v with
  | .none => if k == .timeout then .ok (.seconds none) else .error (.nullKey k)
  | v =>
    match k.kind with
    | .seconds =>
      match v.toFloat with
      | .error e => .error (.number e)
      | .ok x => .ok (.seconds (if k == .timeout && x.nonPositive then none else some x))
    | .size =>
      match v.toInt with
      | .error e => .error (.number e)
      | .ok n => if n ≤ 0 then .error (.notPositive k) else .ok (.size n)
    | .text =>
      -- text keeps its code points, a lone surrogate included
      match v with
      | .str t => .ok (.text t)
      | other => .ok (.text (Text.ofString other.plain))

/-- The value given last for a name among named values. -/
def lastValue (values : List (Text × Value)) (name : Text) : Option Value :=
  (values.reverse.find? (·.1 == name)).map Prod.snd

namespace Settings

/-- Settings from named values: every name must be a key, and a key not given takes its
default. -/
def ofValues (values : List (Text × Value)) : Except ConfigError Settings := do
  match values.find? (fun (n, _) => (Key.ofName? n).isNone) with
  | some (n, _) => throw (.unknownKey n)
  | none => pure ()
  let get (k : Key) : Except ConfigError Setting :=
    k.convert ((lastValue values (Text.ofString k.name)).getD k.default)
  let seconds (k : Key) : Except ConfigError (Option Binary64) := do
    match ← get k with
    | .seconds x => pure x
    | _ => pure none
  let size (k : Key) : Except ConfigError Int := do
    match ← get k with
    | .size n => pure n
    | _ => pure 0
  let text (k : Key) : Except ConfigError Text := do
    match ← get k with
    | .text t => pure t
    | _ => pure Text.empty
  let timeout ← seconds .timeout
  let authTimeout ← seconds .authTimeout
  let maxLine ← size .maxLine
  let maxBuffer ← size .maxBuffer
  let readSize ← size .readSize
  let systemBusAddress ← text .systemBusAddress
  let sessionVariable ← text .sessionVariable
  pure { timeout, authTimeout := authTimeout.getD (Binary64.zero false), maxLine, maxBuffer,
         readSize, systemBusAddress, sessionVariable }

/-- The default settings. -/
def defaults : Settings where
  timeout := some (Binary64.ofDecimal false 25 0)
  authTimeout := Binary64.ofDecimal false 5 0
  maxLine := 16384
  maxBuffer := 134217728
  readSize := 4096
  systemBusAddress := Text.ofString "unix:path=/var/run/dbus/system_bus_socket"
  sessionVariable := Text.ofString "DBUS_SESSION_BUS_ADDRESS"

/-- The value of a key. -/
def value (s : Settings) : Key → Value
  | .timeout => match s.timeout with
    | some x => .float x
    | none => .none
  | .authTimeout => .float s.authTimeout
  | .maxLine => .int s.maxLine
  | .maxBuffer => .int s.maxBuffer
  | .readSize => .int s.readSize
  | .systemBusAddress => .str s.systemBusAddress
  | .sessionVariable => .str s.sessionVariable

/-- Every key with its value. -/
def values (s : Settings) : List (Text × Value) :=
  Key.all.map (fun k => (Text.ofString k.name, s.value k))

/-- The settings with some keys given new values, converted again. -/
def replace (s : Settings) (changes : List (Text × Value)) : Except ConfigError Settings :=
  ofValues (s.values ++ changes)

end Settings

end MessageBus
