import MessageBus.Text.Basic

namespace MessageBus

/-- A JSON number as written: `digits * 10^exponent`, its sign, and whether it was written
without a fraction or an exponent. -/
structure JsonNumber where
  negative : Bool
  digits : Nat
  exponent : Int
  integral : Bool
  deriving DecidableEq, Repr, Inhabited

/-- A JSON document. Object members keep their order, repeated names included. -/
inductive Json where
  | null
  | bool (b : Bool)
  | number (n : JsonNumber)
  | string (t : Text)
  | array (items : List Json)
  | object (members : List (Text × Json))
  deriving Inhabited

namespace Json

/-- A number from an integer. -/
def ofInt (n : Int) : Json := .number ⟨n < 0, n.natAbs, 0, true⟩

/-- A string from a Lean string. -/
def str (s : String) : Json := .string (Text.ofString s)

/-- An object from names given as strings. -/
def obj (members : List (String × Json)) : Json :=
  .object (members.map (fun (k, v) => (Text.ofString k, v)))

/-- The value of the last member with a given name. -/
def field? (j : Json) (name : String) : Option Json :=
  match j with
  | .object members =>
    (members.reverse.find? (fun m => m.1 == Text.ofString name)).map Prod.snd
  | _ => none

/-- A `\u` escape of a 16-bit unit. -/
def unitEscape (u : Nat) : String := "\\u" ++ Digits.hex 4 u

/-- One code point inside a written string. -/
def escapeCode (c : Nat) : String :=
  if c = 34 then "\\\""
  else if c = 92 then "\\\\"
  else if c = 10 then "\\n"
  else if c = 13 then "\\r"
  else if c = 9 then "\\t"
  else if c < 32 || c ≥ 127 then
    if c ≥ 0x10000 then
      let v := c - 0x10000
      unitEscape (0xD800 + v / 1024) ++ unitEscape (0xDC00 + v % 1024)
    else unitEscape c
  else String.singleton (Char.ofNat c)

/-- A written string, quotes included. -/
def renderText (t : Text) : String :=
  "\"" ++ t.codes.foldl (fun acc c => acc ++ escapeCode c) "" ++ "\""

/-- A written number. -/
def renderNumber (n : JsonNumber) : String :=
  let sign := if n.negative then "-" else ""
  if n.exponent = 0 then sign ++ Digits.decimal n.digits
  else sign ++ Digits.decimal n.digits ++ "e" ++ Digits.int n.exponent

mutual

/-- A document on one line. -/
def render : Json → String
  | .null => "null"
  | .bool b => if b then "true" else "false"
  | .number n => renderNumber n
  | .string t => renderText t
  | .array items => "[" ++ renderItems items ++ "]"
  | .object members => "\x7b" ++ renderMembers members ++ "\x7d"

/-- Array items separated by commas. -/
def renderItems : List Json → String
  | [] => ""
  | [x] => render x
  | x :: rest => render x ++ "," ++ renderItems rest

/-- Object members separated by commas. -/
def renderMembers : List (Text × Json) → String
  | [] => ""
  | [(k, v)] => renderText k ++ ":" ++ render v
  | (k, v) :: rest => renderText k ++ ":" ++ render v ++ "," ++ renderMembers rest

end

end Json

end MessageBus
