import MessageBus.Text.Quoted
import MessageBus.Decimal.Format

namespace MessageBus

/-- A caller's value. -/
inductive Value where
  | none
  | bool (b : Bool)
  | int (n : Int)
  | float (x : Binary64)
  | str (t : Text)
  | bytes (b : ByteArray)
  | list (xs : List Value)
  | tuple (xs : List Value)
  | dict (entries : List (Value × Value))
  /-- A value tagged with the signature it is written with; the signature is itself a value,
  which a check finds wrong unless it is text naming one complete type. -/
  | variant (signature : Value) (value : Value)
  deriving Inhabited

namespace Value

/-- The name of a value's kind, as messages cite it. -/
def kindName : Value → String
  | .none => "NoneType"
  | .bool _ => "bool"
  | .int _ => "int"
  | .float _ => "float"
  | .str _ => "str"
  | .bytes _ => "bytes"
  | .list _ => "list"
  | .tuple _ => "tuple"
  | .dict _ => "dict"
  | .variant _ _ => "Variant"

/-- Text from a string. -/
def ofString (s : String) : Value := .str (Text.ofString s)

mutual

/-- The literal form of a value: text quoted, containers with their brackets, a tuple of one
with its trailing comma. -/
def literal : Value → String
  | .none => "None"
  | .bool b => if b then "True" else "False"
  | .int n => Digits.int n
  | .float x => x.text
  | .str t => t.quoted
  | .bytes b => Octets.quoted b.toList
  | .list xs => "[" ++ literalList xs ++ "]"
  | .tuple [x] => "(" ++ literal x ++ ",)"
  | .tuple xs => "(" ++ literalList xs ++ ")"
  | .dict entries => "\x7b" ++ literalEntries entries ++ "\x7d"
  | .variant s v => "Variant(" ++ literal s ++ ", " ++ literal v ++ ")"

/-- Literal forms separated by commas. -/
def literalList : List Value → String
  | [] => ""
  | [x] => literal x
  | x :: xs => literal x ++ ", " ++ literalList xs

/-- Dictionary entries, key and value joined by a colon. -/
def literalEntries : List (Value × Value) → String
  | [] => ""
  | [(k, v)] => literal k ++ ": " ++ literal v
  | (k, v) :: rest => literal k ++ ": " ++ literal v ++ ", " ++ literalEntries rest

end

/-- The plain form of a value: text as it is, anything else as its literal form. -/
def plain : Value → String
  | .str t => t.toString
  | v => v.literal

/-- Whether a value counts as true: nothing, false, zero, and empty text, bytes and containers
count as false. -/
def truthy : Value → Bool
  | .none => false
  | .bool b => b
  | .int n => n != 0
  | .float x => !x.isZero
  | .str t => !t.isEmpty
  | .bytes b => b.size != 0
  | .list xs => !xs.isEmpty
  | .tuple xs => !xs.isEmpty
  | .dict entries => !entries.isEmpty
  | .variant _ _ => true

/-- The elements of a value that is a sequence: the items of a list or tuple, the octets of a
byte string as integers, the characters of a text, the keys of a dictionary. -/
def elements? : Value → Option (List Value)
  | .list xs => some xs
  | .tuple xs => some xs
  | .bytes b => some (b.toList.map (fun o => .int o.toNat))
  | .str t => some (t.chars.map .str)
  | .dict entries => some (entries.map Prod.fst)
  | _ => Option.none

end Value

end MessageBus
