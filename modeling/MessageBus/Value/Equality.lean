import MessageBus.Value.Basic

namespace MessageBus.Value

/-- A truth value as the integer it counts as. -/
def boolInt (b : Bool) : Int := if b then 1 else 0

mutual

/-- Equality of values. -/
def equal : Value → Value → Bool
  | .none, .none => true
  | .bool a, .bool b => a == b
  | .bool a, .int n => boolInt a == n
  | .int n, .bool a => n == boolInt a
  | .bool a, .float x => x.eqInt (boolInt a)
  | .float x, .bool a => x.eqInt (boolInt a)
  | .int a, .int b => a == b
  | .int n, .float x => x.eqInt n
  | .float x, .int n => x.eqInt n
  | .float x, .float y => x.eqValue y
  | .str a, .str b => a == b
  | .bytes a, .bytes b => a.toList == b.toList
  | .list xs, .list ys => equalLists xs ys
  | .tuple xs, .tuple ys => equalLists xs ys
  | .dict a, .dict b => a.length == b.length && entriesWithin a b
  | .variant s v, .variant t w => equal s t && equal v w
  | _, _ => false

/-- Element-wise equality of two sequences of the same length. -/
def equalLists : List Value → List Value → Bool
  | [], [] => true
  | x :: xs, y :: ys => equal x y && equalLists xs ys
  | _, _ => false

/-- Whether every entry of the first dictionary has its key in the second, with an equal
value. -/
def entriesWithin : List (Value × Value) → List (Value × Value) → Bool
  | [], _ => true
  | (k, v) :: rest, other => entryIn k v other && entriesWithin rest other

/-- Whether key `k` stands in the entries with a value equal to `v`; the first equal key
decides. -/
def entryIn (k v : Value) : List (Value × Value) → Bool
  | [] => false
  | (k', v') :: rest => if equal k k' then equal v v' else entryIn k v rest

end

/-- Insert an entry into dictionary entries: an equal key keeps its place and takes the new
value, a new key goes last. -/
def insertEntry (entries : List (Value × Value)) (k v : Value) : List (Value × Value) :=
  match entries with
  | [] => [(k, v)]
  | (k', v') :: rest => if equal k' k then (k', v) :: rest else (k', v') :: insertEntry rest k v

/-- The dictionary built from entries one after another. -/
def dictOf (entries : List (Value × Value)) : Value :=
  .dict (entries.foldl (fun acc (k, v) => insertEntry acc k v) [])

end MessageBus.Value
