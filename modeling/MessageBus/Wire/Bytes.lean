namespace MessageBus

/-- Byte order of a frame. -/
inductive ByteOrder where
  | little
  | big
  deriving DecidableEq, Repr, Inhabited

namespace Word

/-- `n mod 256^width` in `width` octets, least significant first. -/
def octetsLE : Nat → Nat → List UInt8
  | 0, _ => []
  | w + 1, n => (n % 256).toUInt8 :: octetsLE w (n / 256)

/-- The value of octets, least significant first. -/
def valueLE : List UInt8 → Nat
  | [] => 0
  | b :: rest => b.toNat + 256 * valueLE rest

/-- `n mod 256^width` in `width` octets in a byte order. -/
def octets (order : ByteOrder) (width n : Nat) : List UInt8 :=
  match order with
  | .little => octetsLE width n
  | .big => (octetsLE width n).reverse

/-- The value of octets in a byte order. -/
def value (order : ByteOrder) (bytes : List UInt8) : Nat :=
  match order with
  | .little => valueLE bytes
  | .big => valueLE bytes.reverse

/-- A signed integer in two's complement of `width` octets. -/
def signedOctets (order : ByteOrder) (width : Nat) (n : Int) : List UInt8 :=
  octets order width (n % (Nat.pow 2 (8 * width) : Nat)).toNat

/-- The signed value of octets in two's complement. -/
def signedValue (order : ByteOrder) (bytes : List UInt8) : Int :=
  let v := value order bytes
  if v ≥ Nat.pow 2 (8 * bytes.length - 1) then (v : Int) - (Nat.pow 2 (8 * bytes.length) : Nat) else v

end Word

/-- The zero octets that bring offset `o` to a multiple of `a`. -/
def padding (o a : Nat) : Nat := (a - o % a) % a

/-- The octets of a byte array from `start`, `count` of them. -/
def ByteArray.slice (b : ByteArray) (start count : Nat) : List UInt8 :=
  (b.extract start (start + count)).toList

end MessageBus
