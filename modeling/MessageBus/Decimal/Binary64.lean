namespace MessageBus

/-- A binary64 value, by its bits. -/
structure Binary64 where
  bits : UInt64
  deriving DecidableEq, Inhabited, Hashable

namespace Binary64

/-- What a binary64 value stands for, apart from its sign. -/
inductive Kind where
  | nan
  | infinite
  /-- The magnitude `m * 2^q`. -/
  | finite (m : Nat) (q : Int)
  deriving DecidableEq, Repr

/-- Whether the sign bit is set. -/
def negative (x : Binary64) : Bool := x.bits >>> 63 == 1

/-- The biased exponent field. -/
def exponentField (x : Binary64) : Nat := ((x.bits >>> 52) &&& 0x7FF).toNat

/-- The fraction field. -/
def fractionField (x : Binary64) : Nat := (x.bits &&& 0xFFFFFFFFFFFFF).toNat

/-- What the value stands for. -/
def kind (x : Binary64) : Kind :=
  let e := x.exponentField
  let f := x.fractionField
  if e = 0x7FF then (if f = 0 then .infinite else .nan)
  else if e = 0 then .finite f (-1074)
  else .finite (Nat.pow 2 52 + f) ((e : Int) - 1075)

/-- Whether the value is a NaN. -/
def isNaN (x : Binary64) : Bool := x.kind == .nan

/-- Whether the value is an infinity. -/
def isInfinite (x : Binary64) : Bool := x.kind == .infinite

/-- Whether the value is a zero of either sign. -/
def isZero (x : Binary64) : Bool := x.bits &&& 0x7FFFFFFFFFFFFFFF == 0

/-- The value from its sign, biased exponent and fraction fields. -/
def ofFields (neg : Bool) (e f : Nat) : Binary64 :=
  ⟨((if neg then (1 : UInt64) else 0) <<< 63 ||| (e.toUInt64 <<< 52) ||| f.toUInt64)⟩

/-- A zero. -/
def zero (neg : Bool) : Binary64 := ofFields neg 0 0

/-- An infinity. -/
def infinity (neg : Bool) : Binary64 := ofFields neg 0x7FF 0

/-- The quiet NaN that reading "nan" gives. -/
def quietNaN (neg : Bool) : Binary64 := ofFields neg 0x7FF (Nat.pow 2 51)

/-- The value with its sign bit flipped. -/
def negate (x : Binary64) : Binary64 := ⟨x.bits ^^^ 0x8000000000000000⟩

/-- `num * 2^(-e) / den`, as a quotient and remainder: the magnitude at scale `2^e`. -/
def scaleDown (num den : Nat) (e : Int) : Nat × Nat :=
  if e ≥ 0 then
    let d := den * Nat.pow 2 e.toNat
    (num / d, num % d)
  else
    let n := num * Nat.pow 2 (-e).toNat
    (n / den, n % den)

/-- The exponent `e` at which `num / den` (positive) has a 53-bit integer part: the least normal
scale is `-1074`. -/
def scaleOf (num den : Nat) : Int :=
  let estimate : Int := (Nat.log2 num : Int) - (Nat.log2 den : Int) - 52
  let e := if (scaleDown num den estimate).1 ≥ Nat.pow 2 52 then estimate else estimate - 1
  max e (-1074)

/-- The nearest binary64 value to `num / den` (with `den > 0`), ties to even, signed by `neg`. -/
def ofRatio (neg : Bool) (num den : Nat) : Binary64 :=
  if num = 0 then zero neg
  else
    let e := scaleOf num den
    let (q, r) := scaleDown num den e
    let denAt := if e ≥ 0 then den * Nat.pow 2 e.toNat else den
    let up := 2 * r > denAt || (2 * r == denAt && q % 2 == 1)
    let m := if up then q + 1 else q
    let (m, e) := if m = Nat.pow 2 53 then (Nat.pow 2 52, e + 1) else (m, e)
    if e > 971 then infinity neg
    else if m < Nat.pow 2 52 then ofFields neg 0 m
    else ofFields neg (e + 1075).toNat (m - Nat.pow 2 52)

/-- The number of decimal digits of a positive natural number. -/
def digitCount (n : Nat) : Nat := (Nat.toDigits 10 n).length

/-- The nearest binary64 value to `digits * 10^exp`, signed by `neg`. Far out of range the
result is an infinity or a zero without computing the power. -/
def ofDecimal (neg : Bool) (digits : Nat) (exp : Int) : Binary64 :=
  if digits = 0 then zero neg
  else
    let n := digitCount digits
    if (n : Int) - 1 + exp > 309 then infinity neg
    else if (n : Int) + exp < -330 then zero neg
    else if exp ≥ 0 then ofRatio neg (digits * Nat.pow 10 exp.toNat) 1
    else ofRatio neg digits (Nat.pow 10 (-exp).toNat)

/-- The nearest binary64 value to an integer; none when it rounds past the largest finite. -/
def ofInt? (n : Int) : Option Binary64 :=
  let x := ofRatio (n < 0) n.natAbs 1
  if x.isInfinite then none else some x

/-- The integer part of a finite value, rounded toward zero. -/
def truncate (x : Binary64) : Option Int :=
  match x.kind with
  | .finite m q =>
    let mag : Nat := if q ≥ 0 then m * Nat.pow 2 q.toNat else m / Nat.pow 2 (-q).toNat
    some (if x.negative then -(mag : Int) else mag)
  | _ => none

/-- Whether a finite value equals an integer exactly. -/
def eqInt (x : Binary64) (n : Int) : Bool :=
  match x.kind with
  | .finite m q =>
    if m = 0 then n = 0
    else if x.negative != decide (n < 0) then false
    else if q ≥ 0 then m * Nat.pow 2 q.toNat = n.natAbs
    else m = n.natAbs * Nat.pow 2 (-q).toNat
  | _ => false

/-- Equality of values as numbers: NaN equals nothing, and the two zeros are equal. -/
def eqValue (x y : Binary64) : Bool :=
  if x.isNaN || y.isNaN then false
  else if x.isZero && y.isZero then true
  else x.bits == y.bits

/-- Whether the value is at most zero; a NaN is not. -/
def nonPositive (x : Binary64) : Bool :=
  !x.isNaN && (x.isZero || x.negative)

end Binary64

end MessageBus
