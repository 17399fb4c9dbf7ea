import MessageBus.Decimal.Shortest
import MessageBus.Text.Basic

namespace MessageBus.Binary64

open Decimal

/-- The text of a nonzero decimal whose digits carry no trailing zero, by the layout rule. -/
def layout (d : Dec) : String :=
  let s := Digits.decimal d.digits
  let len : Int := s.length
  let point := len + d.exp
  if point ≤ -4 || point > 16 then
    let rest := s.drop 1
    let e := point - 1
    let sign := if e < 0 then "-" else "+"
    let ed := Digits.decimal e.natAbs
    let ed := if ed.length < 2 then "0" ++ ed else ed
    String.ofList (s.toList.take 1) ++ (if rest.isEmpty then "" else "." ++ rest.toString) ++ "e" ++ sign ++ ed
  else if point ≤ 0 then
    "0." ++ String.ofList (List.replicate (-point).toNat '0') ++ s
  else if point ≥ len then
    s ++ String.ofList (List.replicate (point - len).toNat '0') ++ ".0"
  else
    String.ofList (s.toList.take point.toNat) ++ "." ++ String.ofList (s.toList.drop point.toNat)

/-- The shortest text that reads back as the value. -/
def text (x : Binary64) : String :=
  let sign := if x.negative then "-" else ""
  match x.kind with
  | .nan => "nan"
  | .infinite => sign ++ "inf"
  | .finite m q =>
    if m = 0 then sign ++ "0.0"
    else
      let narrow := x.fractionField = 0 && x.exponentField > 1
      sign ++ layout (shortest m q narrow)

/-- `n / d` rounded to the nearest natural number, ties to even. -/
def roundHalfEven (n d : Nat) : Nat :=
  let q := n / d
  let r := n % d
  if 2 * r > d || (2 * r == d && q % 2 == 1) then q + 1 else q

/-- The value with `places` digits after the point, rounded to the nearest, ties to even. -/
def fixed (places : Nat) (x : Binary64) : String :=
  let sign := if x.negative then "-" else ""
  match x.kind with
  | .nan => "nan"
  | .infinite => sign ++ "inf"
  | .finite m q =>
    let scaled : Nat :=
      if q ≥ 0 then m * Nat.pow 2 q.toNat * Nat.pow 10 places
      else roundHalfEven (m * Nat.pow 10 places) (Nat.pow 2 (-q).toNat)
    let s := Digits.decimal scaled
    let s := String.ofList (List.replicate (places + 1 - s.length) '0') ++ s
    let whole := String.ofList (s.toList.take (s.length - places))
    let frac := String.ofList (s.toList.drop (s.length - places))
    sign ++ whole ++ (if places = 0 then "" else "." ++ frac)

end MessageBus.Binary64
