import MessageBus.Decimal.Binary64

namespace MessageBus.Decimal

/-- A decimal `digits * 10^exp`. -/
structure Dec where
  digits : Nat
  exp : Int
  deriving DecidableEq, Repr

/-- Compare `a * 10^i` with `n * 2^j` exactly. -/
def cmpScaled (a : Nat) (i : Int) (n : Nat) (j : Int) : Ordering :=
  compare (a * Nat.pow 10 i.toNat * Nat.pow 2 (-j).toNat) (n * Nat.pow 2 j.toNat * Nat.pow 10 (-i).toNat)

/-- Whether `d` lies among the reals that round to the magnitude `m * 2^q`; `narrow` says the
value below is half as far away as the value above. -/
def readsBack (m : Nat) (q : Int) (narrow : Bool) (d : Dec) : Bool :=
  let lo := if narrow then 4 * m - 1 else 4 * m - 2
  let hi := 4 * m + 2
  let incl := m % 2 == 0
  let cl := cmpScaled d.digits d.exp lo (q - 2)
  let ch := cmpScaled d.digits d.exp hi (q - 2)
  (cl == .gt || (incl && cl == .eq)) && (ch == .lt || (incl && ch == .eq))

/-- `m * 2^q` divided by `10^g`: quotient, and twice the remainder compared with `10^g`. -/
def divGrid (m : Nat) (q : Int) (g : Int) : Nat × Ordering :=
  let num := m * Nat.pow 2 q.toNat * Nat.pow 10 (-g).toNat
  let den := Nat.pow 2 (-q).toNat * Nat.pow 10 g.toNat
  (num / den, compare (2 * (num % den)) den)

/-- The least `k` with `m * 2^q < 10^k`, found from an estimate and exact comparisons. -/
def scale (m : Nat) (q : Int) : Int :=
  let bits : Int := (Nat.log2 m : Int) + q
  let guess : Int := bits * 30103 / 100000
  let below (k : Int) : Bool := cmpScaled 1 k m q == .gt
  let k0 := guess - 2
  let k1 := if below k0 then k0 else if below (k0 + 1) then k0 + 1 else if below (k0 + 2) then k0 + 2
    else if below (k0 + 3) then k0 + 3 else if below (k0 + 4) then k0 + 4 else k0 + 5
  -- step down while the power below still exceeds the value
  if below (k1 - 1) then (if below (k1 - 2) then k1 - 2 else k1 - 1) else k1

/-- Drop trailing zero digits into the exponent. -/
def strip (d : Dec) : Dec :=
  let rec go (fuel : Nat) (digits : Nat) (exp : Int) : Dec :=
    match fuel with
    | 0 => ⟨digits, exp⟩
    | fuel + 1 =>
      if digits ≠ 0 ∧ digits % 10 = 0 then go fuel (digits / 10) (exp + 1) else ⟨digits, exp⟩
  go 400 d.digits d.exp

/-- The exact decimal value of `m * 2^q`. -/
def exact (m : Nat) (q : Int) : Dec :=
  if q ≥ 0 then ⟨m * Nat.pow 2 q.toNat, 0⟩ else ⟨m * Nat.pow 5 (-q).toNat, q⟩

/-- The shortest decimal in the interval of the positive magnitude `m * 2^q`, the nearest of
those, and of two equally near the one with the even last digit. -/
def shortest (m : Nat) (q : Int) (narrow : Bool) : Dec :=
  let k := scale m q
  let rec search (n : Nat) (fuel : Nat) : Dec :=
    match fuel with
    | 0 => strip (exact m q)
    | fuel + 1 =>
      let g := k - n
      let (c0, half) := divGrid m q g
      let c1 := c0 + 1
      let hit0 := readsBack m q narrow ⟨c0, g⟩
      let hit1 := readsBack m q narrow ⟨c1, g⟩
      if hit0 && hit1 then
        match half with
        | .lt => strip ⟨c0, g⟩
        | .gt => strip ⟨c1, g⟩
        | .eq => strip ⟨if c0 % 2 == 0 then c0 else c1, g⟩
      else if hit0 then strip ⟨c0, g⟩
      else if hit1 then strip ⟨c1, g⟩
      else search (n + 1) fuel
  search 1 17

end MessageBus.Decimal
