import MessageBus.Json.Basic

namespace MessageBus.Json

/-- Where a reader gave up: the number of code points left unread. -/
abbrev ReadError := Nat

/-- JSON blank space. -/
def isBlank (c : Nat) : Bool := c = 32 || c = 9 || c = 10 || c = 13

/-- Code points after leading blanks. -/
def skipBlank (cs : List Nat) : List Nat := cs.dropWhile isBlank

/-- Whether a code point is an ASCII digit. -/
def isDigit (c : Nat) : Bool := 48 ≤ c && c ≤ 57

/-- The value of a hexadecimal digit. -/
def hexValue (c : Nat) : Option Nat :=
  if 48 ≤ c && c ≤ 57 then some (c - 48)
  else if 65 ≤ c && c ≤ 70 then some (c - 55)
  else if 97 ≤ c && c ≤ 102 then some (c - 87)
  else none

/-- Four hexadecimal digits and the rest. -/
def hex4 : List Nat → Option (Nat × List Nat)
  | a :: b :: c :: d :: rest => do
    let a ← hexValue a
    let b ← hexValue b
    let c ← hexValue c
    let d ← hexValue d
    some (((a * 16 + b) * 16 + c) * 16 + d, rest)
  | _ => none

/-- The code point a `\u` escape stands for, pairing a high surrogate with a following low one;
and the rest. In the strict dialect a surrogate that stays alone is refused. -/
def unicodeEscape (strict : Bool) (cs : List Nat) : Option (Nat × List Nat) := do
  let (u, after) ← hex4 cs
  let paired : Option (Nat × List Nat) :=
    if 0xD800 ≤ u && u ≤ 0xDBFF then
      match after with
      | 92 :: 117 :: tail =>
        match hex4 tail with
        | some (low, rest) =>
          if 0xDC00 ≤ low && low ≤ 0xDFFF then
            some (0x10000 + (u - 0xD800) * 1024 + (low - 0xDC00), rest)
          else none
        | none => none
      | _ => none
    else none
  match paired with
  | some r => some r
  | none => if strict && 0xD800 ≤ u && u ≤ 0xDFFF then none else some (u, after)

/-- The code point a one-letter escape stands for. -/
def simpleEscape (e : Nat) : Option Nat :=
  if e = 34 then some 34 else if e = 92 then some 92 else if e = 47 then some 47
  else if e = 98 then some 8 else if e = 102 then some 12 else if e = 110 then some 10
  else if e = 114 then some 13 else if e = 116 then some 9 else none

/-- A string body after its opening quote, read in reverse into `acc`: the code points up to
the closing quote, and the rest. A code point below the space or past U+10FFFF is not one a
string may hold unescaped. Every step reads at least one code point, so `fuel` at the length of
the input suffices. -/
def readString (strict : Bool) : Nat → List Nat → List Nat → Except ReadError (List Nat × List Nat)
  | 0, cs, _ => .error cs.length
  | _ + 1, [], _ => .error 0
  | fuel + 1, c :: rest, acc =>
    if c = 34 then .ok (acc.reverse, rest)
    else if c < 32 || 0x10FFFF < c then .error (rest.length + 1)
    else if c = 92 then
      match rest with
      | 117 :: more =>
        match unicodeEscape strict more with
        | some (code, after) => readString strict fuel after (code :: acc)
        | none => .error rest.length
      | e :: more =>
        match simpleEscape e with
        | some code => readString strict fuel more (code :: acc)
        | none => .error rest.length
      | [] => .error 0
    else readString strict fuel rest (c :: acc)

theorem hexValue_lt {c v : Nat} (read : hexValue c = some v) : v < 16 := by
  unfold hexValue at read
  split at read
  · rename_i digit
    cases read
    simp only [Bool.and_eq_true, decide_eq_true_eq] at digit
    omega
  split at read
  · rename_i upper
    cases read
    simp only [Bool.and_eq_true, decide_eq_true_eq] at upper
    omega
  split at read
  · rename_i lower
    cases read
    simp only [Bool.and_eq_true, decide_eq_true_eq] at lower
    omega
  · cases read

theorem hex4_lt {cs after : List Nat} {u : Nat} (read : hex4 cs = some (u, after)) : u < 0x10000 := by
  unfold hex4 at read
  split at read
  · obtain ⟨a, first, read⟩ := Option.bind_eq_some_iff.mp read
    obtain ⟨b, second, read⟩ := Option.bind_eq_some_iff.mp read
    obtain ⟨c, third, read⟩ := Option.bind_eq_some_iff.mp read
    obtain ⟨d, fourth, read⟩ := Option.bind_eq_some_iff.mp read
    cases read
    have := hexValue_lt first
    have := hexValue_lt second
    have := hexValue_lt third
    have := hexValue_lt fourth
    omega
  · cases read

/-- A `\u` escape stands for a code point below 0x110000: a surrogate pair for one of at most
0x10FFFF, any other escape for one below 0x10000. -/
theorem unicodeEscape_lt {strict : Bool} {cs after : List Nat} {code : Nat}
    (read : unicodeEscape strict cs = some (code, after)) : code < 0x110000 := by
  unfold unicodeEscape at read
  obtain ⟨⟨u, rest⟩, unit, read⟩ := Option.bind_eq_some_iff.mp read
  have small := hex4_lt unit
  dsimp only at read
  split at read
  · rename_i r paired
    cases read
    split at paired
    · rename_i high
      simp only [Bool.and_eq_true, decide_eq_true_eq] at high
      split at paired
      · split at paired
        · rename_i low tail' lowRead
          split at paired
          · rename_i inRange
            simp only [Bool.and_eq_true, decide_eq_true_eq] at inRange
            obtain ⟨rfl, -⟩ := Prod.mk.inj (Option.some.inj paired)
            omega
          · cases paired
        · cases paired
      · cases paired
    · cases paired
  · split at read
    · cases read
    · cases read
      omega

theorem simpleEscape_lt {e code : Nat} (read : simpleEscape e = some code) : code < 128 := by
  unfold simpleEscape at read
  split at read
  · cases read; decide
  split at read
  · cases read; decide
  split at read
  · cases read; decide
  split at read
  · cases read; decide
  split at read
  · cases read; decide
  split at read
  · cases read; decide
  split at read
  · cases read; decide
  split at read
  · cases read; decide
  · cases read

/-- Every code point of a string body lies below 0x110000: one written as itself passed the
check, and an escape stands for one below it. -/
theorem readString_lt {strict : Bool} {fuel : Nat} {cs acc body after : List Nat}
    (read : readString strict fuel cs acc = .ok (body, after)) (bounded : ∀ c ∈ acc, c < 0x110000) :
    ∀ c ∈ body, c < 0x110000 := by
  induction fuel generalizing cs acc with
  | zero => simp [readString] at read
  | succ fuel ih =>
    cases cs with
    | nil => simp [readString] at read
    | cons c rest =>
      simp only [readString] at read
      split at read
      · cases read
        intro x member
        exact bounded x (List.mem_reverse.mp member)
      rename_i notQuote
      split at read
      · cases read
      rename_i allowed
      simp only [Bool.or_eq_true, decide_eq_true_eq, not_or, Nat.not_lt] at allowed
      split at read
      · split at read
        · split at read
          · rename_i code after' escaped
            refine ih read fun x member => ?_
            rcases List.mem_cons.mp member with rfl | old
            · exact unicodeEscape_lt escaped
            · exact bounded x old
          · cases read
        · split at read
          · rename_i code escaped
            refine ih read fun x member => ?_
            rcases List.mem_cons.mp member with rfl | old
            · have := simpleEscape_lt escaped
              omega
            · exact bounded x old
          · cases read
        · cases read
      · refine ih read fun x member => ?_
        rcases List.mem_cons.mp member with rfl | old
        · omega
        · exact bounded x old

/-- The digits at the front, and the rest. -/
def digitRun (cs : List Nat) : List Nat × List Nat := (cs.takeWhile isDigit, cs.dropWhile isDigit)

/-- The value of decimal digits. -/
def digitsValue (ds : List Nat) : Nat := ds.foldl (fun acc d => acc * 10 + (d - 48)) 0

/-- A number after its sign, and the rest: digits without a leading zero, then perhaps a point
and digits, then perhaps `e` or `E`, a sign and digits. -/
def readNumber (negative : Bool) (cs : List Nat) : Except ReadError (JsonNumber × List Nat) :=
  let (whole, afterWhole) := digitRun cs
  if whole.isEmpty || (whole.length > 1 && whole.head? == some 48) then .error cs.length
  else
    let (hadPoint, frac, afterFrac) : Bool × List Nat × List Nat :=
      match afterWhole with
      | 46 :: more => let (f, r) := digitRun more; (true, f, r)
      | _ => (false, [], afterWhole)
    if hadPoint && frac.isEmpty then .error afterFrac.length
    else
      let mantissa := digitsValue (whole ++ frac)
      let shift : Int := -(frac.length : Int)
      match afterFrac with
      | e :: more =>
        if e = 101 || e = 69 then
          let (sign, more) : Int × List Nat :=
            match more with
            | 43 :: m => (1, m)
            | 45 :: m => (-1, m)
            | m => (1, m)
          let (ds, after) := digitRun more
          if ds.isEmpty then .error more.length
          else .ok (⟨negative, mantissa, shift + sign * (digitsValue ds : Int), false⟩, after)
        else .ok (⟨negative, mantissa, shift, !hadPoint⟩, afterFrac)
      | [] => .ok (⟨negative, mantissa, shift, !hadPoint⟩, afterFrac)

/-- Whether code points start with the letters of a word. -/
def startsWord (cs : List Nat) (w : String) : Bool := (w.toList.map Char.toNat).isPrefixOf cs

mutual

/-- A document at the front of the input, after blanks; `fuel` bounds the nesting. -/
def readValue (strict : Bool) : Nat → List Nat → Except ReadError (Json × List Nat)
  | 0, cs => .error cs.length
  | fuel + 1, cs =>
    match skipBlank cs with
    | [] => .error 0
    | c :: rest =>
      if c = 123 then
        match skipBlank rest with
        | 125 :: after => .ok (.object [], after)
        | more => readMembers strict fuel more []
      else if c = 91 then
        match skipBlank rest with
        | 93 :: after => .ok (.array [], after)
        | more => readItems strict fuel more []
      else if c = 34 then
        match read : readString strict (rest.length + 1) rest [] with
        | .ok (body, after) => .ok (.string ⟨body, readString_lt read nofun⟩, after)
        | .error e => .error e
      else if startsWord (c :: rest) "true" then .ok (.bool true, rest.drop 3)
      else if startsWord (c :: rest) "false" then .ok (.bool false, rest.drop 4)
      else if startsWord (c :: rest) "null" then .ok (.null, rest.drop 3)
      else if c = 45 then
        match readNumber true rest with
        | .ok (n, after) => .ok (.number n, after)
        | .error e => .error e
      else if isDigit c then
        match readNumber false (c :: rest) with
        | .ok (n, after) => .ok (.number n, after)
        | .error e => .error e
      else .error (rest.length + 1)

/-- Array items from the first one on, gathered in reverse into `acc`. -/
def readItems (strict : Bool) : Nat → List Nat → List Json → Except ReadError (Json × List Nat)
  | 0, cs, _ => .error cs.length
  | fuel + 1, cs, acc =>
    match readValue strict fuel cs with
    | .error e => .error e
    | .ok (item, after) =>
      match skipBlank after with
      | 44 :: more => readItems strict fuel more (item :: acc)
      | 93 :: more => .ok (.array (item :: acc).reverse, more)
      | rest => .error rest.length

/-- Object members from the first one on, gathered in reverse into `acc`. -/
def readMembers (strict : Bool) : Nat → List Nat → List (Text × Json) →
    Except ReadError (Json × List Nat)
  | 0, cs, _ => .error cs.length
  | fuel + 1, cs, acc =>
    match skipBlank cs with
    | 34 :: rest =>
      match read : readString strict (rest.length + 1) rest [] with
      | .error e => .error e
      | .ok (name, after) =>
        match skipBlank after with
        | 58 :: more =>
          match readValue strict fuel more with
          | .error e => .error e
          | .ok (value, after2) =>
            match skipBlank after2 with
            | 44 :: more2 => readMembers strict fuel more2 ((⟨name, readString_lt read nofun⟩, value) :: acc)
            | 125 :: more2 => .ok (.object ((⟨name, readString_lt read nofun⟩, value) :: acc).reverse, more2)
            | rest => .error rest.length
        | rest => .error rest.length
    | rest => .error rest.length

end

/-- Read a whole text as one document, blanks allowed around it. -/
def parseCodes (strict : Bool) (cs : List Nat) : Except ReadError Json :=
  match readValue strict (2 * cs.length + 2) cs with
  | .error e => .error e
  | .ok (j, rest) =>
    match skipBlank rest with
    | [] => .ok j
    | more => .error more.length

end MessageBus.Json
