import MessageBus.Value.Basic

namespace MessageBus

/-- Why a value cannot be read as a number. -/
inductive NumberError where
  /-- Text (or bytes) that is no number; the value is quoted in the message. -/
  | notFloat (v : Value)
  | notInt (v : Value)
  | floatKind (kind : String)
  | intKind (kind : String)
  | intTooLarge
  | infinityToInt
  | nanToInt

/-- The name of the kind of failure, as the caller's language classes it. -/
def NumberError.kind : NumberError → String
  | .notFloat _ => "ValueError"
  | .notInt _ => "ValueError"
  | .floatKind _ => "TypeError"
  | .intKind _ => "TypeError"
  | .intTooLarge => "OverflowError"
  | .infinityToInt => "OverflowError"
  | .nanToInt => "ValueError"

/-- The message of a number error. -/
def NumberError.message : NumberError → String
  | .notFloat v => s!"could not convert string to float: {v.literal}"
  | .notInt v => s!"invalid literal for int() with base 10: {v.literal}"
  | .floatKind k => s!"float() argument must be a string or a real number, not '{k}'"
  | .intKind k => s!"int() argument must be a string, a bytes-like object or a real number, not '{k}'"
  | .intTooLarge => "int too large to convert to float"
  | .infinityToInt => "cannot convert float infinity to integer"
  | .nanToInt => "cannot convert float NaN to integer"

namespace Numeral

/-- ASCII blank space, which is dropped around a numeral. -/
def isSpace (c : Nat) : Bool := (9 ≤ c && c ≤ 13) || c = 32

/-- Blank space outside ASCII (Unicode 14.0). -/
def isWideSpace (c : Nat) : Bool :=
  c = 0x85 || c = 0xA0 || c = 0x1680 || (0x2000 ≤ c && c ≤ 0x200A) || c = 0x2028 ||
    c = 0x2029 || c = 0x202F || c = 0x205F || c = 0x3000

/-- The first code point of each run of ten decimal digits, zero to nine, in Unicode 14.0. -/
def digitZeros : List Nat :=
  [0x30, 0x660, 0x6F0, 0x7C0, 0x966, 0x9E6, 0xA66, 0xAE6, 0xB66, 0xBE6, 0xC66, 0xCE6, 0xD66,
   0xDE6, 0xE50, 0xED0, 0xF20, 0x1040, 0x1090, 0x17E0, 0x1810, 0x1946, 0x19D0, 0x1A80, 0x1A90,
   0x1B50, 0x1BB0, 0x1C40, 0x1C50, 0xA620, 0xA8D0, 0xA900, 0xA9D0, 0xA9F0, 0xAA50, 0xABF0,
   0xFF10, 0x104A0, 0x10D30, 0x11066, 0x110F0, 0x11136, 0x111D0, 0x112F0, 0x11450, 0x114D0,
   0x11650, 0x116C0, 0x11730, 0x118E0, 0x11950, 0x11C50, 0x11D50, 0x11DA0, 0x16A60, 0x16AC0,
   0x16B50, 0x1D7CE, 0x1D7D8, 0x1D7E2, 0x1D7EC, 0x1D7F6, 0x1E140, 0x1E2F0, 0x1E950, 0x1FBF0]

/-- The value of a decimal digit of any script. -/
def digitValue? (c : Nat) : Option Nat :=
  (digitZeros.find? (fun z => z ≤ c && c < z + 10)).map (c - ·)

/-- Text brought to the ASCII numeral it stands for: code points below 127 stay, blank space
outside ASCII becomes a space, a digit becomes its ASCII digit, and the first other code point
becomes `?` and ends the text. -/
def asciiForm : List Nat → List Nat
  | [] => []
  | c :: rest =>
    if c < 127 then c :: asciiForm rest
    else if isWideSpace c then 32 :: asciiForm rest
    else
      match digitValue? c with
      | some d => (48 + d) :: asciiForm rest
      | none => [63]

/-- Code points without blank space around them. -/
def trim (cs : List Nat) : List Nat :=
  ((cs.dropWhile isSpace).reverse.dropWhile isSpace).reverse

/-- Whether a code point is an ASCII digit. -/
def isDigit (c : Nat) : Bool := 48 ≤ c && c ≤ 57

/-- Digits with single underscores between them, without the underscores; none when an
underscore is not between two digits, or there are no digits. -/
def digits (cs : List Nat) : Option (List Nat) :=
  let rec go : List Nat → Option (List Nat)
    | [] => some []
    | [c] => if isDigit c then some [c] else none
    | c :: 95 :: rest =>
      if isDigit c then
        match rest with
        | d :: _ => if isDigit d then (go rest).map (c :: ·) else none
        | [] => none
      else none
    | c :: rest => if isDigit c then (go rest).map (c :: ·) else none
  match cs with
  | [] => none
  | _ => go cs

/-- The value of ASCII digits. -/
def value (ds : List Nat) : Nat := ds.foldl (fun acc d => acc * 10 + (d - 48)) 0

/-- A sign at the front: whether it is a minus, and the rest. -/
def sign : List Nat → Bool × List Nat
  | 45 :: rest => (true, rest)
  | 43 :: rest => (false, rest)
  | cs => (false, cs)

/-- An integer numeral. -/
def int? (cs : List Nat) : Option Int :=
  let (neg, rest) := sign (trim cs)
  (digits rest).map (fun ds => if neg then -(value ds : Int) else value ds)

/-- Lower-case ASCII. -/
def lower (cs : List Nat) : List Nat := cs.map (fun c => if 65 ≤ c && c ≤ 90 then c + 32 else c)

/-- The code points of a word. -/
def word (s : String) : List Nat := s.toList.map Char.toNat

/-- Split at the first code point that satisfies a test. -/
def splitAt (p : Nat → Bool) (cs : List Nat) : List Nat × Option (List Nat) :=
  match cs.findIdx? p with
  | some i => (cs.take i, some (cs.drop (i + 1)))
  | none => (cs, none)

/-- A numeral of a binary64 number. -/
def float? (cs : List Nat) : Option Binary64 :=
  let (neg, rest) := sign (trim cs)
  let w := lower rest
  if w == word "inf" || w == word "infinity" then some (Binary64.infinity neg)
  else if w == word "nan" then some (Binary64.quietNaN neg)
  else
    let (mantissa, exponent) := splitAt (fun c => c = 101 || c = 69) rest
    let (whole, frac) := splitAt (· = 46) mantissa
    let wholeDigits := if whole.isEmpty then some [] else digits whole
    let fracDigits := match frac with
      | none => some []
      | some [] => some []
      | some f => digits f
    match wholeDigits, fracDigits with
    | some wd, some fd =>
      if wd.isEmpty && fd.isEmpty then none
      else
        let exp : Option Int := match exponent with
          | none => some 0
          | some e =>
            let (eneg, erest) := sign e
            (digits erest).map (fun ds => if eneg then -(value ds : Int) else value ds)
        exp.map (fun x => Binary64.ofDecimal neg (value (wd ++ fd)) (x - (fd.length : Int)))
    | _, _ => none

end Numeral

namespace Value

/-- The ASCII numeral of text, or the octets of a byte string. -/
def numeralCodes? : Value → Option (List Nat)
  | .str t => some (Numeral.asciiForm t.codes)
  | .bytes b => some (b.toList.map UInt8.toNat)
  | _ => Option.none

/-- A value as a binary64 number. -/
def toFloat (v : Value) : Except NumberError Binary64 :=
  match v with
  | .bool b => .ok (Binary64.ofDecimal false (if b then 1 else 0) 0)
  | .int n =>
    match Binary64.ofInt? n with
    | some x => .ok x
    | Option.none => .error .intTooLarge
  | .float x => .ok x
  | .str _ | .bytes _ =>
    match v.numeralCodes?.bind Numeral.float? with
    | some x => .ok x
    | Option.none => .error (.notFloat v)
  | other => .error (.floatKind other.kindName)

/-- A value as an integer. -/
def toInt (v : Value) : Except NumberError Int :=
  match v with
  | .bool b => .ok (if b then 1 else 0)
  | .int n => .ok n
  | .float x =>
    if x.isNaN then .error .nanToInt
    else match x.truncate with
      | some n => .ok n
      | Option.none => .error .infinityToInt
  | .str _ | .bytes _ =>
    match v.numeralCodes?.bind Numeral.int? with
    | some n => .ok n
    | Option.none => .error (.notInt v)
  | other => .error (.intKind other.kindName)

end Value

end MessageBus
