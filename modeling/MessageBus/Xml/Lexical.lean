import MessageBus.Xml.NameCharacters

namespace MessageBus

namespace Xml

/-- The code points of a string. -/
def code (s : String) : List Nat := s.toList.map Char.toNat

/-- Code points that may appear in a document. -/
def isChar (c : Nat) : Bool :=
  c == 9 || c == 10 || c == 13 || (0x20 ≤ c && c ≤ 0xD7FF) || (0xE000 ≤ c && c ≤ 0xFFFD) ||
    (0x10000 ≤ c && c ≤ 0x10FFFF)

/-- White space. -/
def isSpace (c : Nat) : Bool := c == 32 || c == 9 || c == 10 || c == 13

/-- Code points with white space skipped at the front. -/
def skipSpace : List Nat → List Nat
  | c :: rest => if isSpace c then skipSpace rest else c :: rest
  | [] => []

/-- Whether code points start with white space. -/
def startsWithSpace : List Nat → Bool
  | c :: _ => isSpace c
  | [] => false

/-- The code points after a given start, if they have it. -/
def after? : List Nat → List Nat → Option (List Nat)
  | [], cs => some cs
  | p :: ps, c :: cs => if p == c then after? ps cs else none
  | _ :: _, [] => none

/-- Line ends normalized: a carriage return, alone or before a line feed, becomes a line feed. -/
def newlines : List Nat → List Nat
  | 13 :: 10 :: rest => 10 :: newlines rest
  | 13 :: rest => 10 :: newlines rest
  | c :: rest => c :: newlines rest
  | [] => []

/-- A name without a colon at the front. -/
def name? : List Nat → Option (List Nat × List Nat)
  | c :: rest =>
    if isNameStart c then some (c :: rest.takeWhile isNameChar, rest.dropWhile isNameChar)
    else none
  | [] => none

/-- A qualified name at the front: a name, and a colon and a second name if they follow. -/
def qname? (cs : List Nat) : Option (List Nat × List Nat) := do
  let (first, rest) ← name? cs
  match rest with
  | 58 :: more =>
    match name? more with
    | some (second, rest) => some (first ++ 58 :: second, rest)
    | none => some (first, rest)
  | _ => some (first, rest)

/-- The value of hexadecimal or decimal digits. -/
def digitsValue (base : Nat) (ds : List Nat) : Nat :=
  ds.foldl (fun acc d =>
    let v := if d ≤ 57 then d - 48 else if d ≤ 70 then d - 55 else d - 87
    acc * base + v) 0

/-- A hexadecimal digit. -/
def isHex (c : Nat) : Bool := (48 ≤ c && c ≤ 57) || (65 ≤ c && c ≤ 70) || (97 ≤ c && c ≤ 102)

/-- A decimal digit. -/
def isDigit (c : Nat) : Bool := 48 ≤ c && c ≤ 57

/-- The code point a predefined entity stands for. -/
def predefined? (n : List Nat) : Option Nat :=
  if n == code "amp" then some 38
  else if n == code "lt" then some 60
  else if n == code "gt" then some 62
  else if n == code "quot" then some 34
  else if n == code "apos" then some 39
  else none

/-- What a reference stands for. -/
inductive Reference where
  /-- A character, given by its number. -/
  | char (c : Nat)
  /-- An entity, given by its name. -/
  | entity (name : List Nat)

/-- A reference after its `&`, and what follows its `;`. A character reference must name a
character a document may hold. -/
def reference? (cs : List Nat) : Option (Reference × List Nat) := do
  let (r, rest) ← match cs with
    | 35 :: 120 :: rest =>
      let ds := rest.takeWhile isHex
      if ds.isEmpty then none else some (Reference.char (digitsValue 16 ds), rest.dropWhile isHex)
    | 35 :: rest =>
      let ds := rest.takeWhile isDigit
      if ds.isEmpty then none else some (.char (digitsValue 10 ds), rest.dropWhile isDigit)
    | _ => do
      let (n, rest) ← name? cs
      pure (.entity n, rest)
  let rest ← after? [59] rest
  match r with
  | .char c => if isChar c then some (r, rest) else none
  | .entity _ => some (r, rest)

/-- A comment after its `<!--`, up to its `-->`; two hyphens may not appear inside. -/
def comment : List Nat → Option (List Nat)
  | 45 :: 45 :: 62 :: rest => some rest
  | 45 :: 45 :: _ => none
  | c :: rest => if isChar c then comment rest else none
  | [] => none

/-- The body of a processing instruction, up to its `?>`. -/
def instructionBody : List Nat → Option (List Nat)
  | 63 :: 62 :: rest => some rest
  | c :: rest => if isChar c then instructionBody rest else none
  | [] => none

/-- Lower-case ASCII. -/
def lower (cs : List Nat) : List Nat := cs.map (fun c => if 65 ≤ c && c ≤ 90 then c + 32 else c)

/-- A processing instruction after its `<?`; its target may not be `xml` in any case. -/
def instruction (cs : List Nat) : Option (List Nat) := do
  let (target, rest) ← name? cs
  if lower target == code "xml" then none
  else
    match rest with
    | 63 :: 62 :: rest => some rest
    | c :: rest => if isSpace c then instructionBody rest else none
    | [] => none

/-- A CDATA section after its `<![CDATA[`, up to its `]]>`. -/
def cdata : List Nat → Option (List Nat)
  | 93 :: 93 :: 62 :: rest => some rest
  | c :: rest => if isChar c then cdata rest else none
  | [] => none

/-- White space, comments and processing instructions, skipped. -/
def misc : Nat → List Nat → Option (List Nat)
  | 0, _ => none
  | fuel + 1, cs =>
    match cs with
    | 60 :: 33 :: 45 :: 45 :: rest => comment rest >>= misc fuel
    | 60 :: 63 :: rest => instruction rest >>= misc fuel
    | c :: rest => if isSpace c then misc fuel rest else some cs
    | [] => some []

/-- The number of octets a code point takes in UTF-8. -/
def utf8Width (c : Nat) : Nat :=
  if c < 0x80 then 1 else if c < 0x800 then 2 else if c < 0x10000 then 3 else 4

/-- The number of octets code points take in UTF-8. -/
def utf8Size (cs : List Nat) : Nat := cs.foldl (fun n c => n + utf8Width c) 0

end Xml

end MessageBus
