import MessageBus.Text.Printable
import MessageBus.Text.Utf8

namespace MessageBus.Text

/-- The quote character a text is written with. -/
def quoteFor (codes : List Nat) : Nat :=
  if codes.contains 39 && !codes.contains 34 then 34 else 39

/-- One code point inside a literal quoted with `quote`. -/
def escapePoint (quote c : Nat) : String :=
  if c = quote || c = 92 then String.ofList ['\\', Char.ofNat c]
  else if c = 9 then "\\t"
  else if c = 10 then "\\n"
  else if c = 13 then "\\r"
  else if c < 32 || c = 127 then "\\x" ++ Digits.hex 2 c
  else if c < 127 then String.singleton (Char.ofNat c)
  else if printable c then String.singleton (Char.ofNat c)
  else Utf8.escapeCode c

/-- The quoted literal of text given by its code points. -/
def quotedCodes (codes : List Nat) : String :=
  let q := quoteFor codes
  let inner := codes.foldl (fun acc c => acc ++ escapePoint q c) ""
  String.singleton (Char.ofNat q) ++ inner ++ String.singleton (Char.ofNat q)

/-- The quoted literal of a text. -/
def quoted (t : Text) : String := quotedCodes t.codes

/-- The quoted literal of a string. -/
def quotedString (s : String) : String := quoted (ofString s)

end MessageBus.Text

namespace MessageBus.Octets

/-- One octet inside a byte literal quoted with `quote`. -/
def escapeOctet (quote b : Nat) : String :=
  if b = quote || b = 92 then String.ofList ['\\', Char.ofNat b]
  else if b = 9 then "\\t"
  else if b = 10 then "\\n"
  else if b = 13 then "\\r"
  else if b < 32 || b ≥ 127 then "\\x" ++ Digits.hex 2 b
  else String.singleton (Char.ofNat b)

/-- The quoted literal of a byte string: `b` and the octets in quotes. -/
def quoted (bytes : List UInt8) : String :=
  let codes := bytes.map UInt8.toNat
  let q := Text.quoteFor codes
  let inner := codes.foldl (fun acc b => acc ++ escapeOctet q b) ""
  "b" ++ String.singleton (Char.ofNat q) ++ inner ++ String.singleton (Char.ofNat q)

end MessageBus.Octets
