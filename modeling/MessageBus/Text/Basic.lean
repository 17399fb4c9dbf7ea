namespace MessageBus

/-- A caller's text, as its code points: each below 0x110000, as in a string of the caller's
language. -/
structure Text where
  codes : List Nat
  bounded : ∀ c ∈ codes, c < 0x110000
  deriving DecidableEq, Hashable, Repr

theorem Char.toNat_lt_limit (c : Char) : c.toNat < 0x110000 := by
  have valid := c.valid
  simp only [UInt32.isValidChar, Nat.isValidChar] at valid
  simp only [Char.toNat]
  omega

namespace Text

@[ext] theorem ext {a b : Text} (same : a.codes = b.codes) : a = b := by
  cases a
  cases b
  cases same
  rfl

/-- The text of a string's characters. -/
def ofString (s : String) : Text :=
  ⟨s.toList.map Char.toNat, by
    intro c member
    obtain ⟨x, -, rfl⟩ := List.mem_map.mp member
    exact Char.toNat_lt_limit x⟩

instance : Append Text :=
  ⟨fun a b => ⟨a.codes ++ b.codes, fun c member => (List.mem_append.mp member).elim (a.bounded c) (b.bounded c)⟩⟩

@[simp] theorem codes_append (a b : Text) : (a ++ b).codes = a.codes ++ b.codes := rfl

instance : Coe String Text := ⟨ofString⟩

/-- The empty text. -/
def empty : Text := ⟨[], nofun⟩

instance : Inhabited Text := ⟨empty⟩

/-- Texts one after another. -/
def join (ts : List Text) : Text :=
  ⟨ts.flatMap codes, by
    intro c member
    obtain ⟨t, -, inside⟩ := List.mem_flatMap.mp member
    exact t.bounded c inside⟩

/-- Each code point of a text as a text of its own. -/
def chars (t : Text) : List Text :=
  t.codes.attach.map fun ⟨c, member⟩ => ⟨[c], by simpa using t.bounded c member⟩

/-- Octets as the text of the code points they number. -/
def ofOctets (bytes : List UInt8) : Text :=
  ⟨bytes.map UInt8.toNat, by
    intro c member
    obtain ⟨b, -, rfl⟩ := List.mem_map.mp member
    have := b.toNat_lt
    omega⟩

/-- Code points that all lie below 0x110000 as a text. -/
def ofCodes? (cs : List Nat) : Option Text :=
  if bounded : ∀ c ∈ cs, c < 0x110000 then some ⟨cs, bounded⟩ else none

/-- The number of code points. -/
def length (t : Text) : Nat := t.codes.length

/-- A code point reserved for UTF-16 surrogates, which no scalar value is. -/
def isSurrogate (c : Nat) : Bool := 0xD800 ≤ c && c ≤ 0xDFFF

/-- A character of a string for a code point; a surrogate becomes U+FFFD. -/
def charOf (c : Nat) : Char :=
  if isSurrogate c || c ≥ 0x110000 then Char.ofNat 0xFFFD else Char.ofNat c

/-- The text as a string; each surrogate is written as U+FFFD. -/
def toString (t : Text) : String := String.ofList (t.codes.map charOf)

/-- Whether the text holds a surrogate. -/
def hasSurrogate (t : Text) : Bool := t.codes.any isSurrogate

/-- The text as a string, if it holds no surrogate. -/
def toString? (t : Text) : Option String :=
  if t.hasSurrogate then none else some t.toString

/-- Whether the text is empty. -/
def isEmpty (t : Text) : Bool := t.codes.isEmpty

/-- Whether the text starts with a given prefix. -/
def startsWith (t : Text) (p : String) : Bool :=
  (p.toList.map Char.toNat).isPrefixOf t.codes

/-- Comparison by code points, as strings of the caller's language compare. -/
def lt (a b : Text) : Bool := List.lex a.codes b.codes (· < ·)

end Text

namespace Digits

/-- The decimal digits of `n`, most significant first. -/
def decimal (n : Nat) : String := String.ofList (Nat.toDigits 10 n)

/-- The lower-case hexadecimal digits of `n`, most significant first, at least `width` of them. -/
def hex (width n : Nat) : String :=
  let digits := Nat.toDigits 16 n
  String.ofList (List.replicate (width - digits.length) '0' ++ digits)

/-- The text of an integer, a minus sign before a negative one. -/
def int (n : Int) : String :=
  if n < 0 then "-" ++ decimal n.natAbs else decimal n.natAbs

end Digits

end MessageBus
