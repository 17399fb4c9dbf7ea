import MessageBus.Text.Basic

namespace MessageBus.Utf8

/-- What a lead octet announces: the number of continuation octets, and the least and the
greatest value the first of them may take. -/
structure Lead where
  count : Nat
  low : Nat
  high : Nat

/-- The character shape a lead octet starts, or none for an octet that cannot lead. -/
def lead (b : Nat) : Option Lead :=
  if b ≤ 0x7F then some ⟨0, 0x80, 0xBF⟩
  else if 0xC2 ≤ b ∧ b ≤ 0xDF then some ⟨1, 0x80, 0xBF⟩
  else if b = 0xE0 then some ⟨2, 0xA0, 0xBF⟩
  else if 0xE1 ≤ b ∧ b ≤ 0xEC then some ⟨2, 0x80, 0xBF⟩
  else if b = 0xED then some ⟨2, 0x80, 0x9F⟩
  else if 0xEE ≤ b ∧ b ≤ 0xEF then some ⟨2, 0x80, 0xBF⟩
  else if b = 0xF0 then some ⟨3, 0x90, 0xBF⟩
  else if 0xF1 ≤ b ∧ b ≤ 0xF3 then some ⟨3, 0x80, 0xBF⟩
  else if b = 0xF4 then some ⟨3, 0x80, 0x8F⟩
  else none

/-- The kind of a decoding fault. -/
inductive Fault where
  | invalidStart
  | invalidContinuation
  | unexpectedEnd
  deriving DecidableEq, Repr

/-- The reason a fault gives in its message. -/
def Fault.reason : Fault → String
  | .invalidStart => "invalid start byte"
  | .invalidContinuation => "invalid continuation byte"
  | .unexpectedEnd => "unexpected end of data"

/-- A decoding fault over the octets `start` to `stop` (exclusive); `first` is the octet at
`start`. -/
structure DecodeError where
  fault : Fault
  start : Nat
  stop : Nat
  first : Nat
  deriving DecidableEq, Repr

/-- The message of a decoding fault: one octet is named with its value, a longer span by its
first and last positions. -/
def DecodeError.message (e : DecodeError) : String :=
  if e.stop = e.start + 1 then
    s!"'utf-8' codec can't decode byte 0x{Digits.hex 2 e.first} in position {e.start}: {e.fault.reason}"
  else
    s!"'utf-8' codec can't decode bytes in position {e.start}-{e.stop - 1}: {e.fault.reason}"

/-- Whether an octet lies in a range. -/
def within (low high : Nat) (b : UInt8) : Bool := low ≤ b.toNat && b.toNat ≤ high

/-- The low six bits of a continuation octet. -/
def payload (b : UInt8) : Nat := b.toNat % 64

/-- The character that lead octet `b` starts, given the octets after it: its code point and the
number of continuation octets it takes, or the fault and the number of octets it covers. -/
def character (b : UInt8) (rest : List UInt8) : Except (Fault × Nat) (Nat × Nat) :=
  match lead b.toNat with
  | none => .error (.invalidStart, 1)
  | some l =>
    let short : Except (Fault × Nat) (Nat × Nat) := .error (.unexpectedEnd, 1 + rest.length)
    match l.count, rest with
    | 0, _ => .ok (b.toNat, 0)
    | 1, [] => short
    | 1, c :: _ =>
      if within l.low l.high c then .ok ((b.toNat % 32) * 64 + payload c, 1)
      else .error (.invalidContinuation, 1)
    | 2, [] => short
    | 2, [c] => if within l.low l.high c then short else .error (.invalidContinuation, 1)
    | 2, c :: d :: _ =>
      if !within l.low l.high c then .error (.invalidContinuation, 1)
      else if !within 0x80 0xBF d then .error (.invalidContinuation, 2)
      else .ok ((b.toNat % 16) * 4096 + payload c * 64 + payload d, 2)
    | 3, [] => short
    | 3, [c] => if within l.low l.high c then short else .error (.invalidContinuation, 1)
    | 3, [c, d] =>
      if !within l.low l.high c then .error (.invalidContinuation, 1)
      else if !within 0x80 0xBF d then .error (.invalidContinuation, 2)
      else short
    | 3, c :: d :: e :: _ =>
      if !within l.low l.high c then .error (.invalidContinuation, 1)
      else if !within 0x80 0xBF d then .error (.invalidContinuation, 2)
      else if !within 0x80 0xBF e then .error (.invalidContinuation, 3)
      else .ok ((b.toNat % 8) * 262144 + payload c * 4096 + payload d * 64 + payload e, 3)
    | _, _ => .error (.invalidStart, 1)

/-- Decode octets that stand at position `pos` of the input. -/
def decodeAt (pos : Nat) (bytes : List UInt8) : Except DecodeError (List Nat) :=
  match bytes with
  | [] => .ok []
  | b :: rest =>
    match character b rest with
    | .ok (c, n) => (decodeAt (pos + 1 + n) (rest.drop n)).map (c :: ·)
    | .error (fault, width) => .error ⟨fault, pos, pos + width, b.toNat⟩
termination_by bytes.length
decreasing_by simp only [List.length_drop, List.length_cons]; omega

/-- What a lead octet announces for each count of continuations: the range the lead lies in, and
the bounds on the first continuation that keep each character in its shortest form and its code
point a scalar value. -/
theorem lead_some {b : Nat} {l : Lead} (leads : lead b = some l) :
    (l.count = 0 ∧ b ≤ 0x7F) ∨
    (l.count = 1 ∧ 0xC2 ≤ b ∧ b ≤ 0xDF ∧ 0x80 ≤ l.low ∧ l.high ≤ 0xBF) ∨
    (l.count = 2 ∧ 0xE0 ≤ b ∧ b ≤ 0xEF ∧ 0x80 ≤ l.low ∧ l.high ≤ 0xBF ∧ (b = 0xE0 → 0xA0 ≤ l.low) ∧
      (b = 0xED → l.high ≤ 0x9F)) ∨
    (l.count = 3 ∧ 0xF0 ≤ b ∧ b ≤ 0xF4 ∧ 0x80 ≤ l.low ∧ l.high ≤ 0xBF ∧ (b = 0xF0 → 0x90 ≤ l.low) ∧
      (b = 0xF4 → l.high ≤ 0x8F)) := by
  unfold lead at leads
  split at leads
  · cases leads
    exact .inl ⟨rfl, by assumption⟩
  split at leads
  · cases leads
    exact .inr (.inl ⟨rfl, by omega, by omega, by decide, by decide⟩)
  split at leads
  · cases leads
    exact .inr (.inr (.inl ⟨rfl, by omega, by omega, by decide, by decide, fun _ => by decide, by omega⟩))
  split at leads
  · cases leads
    exact .inr (.inr (.inl ⟨rfl, by omega, by omega, by decide, by decide, by omega, by omega⟩))
  split at leads
  · cases leads
    exact .inr (.inr (.inl ⟨rfl, by omega, by omega, by decide, by decide, by omega, fun _ => by decide⟩))
  split at leads
  · cases leads
    exact .inr (.inr (.inl ⟨rfl, by omega, by omega, by decide, by decide, by omega, by omega⟩))
  split at leads
  · cases leads
    exact .inr (.inr (.inr ⟨rfl, by omega, by omega, by decide, by decide, fun _ => by decide, by omega⟩))
  split at leads
  · cases leads
    exact .inr (.inr (.inr ⟨rfl, by omega, by omega, by decide, by decide, by omega, by omega⟩))
  split at leads
  · cases leads
    exact .inr (.inr (.inr ⟨rfl, by omega, by omega, by decide, by decide, by omega, fun _ => by decide⟩))
  · cases leads

/-- A character read from a lead octet and its continuations lies below 0x110000: four-octet
leads stop at 0xF4, and after 0xF4 the first continuation stops at 0x8F. -/
theorem character_lt {b : UInt8} {rest : List UInt8} {c n : Nat} (reads : character b rest = .ok (c, n)) :
    c < 0x110000 := by
  unfold character at reads
  split at reads
  · cases reads
  rename_i l leads
  have small := b.toNat_lt
  rcases lead_some leads with ⟨count, -⟩ | ⟨count, -⟩ | ⟨count, -⟩ | ⟨count, low, high, least, -, -, last⟩
  · rw [count] at reads
    dsimp only at reads
    cases reads
    omega
  · rw [count] at reads
    rcases rest with _ | ⟨x, rest⟩
    · cases reads
    change (if within l.low l.high x = true then Except.ok (b.toNat % 32 * 64 + payload x, 1)
      else Except.error (Fault.invalidContinuation, 1)) = Except.ok (c, n) at reads
    split at reads
    · cases reads
      simp only [payload]
      omega
    · cases reads
  · rw [count] at reads
    rcases rest with _ | ⟨x, _ | ⟨y, rest⟩⟩
    · cases reads
    · change (if within l.low l.high x = true then Except.error _ else Except.error _) = Except.ok (c, n) at reads
      split at reads <;> cases reads
    change (if (!within l.low l.high x) = true then Except.error (Fault.invalidContinuation, 1)
      else if (!within 128 191 y) = true then Except.error (Fault.invalidContinuation, 2)
      else Except.ok (b.toNat % 16 * 4096 + payload x * 64 + payload y, 2)) = Except.ok (c, n) at reads
    split at reads
    · cases reads
    split at reads
    · cases reads
    cases reads
    simp only [payload]
    omega
  · rw [count] at reads
    rcases rest with _ | ⟨x, _ | ⟨y, _ | ⟨z, rest⟩⟩⟩
    · cases reads
    · change (if within l.low l.high x = true then Except.error _ else Except.error _) = Except.ok (c, n) at reads
      split at reads <;> cases reads
    · change (if (!within l.low l.high x) = true then Except.error _
        else if (!within 128 191 y) = true then Except.error _ else Except.error _) = Except.ok (c, n) at reads
      split at reads
      · cases reads
      split at reads <;> cases reads
    change (if (!within l.low l.high x) = true then Except.error (Fault.invalidContinuation, 1)
      else if (!within 128 191 y) = true then Except.error (Fault.invalidContinuation, 2)
      else if (!within 128 191 z) = true then Except.error (Fault.invalidContinuation, 3)
      else Except.ok (b.toNat % 8 * 262144 + payload x * 4096 + payload y * 64 + payload z, 3)) =
        Except.ok (c, n) at reads
    split at reads
    · cases reads
    rename_i first
    split at reads
    · cases reads
    split at reads
    · cases reads
    cases reads
    simp only [within, Bool.not_eq_eq_eq_not, Bool.not_true, Bool.and_eq_false_imp, decide_eq_true_eq,
      decide_eq_false_iff_not, Nat.not_le] at first
    simp only [payload]
    omega

/-- Decoded code points lie below 0x110000. -/
theorem decodeAt_lt {pos : Nat} {bytes : List UInt8} {codes : List Nat} (decodes : decodeAt pos bytes = .ok codes) :
    ∀ c ∈ codes, c < 0x110000 := by
  fun_induction decodeAt pos bytes generalizing codes with
  | case1 =>
    cases decodes
    intro c member
    cases member
  | case2 pos b rest c n reads ih =>
    cases later : decodeAt (pos + 1 + n) (rest.drop n) with
    | error e =>
      rw [later] at decodes
      cases decodes
    | ok tail =>
      rw [later] at decodes
      cases decodes
      intro d member
      rcases List.mem_cons.mp member with rfl | inside
      · exact character_lt reads
      · exact ih later d inside
  | case3 => cases decodes

/-- Decode a whole octet string as UTF-8. -/
def decode (bytes : List UInt8) : Except DecodeError Text :=
  match decoded : decodeAt 0 bytes with
  | .ok codes => .ok (Text.mk codes (decodeAt_lt decoded))
  | .error e => .error e

theorem decode_eq_ok {bytes : List UInt8} {t : Text} :
    decode bytes = .ok t ↔ decodeAt 0 bytes = .ok t.codes := by
  unfold decode
  split
  · rename_i codes read
    constructor
    · intro same
      cases same
      exact read
    · intro same
      rw [read, Except.ok.injEq] at same
      exact congrArg Except.ok (Text.ext same)
  · rename_i e read
    constructor
    · nofun
    · intro same
      rw [read] at same
      cases same

/-- The octets of one scalar value. -/
def encodePoint (c : Nat) : List UInt8 :=
  if c < 0x80 then [c.toUInt8]
  else if c < 0x800 then [(0xC0 + c / 64).toUInt8, (0x80 + c % 64).toUInt8]
  else if c < 0x10000 then
    [(0xE0 + c / 4096).toUInt8, (0x80 + c / 64 % 64).toUInt8, (0x80 + c % 64).toUInt8]
  else
    [(0xF0 + c / 262144).toUInt8, (0x80 + c / 4096 % 64).toUInt8, (0x80 + c / 64 % 64).toUInt8,
      (0x80 + c % 64).toUInt8]

/-- A code point in the notation of an escaped literal: `\x`, `\u` or `\U` and fixed width. -/
def escapeCode (c : Nat) : String :=
  if c ≤ 0xFF then "\\x" ++ Digits.hex 2 c
  else if c ≤ 0xFFFF then "\\u" ++ Digits.hex 4 c
  else "\\U" ++ Digits.hex 8 c

/-- An encoding fault: the surrogates from `start` to `stop` (exclusive); `first` is the one at
`start`. -/
structure EncodeError where
  start : Nat
  stop : Nat
  first : Nat
  deriving DecidableEq, Repr

/-- The message of an encoding fault. -/
def EncodeError.message (e : EncodeError) : String :=
  if e.stop = e.start + 1 then
    s!"'utf-8' codec can't encode character '{escapeCode e.first}' in position {e.start}: surrogates not allowed"
  else
    s!"'utf-8' codec can't encode characters in position {e.start}-{e.stop - 1}: surrogates not allowed"

/-- Encode code points that stand at position `pos` of the text. -/
def encodeAt (pos : Nat) : List Nat → Except EncodeError (List UInt8)
  | [] => .ok []
  | c :: rest =>
    if Text.isSurrogate c then
      .error ⟨pos, pos + 1 + (rest.takeWhile Text.isSurrogate).length, c⟩
    else (encodeAt (pos + 1) rest).map (encodePoint c ++ ·)

/-- Encode text as UTF-8; a surrogate has no encoding. -/
def encode (t : Text) : Except EncodeError (List UInt8) := encodeAt 0 t.codes

/-- The octets of a string, which holds scalar values only. -/
def ofString (s : String) : List UInt8 := s.toList.flatMap (fun c => encodePoint c.toNat)

end MessageBus.Utf8
