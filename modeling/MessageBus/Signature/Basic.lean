import MessageBus.Text.Basic

namespace MessageBus

/-- The basic types: those that can key a dictionary. -/
inductive Basic where
  | byte
  | boolean
  | int16
  | uint16
  | int32
  | uint32
  | int64
  | uint64
  | double
  | unixFd
  | string
  | objectPath
  | signature
  deriving DecidableEq, Repr, Inhabited

namespace Basic

/-- The code letter of a basic type. -/
def letter : Basic → Char
  | .byte => 'y'
  | .boolean => 'b'
  | .int16 => 'n'
  | .uint16 => 'q'
  | .int32 => 'i'
  | .uint32 => 'u'
  | .int64 => 'x'
  | .uint64 => 't'
  | .double => 'd'
  | .unixFd => 'h'
  | .string => 's'
  | .objectPath => 'o'
  | .signature => 'g'

/-- Every basic type. -/
def all : List Basic :=
  [.byte, .boolean, .int16, .uint16, .int32, .uint32, .int64, .uint64, .double, .unixFd,
    .string, .objectPath, .signature]

/-- The basic type a code point names, if any. -/
def ofCode (c : Nat) : Option Basic := all.find? (fun b => b.letter.toNat == c)

/-- The inclusive range of an integer type's values. -/
def range? : Basic → Option (Int × Int)
  | .byte => some (0, 0xFF)
  | .int16 => some (-0x8000, 0x7FFF)
  | .uint16 => some (0, 0xFFFF)
  | .int32 => some (-0x80000000, 0x7FFFFFFF)
  | .uint32 => some (0, 0xFFFFFFFF)
  | .unixFd => some (0, 0xFFFFFFFF)
  | .int64 => some (-0x8000000000000000, 0x7FFFFFFFFFFFFFFF)
  | .uint64 => some (0, 0xFFFFFFFFFFFFFFFF)
  | _ => none

/-- The width in octets of a fixed-width type, which is also its alignment. -/
def width? : Basic → Option Nat
  | .byte => some 1
  | .boolean => some 4
  | .int16 => some 2
  | .uint16 => some 2
  | .int32 => some 4
  | .uint32 => some 4
  | .int64 => some 8
  | .uint64 => some 8
  | .double => some 8
  | .unixFd => some 4
  | _ => none

/-- The alignment of a basic type's encoding. -/
def alignment : Basic → Nat
  | .string => 4
  | .objectPath => 4
  | .signature => 1
  | b => b.width?.getD 1

end Basic

/-- A complete type. -/
inductive Sig where
  | basic (b : Basic)
  | variant
  | array (element : Sig)
  | dict (key : Basic) (value : Sig)
  | struct (fields : List Sig)
  deriving Inhabited

namespace Sig

mutual

/-- The code of a complete type, as code points. -/
def codes : Sig → List Nat
  | .basic b => [b.letter.toNat]
  | .variant => ['v'.toNat]
  | .array e => 'a'.toNat :: codes e
  | .dict k v => ['a'.toNat, '{'.toNat, k.letter.toNat] ++ codes v ++ ['}'.toNat]
  | .struct fs => '('.toNat :: codesList fs ++ [')'.toNat]

/-- The codes of complete types, one after another. -/
def codesList : List Sig → List Nat
  | [] => []
  | s :: rest => codes s ++ codesList rest

end

theorem letter_lt (b : Basic) : b.letter.toNat < 128 := by
  cases b <;> decide

mutual

/-- Signature codes are ASCII. -/
theorem codes_lt : (s : Sig) → ∀ c ∈ s.codes, c < 128
  | .basic b => by simp [codes, letter_lt]
  | .variant => by simp [codes]
  | .array e => by
    simp only [codes, List.mem_cons]
    rintro c (rfl | member)
    · decide
    · exact codes_lt e c member
  | .dict k v => by
    intro c member
    simp only [codes, List.cons_append, List.mem_cons, List.mem_append, List.not_mem_nil, or_false, false_or] at member
    rcases member with rfl | rfl | rfl | member | rfl
    · decide
    · decide
    · exact letter_lt k
    · exact codes_lt v c member
    · decide
  | .struct fs => by
    intro c member
    simp only [codes, List.cons_append, List.mem_cons, List.mem_append, List.not_mem_nil, or_false] at member
    rcases member with rfl | member | rfl
    · decide
    · exact codesList_lt fs c member
    · decide

theorem codesList_lt : (fs : List Sig) → ∀ c ∈ codesList fs, c < 128
  | [] => by simp [codesList]
  | f :: fs => by
    simp only [codesList, List.mem_append]
    rintro c (member | member)
    · exact codes_lt f c member
    · exact codesList_lt fs c member

end

/-- The code text of a complete type. -/
def code (s : Sig) : Text := ⟨s.codes, fun c member => Nat.lt_trans (codes_lt s c member) (by decide)⟩

/-- The alignment of a complete type's encoding: 8 for structs and dictionary entries, 4 for
arrays, 1 for variants. -/
def alignment : Sig → Nat
  | .basic b => b.alignment
  | .variant => 1
  | .array _ => 4
  | .dict _ _ => 4
  | .struct _ => 8

end Sig

end MessageBus
