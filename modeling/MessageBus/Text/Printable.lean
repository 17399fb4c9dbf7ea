import MessageBus.Text.Basic

namespace MessageBus.Text

/-- Ranges of code points, both ends included, that do not print as themselves. -/
def hiddenRanges : List (Nat × Nat) :=
  [ (0x00, 0x1F), (0x7F, 0xA0), (0xAD, 0xAD),
    (0x378, 0x379), (0x380, 0x383), (0x38B, 0x38B), (0x38D, 0x38D), (0x3A2, 0x3A2),
    (0x530, 0x530), (0x557, 0x558), (0x58B, 0x58C), (0x590, 0x590), (0x5C8, 0x5CF),
    (0x5EB, 0x5EE), (0x5F5, 0x605), (0x61C, 0x61C), (0x6DD, 0x6DD), (0x70E, 0x70F),
    (0x74B, 0x74C), (0x7B2, 0x7BF), (0x7FB, 0x7FC), (0x82E, 0x82F), (0x83F, 0x83F),
    (0x85C, 0x85D), (0x85F, 0x85F), (0x86B, 0x86F), (0x88F, 0x897), (0x8E2, 0x8E2),
    (0x180E, 0x180E), (0x1680, 0x1680),
    (0x2000, 0x200F), (0x2028, 0x202F), (0x205F, 0x206F),
    (0x2FE0, 0x2FEF), (0x3000, 0x3000),
    (0xD800, 0xF8FF), (0xFDD0, 0xFDEF), (0xFEFF, 0xFEFF), (0xFFF0, 0xFFFB), (0xFFFE, 0xFFFF),
    (0x110BD, 0x110BD), (0x110CD, 0x110CD), (0x13430, 0x1343F), (0x1BCA0, 0x1BCA3),
    (0x1D173, 0x1D17A), (0x1FFFE, 0x1FFFF), (0x2A6E0, 0x2A6FF), (0x2FA1E, 0x2FFFF),
    (0x323B0, 0xE00FF), (0xE01F0, 0x10FFFF) ]

/-- Whether a code point prints as itself in a quoted literal. -/
def printable (c : Nat) : Bool :=
  !hiddenRanges.any (fun r => r.1 ≤ c && c ≤ r.2)

end MessageBus.Text
