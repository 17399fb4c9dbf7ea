import Mathlib
import MessageBus.Text.Utf8

namespace MessageBus.Utf8

theorem toNat_toUInt8 {n : Nat} (small : n < 256) : n.toUInt8.toNat = n := by
  simp [Nat.mod_eq_of_lt small]

theorem character_of_one {b : UInt8} {low high : Nat} (leads : lead b.toNat = some ⟨0, low, high⟩)
    (rest : List UInt8) : character b rest = .ok (b.toNat, 0) := by
  unfold character
  rw [leads]
  rfl

theorem character_of_two {b x : UInt8} {low high : Nat} (leads : lead b.toNat = some ⟨1, low, high⟩)
    (inside : within low high x = true) (rest : List UInt8) :
    character b (x :: rest) = .ok ((b.toNat % 32) * 64 + payload x, 1) := by
  unfold character
  rw [leads]
  show (if within low high x = true then _ else _) = _
  rw [if_pos inside]

theorem character_of_three {b x y : UInt8} {low high : Nat} (leads : lead b.toNat = some ⟨2, low, high⟩)
    (first : within low high x = true) (second : within 0x80 0xBF y = true) (rest : List UInt8) :
    character b (x :: y :: rest) = .ok ((b.toNat % 16) * 4096 + payload x * 64 + payload y, 2) := by
  unfold character
  rw [leads]
  show (if (!within low high x) = true then _ else if (!within 0x80 0xBF y) = true then _ else _) = _
  simp [first, second]

theorem character_of_four {b x y z : UInt8} {low high : Nat} (leads : lead b.toNat = some ⟨3, low, high⟩)
    (first : within low high x = true) (second : within 0x80 0xBF y = true)
    (third : within 0x80 0xBF z = true) (rest : List UInt8) :
    character b (x :: y :: z :: rest) =
      .ok ((b.toNat % 8) * 262144 + payload x * 4096 + payload y * 64 + payload z, 3) := by
  unfold character
  rw [leads]
  show (if (!within low high x) = true then _ else if (!within 0x80 0xBF y) = true then _
    else if (!within 0x80 0xBF z) = true then _ else _) = _
  simp [first, second, third]

theorem decodeAt_cons {pos : Nat} {b : UInt8} {rest : List UInt8} {c n : Nat}
    (reads : character b rest = .ok (c, n)) :
    decodeAt pos (b :: rest) = (decodeAt (pos + 1 + n) (rest.drop n)).map (c :: ·) := by
  rw [decodeAt, reads]

theorem within_iff {low high : Nat} {x : UInt8} : within low high x = true ↔ low ≤ x.toNat ∧ x.toNat ≤ high := by
  simp [within]

theorem lead_one {c : Nat} (small : c < 0x80) : lead c = some ⟨0, 0x80, 0xBF⟩ := by
  unfold lead
  rw [if_pos (by omega)]

theorem lead_two {c : Nat} (low : 0x80 ≤ c) (high : c < 0x800) :
    lead (0xC0 + c / 64) = some ⟨1, 0x80, 0xBF⟩ := by
  unfold lead
  rw [if_neg (by omega), if_pos (by omega)]

theorem lead_three {c : Nat} (low : 0x800 ≤ c) (high : c < 0x10000) (plain : ¬(0xD800 ≤ c ∧ c ≤ 0xDFFF)) :
    ∃ first last, lead (0xE0 + c / 4096) = some ⟨2, first, last⟩ ∧
      first ≤ 0x80 + c / 64 % 64 ∧ 0x80 + c / 64 % 64 ≤ last := by
  unfold lead
  rw [if_neg (by omega), if_neg (by omega)]
  by_cases e0 : c < 0x1000
  · rw [if_pos (by omega)]; exact ⟨_, _, rfl, by omega, by omega⟩
  rw [if_neg (by omega)]
  by_cases e1 : c < 0xD000
  · rw [if_pos (by omega)]; exact ⟨_, _, rfl, by omega, by omega⟩
  rw [if_neg (by omega)]
  by_cases ed : c < 0xE000
  · rw [if_pos (by omega)]; exact ⟨_, _, rfl, by omega, by omega⟩
  rw [if_neg (by omega), if_pos (by omega)]
  exact ⟨_, _, rfl, by omega, by omega⟩

theorem lead_four {c : Nat} (low : 0x10000 ≤ c) (high : c < 0x110000) :
    ∃ first last, lead (0xF0 + c / 262144) = some ⟨3, first, last⟩ ∧
      first ≤ 0x80 + c / 4096 % 64 ∧ 0x80 + c / 4096 % 64 ≤ last := by
  unfold lead
  rw [if_neg (by omega), if_neg (by omega), if_neg (by omega), if_neg (by omega), if_neg (by omega),
    if_neg (by omega)]
  by_cases f0 : c < 0x40000
  · rw [if_pos (by omega)]; exact ⟨_, _, rfl, by omega, by omega⟩
  rw [if_neg (by omega)]
  by_cases f1 : c < 0x100000
  · rw [if_pos (by omega)]; exact ⟨_, _, rfl, by omega, by omega⟩
  rw [if_neg (by omega), if_pos (by omega)]
  exact ⟨_, _, rfl, by omega, by omega⟩

/-- Every scalar value decodes from its own octets, whatever follows them. -/
theorem decodeAt_encodePoint {c : Nat} (scalar : c < 0x110000) (plain : Text.isSurrogate c = false)
    (pos : Nat) (rest : List UInt8) :
    decodeAt pos (encodePoint c ++ rest) = (decodeAt (pos + (encodePoint c).length) rest).map (c :: ·) := by
  have notSurrogate : ¬(0xD800 ≤ c ∧ c ≤ 0xDFFF) := by simpa [Text.isSurrogate] using plain
  have continuation : ∀ {n : Nat}, n < 64 → within 0x80 0xBF (0x80 + n).toUInt8 = true := fun small => by
    rw [within_iff, toNat_toUInt8 (by omega)]; omega
  unfold encodePoint
  by_cases one : c < 0x80
  · rw [if_pos one]
    have reads := character_of_one (b := c.toUInt8) (by rw [toNat_toUInt8 (by omega)]; exact lead_one one) rest
    rw [List.singleton_append, decodeAt_cons reads, toNat_toUInt8 (by omega)]
    simp
  rw [if_neg one]
  by_cases two : c < 0x800
  · rw [if_pos two]
    have reads := character_of_two (b := (0xC0 + c / 64).toUInt8) (x := (0x80 + c % 64).toUInt8)
      (by rw [toNat_toUInt8 (by omega)]; exact lead_two (by omega) two) (continuation (by omega)) rest
    rw [List.cons_append, List.singleton_append, decodeAt_cons reads]
    simp only [payload, toNat_toUInt8 (show 0x80 + c % 64 < 256 by omega),
      toNat_toUInt8 (show 0xC0 + c / 64 < 256 by omega), List.drop_one, List.tail_cons, List.length_cons]
    rw [show (0xC0 + c / 64) % 32 * 64 + (0x80 + c % 64) % 64 = c by omega]
    rfl
  rw [if_neg two]
  by_cases three : c < 0x10000
  · rw [if_pos three]
    obtain ⟨first, last, leads, above, below⟩ := lead_three (by omega) three notSurrogate
    have reads := character_of_three (b := (0xE0 + c / 4096).toUInt8) (x := (0x80 + c / 64 % 64).toUInt8)
      (y := (0x80 + c % 64).toUInt8) (by rw [toNat_toUInt8 (by omega)]; exact leads)
      (by rw [within_iff, toNat_toUInt8 (by omega)]; omega) (continuation (by omega)) rest
    rw [List.cons_append, List.cons_append, List.singleton_append, decodeAt_cons reads]
    simp only [payload, toNat_toUInt8 (show 0x80 + c % 64 < 256 by omega),
      toNat_toUInt8 (show 0x80 + c / 64 % 64 < 256 by omega),
      toNat_toUInt8 (show 0xE0 + c / 4096 < 256 by omega), List.drop_succ_cons, List.drop_zero,
      List.length_cons]
    rw [show (0xE0 + c / 4096) % 16 * 4096 + (0x80 + c / 64 % 64) % 64 * 64 + (0x80 + c % 64) % 64 = c by
      omega]
    rfl
  rw [if_neg three]
  obtain ⟨first, last, leads, above, below⟩ := lead_four (by omega) scalar
  have reads := character_of_four (b := (0xF0 + c / 262144).toUInt8) (x := (0x80 + c / 4096 % 64).toUInt8)
    (y := (0x80 + c / 64 % 64).toUInt8) (z := (0x80 + c % 64).toUInt8)
    (by rw [toNat_toUInt8 (by omega)]; exact leads)
    (by rw [within_iff, toNat_toUInt8 (by omega)]; omega) (continuation (by omega)) (continuation (by omega)) rest
  rw [List.cons_append, List.cons_append, List.cons_append, List.singleton_append, decodeAt_cons reads]
  simp only [payload, toNat_toUInt8 (show 0x80 + c % 64 < 256 by omega),
    toNat_toUInt8 (show 0x80 + c / 64 % 64 < 256 by omega),
    toNat_toUInt8 (show 0x80 + c / 4096 % 64 < 256 by omega),
    toNat_toUInt8 (show 0xF0 + c / 262144 < 256 by omega), List.drop_succ_cons, List.drop_zero,
    List.length_cons]
  rw [show (0xF0 + c / 262144) % 8 * 262144 + (0x80 + c / 4096 % 64) % 64 * 4096 +
    (0x80 + c / 64 % 64) % 64 * 64 + (0x80 + c % 64) % 64 = c by omega]
  rfl

/-- Scalar values: what a string of the caller's language holds, less the surrogates that have no
encoding. -/
theorem decodeAt_flatMap (codes : List Nat) (scalars : ∀ c ∈ codes, c < 0x110000 ∧ Text.isSurrogate c = false)
    (pos : Nat) : decodeAt pos (codes.flatMap encodePoint) = .ok codes := by
  induction codes generalizing pos with
  | nil => simp [decodeAt]
  | cons c rest ih =>
    obtain ⟨scalar, plain⟩ := scalars c (by simp)
    rw [List.flatMap_cons, decodeAt_encodePoint scalar plain, ih (fun d member => scalars d (by simp [member]))]
    rfl

theorem encodeAt_eq_ok {pos : Nat} {codes : List Nat} {bytes : List UInt8} (encodes : encodeAt pos codes = .ok bytes) :
    (∀ c ∈ codes, Text.isSurrogate c = false) ∧ bytes = codes.flatMap encodePoint := by
  induction codes generalizing pos bytes with
  | nil => simp [encodeAt] at encodes; simp [encodes]
  | cons c rest ih =>
    unfold encodeAt at encodes
    split at encodes
    · cases encodes
    · rename_i plain
      obtain ⟨tail, restEncodes, rfl⟩ : ∃ tail, encodeAt (pos + 1) rest = .ok tail ∧ encodePoint c ++ tail = bytes := by
        cases h : encodeAt (pos + 1) rest <;> simp_all [Except.map]
      obtain ⟨plains, rfl⟩ := ih restEncodes
      simp_all

/-- Text of scalar values reads back from its encoding. -/
theorem decode_encode {t : Text} {bytes : List UInt8} (encodes : encode t = .ok bytes) :
    decode bytes = .ok t := by
  obtain ⟨plains, rfl⟩ := encodeAt_eq_ok encodes
  exact decode_eq_ok.mpr (decodeAt_flatMap _ (fun c member => ⟨t.bounded c member, plains c member⟩) 0)

theorem flatMap_encodePoint_ascii {codes : List Nat} (ascii : ∀ c ∈ codes, c < 128) :
    codes.flatMap encodePoint = codes.map Nat.toUInt8 := by
  induction codes with
  | nil => rfl
  | cons c rest ih =>
    have small := ascii c (by simp)
    rw [List.flatMap_cons, ih (fun d member => ascii d (by simp [member]))]
    simp [encodePoint, small]

/-- ASCII text is its own code points as octets. -/
theorem decode_ascii {t : Text} (ascii : ∀ c ∈ t.codes, c < 128) : decode (t.codes.map Nat.toUInt8) = .ok t := by
  have scalars : ∀ c ∈ t.codes, c < 0x110000 ∧ Text.isSurrogate c = false := fun c member => by
    have small := ascii c member
    exact ⟨by omega, by simp [Text.isSurrogate]; omega⟩
  rw [← flatMap_encodePoint_ascii ascii]
  exact decode_eq_ok.mpr (decodeAt_flatMap _ scalars 0)

theorem isSurrogate_eq_false {c : Nat} (outside : c < 0xD800 ∨ 0xDFFF < c) : Text.isSurrogate c = false := by
  simp only [Text.isSurrogate, Bool.and_eq_false_iff, decide_eq_false_iff_not]
  omega

/-- A lead and one continuation carry a scalar value whose encoding is those two octets. -/
theorem point_two {b x : UInt8} (leads : 0xC2 ≤ b.toNat ∧ b.toNat ≤ 0xDF)
    (continues : 0x80 ≤ x.toNat ∧ x.toNat ≤ 0xBF) :
    (b.toNat % 32) * 64 + payload x < 0x110000 ∧ Text.isSurrogate ((b.toNat % 32) * 64 + payload x) = false ∧
      encodePoint ((b.toNat % 32) * 64 + payload x) = [b, x] := by
  refine ⟨by unfold payload; omega, isSurrogate_eq_false (by unfold payload; omega), ?_⟩
  unfold encodePoint payload
  rw [if_neg (by omega), if_pos (by omega)]
  simp only [List.cons.injEq, and_true]
  constructor <;> apply UInt8.toNat_inj.mp <;> rw [toNat_toUInt8 (by omega)] <;> omega

/-- A lead and two continuations carry a scalar value whose encoding is those three octets: the
lead `0xE0` rules out overlong forms and the lead `0xED` the surrogates. -/
theorem point_three {b x y : UInt8} (leads : 0xE0 ≤ b.toNat ∧ b.toNat ≤ 0xEF)
    (first : 0x80 ≤ x.toNat ∧ x.toNat ≤ 0xBF) (second : 0x80 ≤ y.toNat ∧ y.toNat ≤ 0xBF)
    (shortest : b.toNat = 0xE0 → 0xA0 ≤ x.toNat) (surrogates : b.toNat = 0xED → x.toNat ≤ 0x9F) :
    (b.toNat % 16) * 4096 + payload x * 64 + payload y < 0x110000 ∧
      Text.isSurrogate ((b.toNat % 16) * 4096 + payload x * 64 + payload y) = false ∧
      encodePoint ((b.toNat % 16) * 4096 + payload x * 64 + payload y) = [b, x, y] := by
  have scalar : (b.toNat % 16) * 4096 + payload x * 64 + payload y < 0xD800 ∨
      0xDFFF < (b.toNat % 16) * 4096 + payload x * 64 + payload y := by
    unfold payload
    by_cases high : b.toNat = 0xED
    · have := surrogates high
      omega
    · omega
  refine ⟨by unfold payload; omega, isSurrogate_eq_false scalar, ?_⟩
  unfold encodePoint payload
  rw [if_neg (by omega), if_neg (by omega), if_pos (by omega)]
  simp only [List.cons.injEq, and_true]
  refine ⟨?_, ?_, ?_⟩ <;> apply UInt8.toNat_inj.mp <;> rw [toNat_toUInt8 (by omega)] <;> omega

/-- A lead and three continuations carry a scalar value whose encoding is those four octets: the
lead `0xF0` rules out overlong forms and the lead `0xF4` values past `0x10FFFF`. -/
theorem point_four {b x y z : UInt8} (leads : 0xF0 ≤ b.toNat ∧ b.toNat ≤ 0xF4)
    (first : 0x80 ≤ x.toNat ∧ x.toNat ≤ 0xBF) (second : 0x80 ≤ y.toNat ∧ y.toNat ≤ 0xBF)
    (third : 0x80 ≤ z.toNat ∧ z.toNat ≤ 0xBF) (shortest : b.toNat = 0xF0 → 0x90 ≤ x.toNat)
    (last : b.toNat = 0xF4 → x.toNat ≤ 0x8F) :
    (b.toNat % 8) * 262144 + payload x * 4096 + payload y * 64 + payload z < 0x110000 ∧
      Text.isSurrogate ((b.toNat % 8) * 262144 + payload x * 4096 + payload y * 64 + payload z) = false ∧
      encodePoint ((b.toNat % 8) * 262144 + payload x * 4096 + payload y * 64 + payload z) = [b, x, y, z] := by
  have scalar : (b.toNat % 8) * 262144 + payload x * 4096 + payload y * 64 + payload z < 0x110000 := by
    unfold payload
    by_cases top : b.toNat = 0xF4
    · have := last top
      omega
    · omega
  refine ⟨scalar, isSurrogate_eq_false (by unfold payload; omega), ?_⟩
  unfold encodePoint payload
  rw [if_neg (by omega), if_neg (by omega), if_neg (by omega)]
  simp only [List.cons.injEq, and_true]
  refine ⟨?_, ?_, ?_, ?_⟩ <;> apply UInt8.toNat_inj.mp <;> rw [toNat_toUInt8 (by omega)] <;> omega

/-- A character read from a lead octet and its continuations is a scalar value, and its octets are
the lead and the continuations read. -/
theorem character_ok {b : UInt8} {rest : List UInt8} {c n : Nat} (reads : character b rest = .ok (c, n)) :
    c < 0x110000 ∧ Text.isSurrogate c = false ∧ n ≤ rest.length ∧ encodePoint c = b :: rest.take n := by
  unfold character at reads
  split at reads
  · cases reads
  rename_i l leads
  have toNat_lt := b.toNat_lt
  rcases lead_some leads with ⟨count, small⟩ | ⟨count, b₀, b₁, l₀, h₀⟩ | ⟨count, b₀, b₁, l₀, h₀, e₀, ed⟩ |
    ⟨count, b₀, b₁, l₀, h₀, f₀, f₄⟩
  · rw [count] at reads
    dsimp only at reads
    cases reads
    refine ⟨by omega, by simp [Text.isSurrogate]; omega, by simp, ?_⟩
    unfold encodePoint
    rw [if_pos (by omega), List.take_zero, UInt8.toNat_inj.mp (toNat_toUInt8 (by omega))]
  · rw [count] at reads
    rcases rest with _ | ⟨x, rest⟩
    · cases reads
    change (if within l.low l.high x = true then Except.ok (b.toNat % 32 * 64 + payload x, 1)
      else Except.error (Fault.invalidContinuation, 1)) = Except.ok (c, n) at reads
    split at reads
    · rename_i inside
      cases reads
      rw [within_iff] at inside
      obtain ⟨below, scalar, octets⟩ := point_two (x := x) ⟨b₀, b₁⟩ (by omega)
      exact ⟨below, scalar, by simp, by rw [octets]; rfl⟩
    · cases reads
  · rw [count] at reads
    rcases rest with _ | ⟨x, _ | ⟨y, rest⟩⟩
    · cases reads
    · change (if within l.low l.high x = true then Except.error _ else Except.error _) = Except.ok (c, n) at reads
      split at reads <;> cases reads
    change (if (!within l.low l.high x) = true then Except.error (Fault.invalidContinuation, 1)
      else if (!within 128 191 y) = true then Except.error (Fault.invalidContinuation, 2)
      else Except.ok (b.toNat % 16 * 4096 + payload x * 64 + payload y, 2)) = Except.ok (c, n) at reads
    split at reads
    · cases reads
    split at reads
    · cases reads
    rename_i first second
    cases reads
    have first : l.low ≤ x.toNat ∧ x.toNat ≤ l.high := within_iff.mp (by simpa using first)
    have second : 0x80 ≤ y.toNat ∧ y.toNat ≤ 0xBF := within_iff.mp (by simpa using second)
    obtain ⟨below, scalar, octets⟩ := point_three (x := x) ⟨b₀, b₁⟩ (by omega) second
      (fun e => by have := e₀ e; omega) (fun e => by have := ed e; omega)
    exact ⟨below, scalar, by simp, by rw [octets]; rfl⟩
  · rw [count] at reads
    rcases rest with _ | ⟨x, _ | ⟨y, _ | ⟨z, rest⟩⟩⟩
    · cases reads
    · change (if within l.low l.high x = true then Except.error _ else Except.error _) = Except.ok (c, n) at reads
      split at reads <;> cases reads
    · change (if (!within l.low l.high x) = true then Except.error _
        else if (!within 128 191 y) = true then Except.error _ else Except.error _) = Except.ok (c, n) at reads
      split at reads
      · cases reads
      split at reads <;> cases reads
    change (if (!within l.low l.high x) = true then Except.error (Fault.invalidContinuation, 1)
      else if (!within 128 191 y) = true then Except.error (Fault.invalidContinuation, 2)
      else if (!within 128 191 z) = true then Except.error (Fault.invalidContinuation, 3)
      else Except.ok (b.toNat % 8 * 262144 + payload x * 4096 + payload y * 64 + payload z, 3)) =
        Except.ok (c, n) at reads
    split at reads
    · cases reads
    split at reads
    · cases reads
    split at reads
    · cases reads
    rename_i first second third
    cases reads
    have first : l.low ≤ x.toNat ∧ x.toNat ≤ l.high := within_iff.mp (by simpa using first)
    have second : 0x80 ≤ y.toNat ∧ y.toNat ≤ 0xBF := within_iff.mp (by simpa using second)
    have third : 0x80 ≤ z.toNat ∧ z.toNat ≤ 0xBF := within_iff.mp (by simpa using third)
    obtain ⟨below, scalar, octets⟩ := point_four (x := x) ⟨b₀, b₁⟩ (by omega) second third
      (fun e => by have := f₀ e; omega) (fun e => by have := f₄ e; omega)
    exact ⟨below, scalar, by simp, by rw [octets]; rfl⟩

/-- Octets that decode are the encodings of the scalar values they decode to, one after another. -/
theorem decodeAt_ok {pos : Nat} {bytes : List UInt8} {codes : List Nat} (decodes : decodeAt pos bytes = .ok codes) :
    (∀ c ∈ codes, c < 0x110000 ∧ Text.isSurrogate c = false) ∧ codes.flatMap encodePoint = bytes := by
  fun_induction decodeAt pos bytes generalizing codes with
  | case1 => cases decodes; simp
  | case2 pos b rest c n reads ih =>
    obtain ⟨tail, later, rfl⟩ : ∃ tail, decodeAt (pos + 1 + n) (rest.drop n) = .ok tail ∧ c :: tail = codes := by
      cases after : decodeAt (pos + 1 + n) (rest.drop n) <;> simp_all [Except.map]
    obtain ⟨scalars, octets⟩ := ih later
    obtain ⟨scalar, plain, -, lead⟩ := character_ok reads
    refine ⟨?_, ?_⟩
    · simp only [List.mem_cons, forall_eq_or_imp]
      exact ⟨⟨scalar, plain⟩, scalars⟩
    · rw [List.flatMap_cons, lead, octets, List.cons_append, List.take_append_drop]
  | case3 => cases decodes

theorem encodeAt_of_plain {pos : Nat} {codes : List Nat} (plain : ∀ c ∈ codes, Text.isSurrogate c = false) :
    encodeAt pos codes = .ok (codes.flatMap encodePoint) := by
  induction codes generalizing pos with
  | nil => rfl
  | cons c rest ih =>
    rw [encodeAt, if_neg (by simp [plain c List.mem_cons_self]),
      ih fun d member => plain d (List.mem_cons_of_mem _ member)]
    rfl

/-- Text that octets decode to holds scalar values only, and encodes back to those octets. -/
theorem encode_of_decode {bytes : List UInt8} {t : Text} (decodes : decode bytes = .ok t) :
    encode t = .ok bytes := by
  obtain ⟨scalars, octets⟩ := decodeAt_ok (decode_eq_ok.mp decodes)
  rw [encode, encodeAt_of_plain fun c member => (scalars c member).2, octets]

end MessageBus.Utf8
