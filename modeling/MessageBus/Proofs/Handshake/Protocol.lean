import Mathlib
import MessageBus.Proofs.Handshake.LineReading
import MessageBus.Proofs.Utf8

namespace MessageBus

/-- A character's code point is that character again. -/
theorem Text.charOf_toNat (c : Char) : Text.charOf c.toNat = c := by
  have valid := c.valid
  simp only [UInt32.isValidChar, Nat.isValidChar] at valid
  have scalar : c.toNat < 0xD800 ∨ 0xDFFF < c.toNat ∧ c.toNat < 0x110000 := valid
  rw [Text.charOf, Utf8.isSurrogate_eq_false (by omega), if_neg (by simp; omega), Char.ofNat_toNat]

theorem Text.toString_ofString (s : String) : (Text.ofString s).toString = s := by
  simp [Text.toString, Text.ofString, Function.comp_def, Text.charOf_toNat]

/-- The text of an integer is ASCII: a minus sign and decimal digits. -/
theorem Digits.ascii_int (n : Int) : ∀ c ∈ (Digits.int n).toList, c.toNat < 128 := by
  have digits : ∀ c ∈ (Digits.decimal n.natAbs).toList, c.toNat < 128 := by
    intro c mem
    simp only [Digits.decimal, String.toList_ofList] at mem
    have digit := Nat.isDigit_of_mem_toDigits (by decide) (by decide) mem
    simp only [Char.isDigit, Bool.and_eq_true, decide_eq_true_eq] at digit
    have nine : c.val.toNat ≤ 57 := UInt32.le_iff_toNat_le.mp digit.2
    exact Nat.lt_of_le_of_lt nine (by decide)
  unfold Digits.int
  split
  · simp only [String.toList_append, List.mem_append]
    rintro c (minus | mem)
    · simp at minus
      subst minus
      decide
    · exact digits c mem
  · exact digits

/-- A socket that plays a script. -/
structure ScriptedSocket where
  /-- What each read gives, in order; once the script is used up, reads give the end of the
  stream. -/
  reads : List Received
  /-- Why the write of a given number fails, writes being counted from zero, or `none` when it
  goes through. -/
  refuse : Nat → Option String
  /-- How many writes were tried. -/
  attempts : Nat := 0
  /-- The octets of each write that went through, in order. -/
  sent : List (List UInt8) := []
  timeout : Option Binary64 := none

namespace ScriptedSocket

/-- The octets a script's reads give before the first read that gives none: the first time-out,
failure or end of the stream. -/
def pieces : List Received → List (List UInt8)
  | .data (b :: bytes) :: rest => (b :: bytes) :: pieces rest
  | _ => []

/-- Whether the socket lets the next `n` writes through. -/
def passes (s : ScriptedSocket) (n : Nat) : Prop := ∀ j < n, s.refuse (s.attempts + j) = none

theorem ne_nil_of_mem_pieces {reads : List Received} {piece : List UInt8} (mem : piece ∈ pieces reads) :
    piece ≠ [] := by
  induction reads with
  | nil => simp [pieces] at mem
  | cons r rest ih =>
    match r, mem with
    | .data (b :: bytes), mem =>
      rcases List.mem_cons.mp mem with rfl | later
      · exact List.cons_ne_nil b bytes
      · exact ih later

end ScriptedSocket

/-- The scripted socket as a socket. -/
def Socket.scripted : Socket ScriptedSocket where
  send s bytes :=
    match s.refuse s.attempts with
    | some why => ({ s with attempts := s.attempts + 1 }, some why)
    | none => ({ s with attempts := s.attempts + 1, sent := s.sent ++ [bytes] }, none)
  recv s _ := ({ s with reads := s.reads.tail }, s.reads.headD (.data []))
  timeout s := s.timeout
  setTimeout s t := { s with timeout := t }

theorem send_scripted_refused {s : ScriptedSocket} {why : String} (refused : s.refuse s.attempts = some why)
    (bytes : List UInt8) : Socket.scripted.send s bytes = ({ s with attempts := s.attempts + 1 }, some why) := by
  simp only [Socket.scripted, refused]

theorem send_scripted_passed {s : ScriptedSocket} (passed : s.refuse s.attempts = none) (bytes : List UInt8) :
    Socket.scripted.send s bytes = ({ s with attempts := s.attempts + 1, sent := s.sent ++ [bytes] }, none) := by
  simp only [Socket.scripted, passed]

namespace Auth

/-- The hexadecimal form of an ASCII text's octets: two lower-case digits for each character. -/
def hexOfAscii (s : String) : String := String.join (s.toList.map fun c => Digits.hex 2 c.toNat)

/-- What the client writes in a handshake as the user `uid`, in order: a NUL octet, the line
`AUTH EXTERNAL` with the hexadecimal form of the user id's decimal text, and `BEGIN`. -/
def handshakeWrites (uid : Int) : List (List UInt8) :=
  [[0], Utf8.ofString ("AUTH EXTERNAL " ++ hexOfAscii (Digits.int uid) ++ "\r\n"), Utf8.ofString "BEGIN\r\n"]

theorem ascii_go_of_lt (pos : Nat) {codes : List Nat} (small : ∀ c ∈ codes, c < 128) :
    ascii.go pos codes = .ok (codes.map Nat.toUInt8) := by
  induction codes generalizing pos with
  | nil => rfl
  | cons c rest ih =>
    rw [ascii.go, if_pos (small c (by simp)), ih (pos + 1) (fun d mem => small d (by simp [mem]))]
    rfl

/-- An integer user id always has an identity: the hexadecimal form of its decimal text. -/
theorem externalIdentity_int (uid : Int) :
    externalIdentity (.int uid) = .ok (Text.ofString (hexOfAscii (Digits.int uid))) := by
  have small : ∀ c ∈ (Text.ofString (Digits.int uid)).codes, c < 128 := by
    simpa [Text.ofString] using Digits.ascii_int uid
  have plain : (Value.int uid).plain = Digits.int uid := rfl
  rw [externalIdentity, plain, ascii, ascii_go_of_lt 0 small]
  have sameDigits : (Digits.int uid).toList.map ((fun b : UInt8 => Digits.hex 2 b.toNat) ∘ Nat.toUInt8 ∘ Char.toNat) =
      (Digits.int uid).toList.map fun c => Digits.hex 2 c.toNat :=
    List.map_congr_left fun c mem => by
      simp only [Function.comp_apply, Utf8.toNat_toUInt8 (Nat.lt_trans (Digits.ascii_int uid c mem) (by decide))]
  simp only [Except.map, Text.ofString, List.map_map, hexOfAscii, sameDigits]

/-- What every read keeps, reading a line keeps. -/
theorem readLine_keeps {σ : Type} (sock : Socket σ) (P : σ → Prop) (recv : ∀ s n, P s → P (sock.recv s n).1)
    (maxLine : Int) (fuel : Nat) {s : σ} (buffer : List UInt8) (start : P s) :
    P (readLine sock maxLine fuel s buffer).1 := by
  induction fuel generalizing s buffer with
  | zero => exact start
  | succ fuel ih =>
    have next := recv s chunk start
    unfold readLine
    split
    · split <;> exact start
    · split
      · exact start
      · split <;> rename_i received <;> rw [received] at next
        · exact next
        · exact next
        · exact next
        · exact ih _ next

/-- Reading a line fails only with an authentication error. -/
theorem readLine_error_auth {σ : Type} (sock : Socket σ) (maxLine : Int) (fuel : Nat) (s : σ)
    (buffer : List UInt8) {e : BusError} (failed : (readLine sock maxLine fuel s buffer).2 = .error e) :
    e.kind = "AuthError" := by
  induction fuel generalizing s buffer with
  | zero =>
    cases failed
    rfl
  | succ fuel ih =>
    unfold readLine at failed
    split at failed
    · split at failed <;> cases failed
      rfl
    · split at failed
      · cases failed
        rfl
      · split at failed
        · cases failed
          rfl
        · cases failed
          rfl
        · cases failed
          rfl
        · exact ih _ _ failed

theorem ok_iff_of_toOption_eq {ε α : Type} {x y : Except ε α} (same : x.toOption = y.toOption) (v : α) :
    x = .ok v ↔ y = .ok v := by
  cases x <;> cases y <;> simp_all [Except.toOption]

section Reads

variable {maxLine : Int}

/-- Reads from a script come to a line as reads of its pieces do: the same line with the same
octets after it, or a failure on both sides. -/
theorem readLine_scripted_toOption (fuel : Nat) (s : ScriptedSocket) (buffer : List UInt8) :
    (readLine Socket.scripted maxLine fuel s buffer).2.toOption =
      (readLine Socket.ofPieces maxLine fuel (ScriptedSocket.pieces s.reads) buffer).2.toOption := by
  induction fuel generalizing s buffer with
  | zero => rfl
  | succ fuel ih =>
    by_cases stops : lineEnd? buffer ≠ none ∨ (buffer.length : Int) > maxLine
    · rw [readLine_of_stops _ stops, readLine_of_stops _ stops]
    rw [not_or, not_not, not_lt] at stops
    obtain ⟨noEnd, within⟩ := stops
    obtain ⟨reads, refuse, attempts, sent, timeout⟩ := s
    match reads with
    | .data (b :: bytes) :: rest =>
      rw [ScriptedSocket.pieces, readLine_ofPieces_cons noEnd within (List.cons_ne_nil b bytes)]
      simp only [readLine, noEnd, if_neg (not_lt.mpr within), Socket.scripted, List.tail_cons, List.headD_cons]
      exact ih _ _
    | [] | .data [] :: _ | .timedOut :: _ | .failed _ :: _ =>
      simp only [readLine, noEnd, if_neg (not_lt.mpr within), Socket.scripted, ScriptedSocket.pieces, Socket.ofPieces]
      rfl

end Reads

/-- The first line of a stream that came in pieces, as the handshake reads it: a line within the
limit, and not one of exactly the limit whose CR and LF came in different pieces. -/
def FirstLine (maxLine : Int) (pieces : List (List UInt8)) (line : List UInt8) : Prop :=
  (∃ after, lineOf maxLine pieces.flatten = .ok (line, after)) ∧ ¬ SplitsLimitLine [] pieces maxLine

/-- A stream has one first line. -/
theorem FirstLine.unique {maxLine : Int} {pieces : List (List UInt8)} {line line' : List UInt8}
    (first : FirstLine maxLine pieces line) (first' : FirstLine maxLine pieces line') : line = line' := by
  obtain ⟨⟨after, read⟩, -⟩ := first
  obtain ⟨⟨after', read'⟩, -⟩ := first'
  rw [read] at read'
  cases read'
  rfl

/-- Reading the answer over a scripted socket gives a line exactly when the pieces of the script
have it as their first line. -/
theorem readLine_scripted_ok_iff (maxLine : Int) (s : ScriptedSocket) (line : List UInt8) :
    (∃ after, (readLine Socket.scripted maxLine (maxLine.toNat + 2) s []).2 = .ok (line, after)) ↔
      FirstLine maxLine (ScriptedSocket.pieces s.reads) line := by
  have same := @readLine_scripted_toOption maxLine (maxLine.toNat + 2) s []
  have whole := @withUnread_readLine_from maxLine (maxLine.toNat + 2) (ScriptedSocket.pieces s.reads) []
    (fun p mem => ScriptedSocket.ne_nil_of_mem_pieces mem) (by omega) (by simp)
  simp only [ok_iff_of_toOption_eq same]
  generalize readLine Socket.ofPieces maxLine (maxLine.toNat + 2) (ScriptedSocket.pieces s.reads) [] = read at whole
  obtain ⟨unread, outcome⟩ := read
  unfold FirstLine
  by_cases cut : SplitsLimitLine [] (ScriptedSocket.pieces s.reads) maxLine
  · rw [if_pos cut] at whole
    cases outcome <;> simp_all [withUnread, Except.map]
  · rw [if_neg cut, List.nil_append] at whole
    cases outcome with
    | error e => simp_all [withUnread, Except.map]
    | ok found =>
      obtain ⟨line', after'⟩ := found
      simp only [withUnread, Except.map] at whole
      simp [← whole, cut]

/-- The answer lines that give a guid: `OK `, then one or more hexadecimal digits, which are the
guid, and at most one line feed after them. -/
def GivesGuid (line : List UInt8) (guid : Text) : Prop :=
  ∃ digits, digits ≠ [] ∧ (∀ b ∈ digits, isHexOctet b = true) ∧ guid = Text.ofOctets digits ∧
    (line = [79, 75, 32] ++ digits ∨ line = [79, 75, 32] ++ digits ++ [10])

theorem isHexOctet_lineFeed : isHexOctet 10 = false := rfl

/-- The lines the handshake takes are those that give a guid. -/
theorem okGuid?_eq_some_iff {line : List UInt8} {guid : Text} : okGuid? line = some guid ↔ GivesGuid line guid := by
  constructor
  · intro taken
    unfold okGuid? at taken
    split at taken
    · rename_i rest
      rw [← okGuid?.eq_1] at taken
      -- the digits are what follows `OK `, less a line feed at its end
      obtain rfl | ⟨digits, last, rfl⟩ := rest.eq_nil_or_concat
      · simp [okGuid?] at taken
      · rw [List.concat_eq_append] at taken ⊢
        by_cases feed : last = 10
        · subst feed
          simp [okGuid?] at taken
          exact ⟨digits, taken.1.1, taken.1.2, taken.2.symm, .inr (by simp)⟩
        · simp [okGuid?, feed] at taken
          refine ⟨digits ++ [last], by simp, ?_, taken.2.symm, .inl (by simp)⟩
          exact List.forall_mem_append.mpr ⟨taken.1.1, List.forall_mem_singleton.mpr taken.1.2⟩
    · cases taken
  · rintro ⟨digits, nonempty, hex, rfl, rfl | rfl⟩
    · obtain ⟨init, last, rfl⟩ := (List.eq_nil_or_concat digits).resolve_left nonempty
      rw [List.concat_eq_append] at hex ⊢
      have feed : last ≠ 10 := by
        rintro rfl
        simpa [isHexOctet_lineFeed] using hex 10 (by simp)
      simp only [okGuid?, List.cons_append, List.nil_append]
      simp [feed]
      exact ⟨fun x mem => hex x (by simp [mem]), hex last (by simp)⟩
    · simpa [okGuid?, nonempty] using hex

/-- A line gives one guid. -/
theorem GivesGuid.unique {line : List UInt8} {guid guid' : Text} (gives : GivesGuid line guid)
    (gives' : GivesGuid line guid') : guid = guid' := by
  rw [← okGuid?_eq_some_iff] at gives gives'
  exact Option.some_inj.mp (gives.symm.trans gives')

/-- The guid the handshake takes from a stream that came in pieces: the first line, as the
handshake reads it, gives the guid, and the guid matches the expected one, if any, in any case of
letters. -/
def TakesGuid (maxLine : Int) (expected : Option Text) (pieces : List (List UInt8)) (guid : Text) : Prop :=
  ∃ line, FirstLine maxLine pieces line ∧ GivesGuid line guid ∧ ∀ e ∈ expected, lower guid = lower e

/-- A stream gives one guid. -/
theorem TakesGuid.unique {maxLine : Int} {expected : Option Text} {pieces : List (List UInt8)} {guid guid' : Text}
    (taken : TakesGuid maxLine expected pieces guid) (taken' : TakesGuid maxLine expected pieces guid') :
    guid = guid' := by
  obtain ⟨line, first, gives, -⟩ := taken
  obtain ⟨line', first', gives', -⟩ := taken'
  rw [first.unique first'] at gives
  exact gives.unique gives'

theorem begin_scripted_refused {t : ScriptedSocket} {why : String} (refused : t.refuse t.attempts = some why)
    (guid : Text) (after : List UInt8) :
    exchange.begin Socket.scripted t guid after =
      ({ t with attempts := t.attempts + 1 }, .error (.auth ("cannot send BEGIN: " ++ why))) := by
  simp only [exchange.begin, send_scripted_refused refused]

theorem begin_scripted_passed {t : ScriptedSocket} (passed : t.refuse t.attempts = none) (guid : Text)
    (after : List UInt8) :
    exchange.begin Socket.scripted t guid after =
      ({ t with attempts := t.attempts + 1, sent := t.sent ++ [Utf8.ofString "BEGIN\r\n"] }, .ok (guid, after)) := by
  simp only [exchange.begin, send_scripted_passed passed]

/-- How a handshake over a scripted socket may end: with fewer than its three writes through and
an authentication failure, where the socket refuses one of the writes or the stream gives no guid;
or with all three writes through and the guid the stream gives. -/
inductive EndsAs (s : ScriptedSocket) (expected : Option Text) (uid maxLine : Int) :
    ScriptedSocket × Except BusError (Text × List UInt8) → Prop
  | refused {k : Nat} {s' : ScriptedSocket} {e : BusError} (early : k < 3)
      (wrote : s'.sent = s.sent ++ (handshakeWrites uid).take k) (failure : e.kind = "AuthError")
      (notTaken : ¬ (s.passes 3 ∧ ∃ guid, TakesGuid maxLine expected (ScriptedSocket.pieces s.reads) guid)) :
      EndsAs s expected uid maxLine (s', .error e)
  | accepted {s' : ScriptedSocket} {guid : Text} {leftover : List UInt8} (clear : s.passes 3)
      (wrote : s'.sent = s.sent ++ handshakeWrites uid)
      (taken : TakesGuid maxLine expected (ScriptedSocket.pieces s.reads) guid) :
      EndsAs s expected uid maxLine (s', .ok (guid, leftover))

/-- Once both writes of the request went through and the first line gives a guid that agrees with
the expected one, the exchange ends with the write of `BEGIN`: refused, or through with the
guid. -/
theorem begin_scripted_ends {s t : ScriptedSocket} {expected : Option Text} {uid maxLine : Int} {line : List UInt8}
    {guid : Text} (after : List UInt8) (first : s.refuse s.attempts = none)
    (second : s.refuse (s.attempts + 1) = none)
    (kept : t.attempts = s.attempts + 2 ∧ t.sent = s.sent ++ (handshakeWrites uid).take 2 ∧ t.refuse = s.refuse)
    (firstLine : FirstLine maxLine (ScriptedSocket.pieces s.reads) line) (gives : GivesGuid line guid)
    (agrees : ∀ e ∈ expected, lower guid = lower e) :
    EndsAs s expected uid maxLine (exchange.begin Socket.scripted t guid after) := by
  cases third : s.refuse (s.attempts + 2) with
  | some why =>
    rw [begin_scripted_refused (by rw [kept.1, kept.2.2, third])]
    refine .refused (k := 2) (by omega) kept.2.1 rfl fun ⟨passed, _⟩ => ?_
    simpa [third] using passed 2 (by omega)
  | none =>
    rw [begin_scripted_passed (by rw [kept.1, kept.2.2, third])]
    refine .accepted (fun j below => ?_) (by simp [kept.2.1, handshakeWrites]) ⟨line, firstLine, gives, agrees⟩
    interval_cases j <;> assumption

/-- The exchange over a scripted socket ends as `EndsAs` says. The cases follow the exchange:
each of the two writes of the request, the line read, the `OK` check, the guid check and the
write of `BEGIN`. -/
theorem exchange_scripted_ends (s : ScriptedSocket) (expected : Option Text) (uid : Int) (settings : Settings) :
    EndsAs s expected uid settings.maxLine (exchange Socket.scripted s expected (.int uid) settings) := by
  unfold exchange
  rw [externalIdentity_int]
  dsimp only
  rw [Text.toString_ofString]
  cases first : s.refuse s.attempts with
  | some why =>
    simp only [send_scripted_refused first]
    refine .refused (k := 0) (by omega) (by simp) rfl fun ⟨passed, _⟩ => ?_
    simpa [first] using passed 0 (by omega)
  | none =>
    cases second : s.refuse (s.attempts + 1) with
    | some why =>
      simp only [send_scripted_passed first,
        send_scripted_refused (s := { s with attempts := s.attempts + 1, sent := s.sent ++ [[0]] }) second]
      refine .refused (k := 1) (by omega) (by simp [handshakeWrites]) rfl fun ⟨passed, _⟩ => ?_
      simpa [second] using passed 1 (by omega)
    | none =>
      simp only [send_scripted_passed first,
        send_scripted_passed (s := { s with attempts := s.attempts + 1, sent := s.sent ++ [[0]] }) second]
      generalize read : readLine Socket.scripted settings.maxLine (settings.maxLine.toNat + 2) _ [] = result
      obtain ⟨s3, outcome⟩ := result
      have kept : s3.attempts = s.attempts + 2 ∧ s3.sent = s.sent ++ (handshakeWrites uid).take 2 ∧
          s3.refuse = s.refuse := by
        have held := readLine_keeps Socket.scripted
          (fun t => t.attempts = s.attempts + 2 ∧ t.sent = s.sent ++ (handshakeWrites uid).take 2 ∧ t.refuse = s.refuse)
          (fun t n held => held) settings.maxLine (settings.maxLine.toNat + 2) []
          (s := { s with attempts := s.attempts + 1 + 1,
                         sent := s.sent ++ [[0]] ++ [Utf8.ofString ("AUTH EXTERNAL " ++ hexOfAscii (Digits.int uid) ++ "\r\n")] })
          ⟨rfl, by simp [handshakeWrites], rfl⟩
        rwa [read] at held
      have lineIff := readLine_scripted_ok_iff settings.maxLine
        { s with attempts := s.attempts + 1 + 1,
                 sent := s.sent ++ [[0]] ++ [Utf8.ofString ("AUTH EXTERNAL " ++ hexOfAscii (Digits.int uid) ++ "\r\n")] }
      rw [read] at lineIff
      cases outcome with
      | error e =>
        refine .refused (k := 2) (by omega) kept.2.1 (readLine_error_auth _ _ _ _ _ (by rw [read])) ?_
        rintro ⟨-, guid, line, firstLine, -⟩
        obtain ⟨after, ok⟩ := (lineIff line).mpr firstLine
        cases ok
      | ok found =>
        obtain ⟨line, after⟩ := found
        have firstLine := (lineIff line).mp ⟨after, rfl⟩
        dsimp only
        cases taken : okGuid? line with
        | none =>
          refine .refused (k := 2) (by omega) kept.2.1 rfl ?_
          rintro ⟨-, guid, line', first', gives, -⟩
          rw [first'.unique firstLine, ← okGuid?_eq_some_iff, taken] at gives
          cases gives
        | some guid =>
          dsimp only
          have gives := okGuid?_eq_some_iff.mp taken
          have begun (agrees : ∀ e ∈ expected, lower guid = lower e) :=
            begin_scripted_ends after first second kept firstLine gives agrees
          cases expected with
          | none => exact begun (by simp)
          | some e =>
            dsimp only
            split
            · rename_i mismatch
              refine .refused (k := 2) (by omega) kept.2.1 rfl ?_
              rintro ⟨-, g, line', first', gives', agrees⟩
              rw [first'.unique firstLine] at gives'
              obtain rfl := gives'.unique gives
              simp [agrees e rfl] at mismatch
            · rename_i matched
              exact begun (by simpa using matched)

/-- The handshake is the exchange with the socket's time-out set for it, and then restored. -/
theorem authenticate_scripted_eq (s : ScriptedSocket) (expected : Option Text) (uid : Value) (settings : Settings) :
    authenticate Socket.scripted s expected uid settings =
      ({ (exchange Socket.scripted { s with timeout := some settings.authTimeout } expected uid settings).1 with
          timeout := s.timeout },
        (exchange Socket.scripted { s with timeout := some settings.authTimeout } expected uid settings).2) := rfl

/-- The handshake's law over every scripted socket, user id and expected guid: the time-out is
restored; the writes that went through are a prefix of the NUL octet, the AUTH line and `BEGIN`;
the handshake returns exactly when `BEGIN` went through, and a guid exactly when the socket lets
all three writes through and the stream gives that guid; every other outcome is an authentication
error. -/
theorem handshake_law (s : ScriptedSocket) (expected : Option Text) (uid : Int) (settings : Settings) :
    let run := authenticate Socket.scripted s expected (.int uid) settings
    run.1.timeout = s.timeout ∧
      (∃ writes, run.1.sent = s.sent ++ writes ∧ writes <+: handshakeWrites uid) ∧
      ((∃ found, run.2 = .ok found) ↔ run.1.sent = s.sent ++ handshakeWrites uid) ∧
      (∀ guid, (∃ leftover, run.2 = .ok (guid, leftover)) ↔
        s.passes 3 ∧ TakesGuid settings.maxLine expected (ScriptedSocket.pieces s.reads) guid) ∧
      ∀ e, run.2 = .error e → e.kind = "AuthError" := by
  have ends := exchange_scripted_ends { s with timeout := some settings.authTimeout } expected uid settings
  rw [authenticate_scripted_eq]
  generalize exchange Socket.scripted { s with timeout := some settings.authTimeout } expected (.int uid) settings = run
    at ends ⊢
  cases ends with
  | refused early wrote failure notTaken =>
    refine ⟨rfl, ⟨_, wrote, List.take_prefix _ _⟩, ⟨fun ⟨_, ok⟩ => (by cases ok), fun full => ?_⟩,
      fun guid => ⟨fun ⟨_, ok⟩ => (by cases ok), fun accepted => absurd ⟨accepted.1, guid, accepted.2⟩ notTaken⟩,
      fun e' failed => (by cases failed; exact failure)⟩
    have same := congrArg List.length (List.append_cancel_left (wrote.symm.trans full))
    simp [handshakeWrites] at same
    omega
  | accepted clear wrote taken =>
    refine ⟨rfl, ⟨_, wrote, List.prefix_refl _⟩, ⟨fun _ => wrote, fun _ => ⟨_, rfl⟩⟩,
      fun guid => ⟨fun ⟨_, ok⟩ => ?_, fun accepted => ?_⟩, fun e' failed => (by cases failed)⟩
    · cases ok
      exact ⟨clear, taken⟩
    · obtain rfl := accepted.2.unique taken
      exact ⟨_, rfl⟩

/-- The answer `OK abc`, with a line feed before its CR LF, is taken with the guid `abc`. -/
theorem handshake_takes_guid_before_lineFeed :
    ∃ leftover, (authenticate Socket.scripted ⟨[.data [79, 75, 32, 97, 98, 99, 10, 13, 10]], fun _ => none, 0, [], none⟩
      none (.int 1000) Settings.defaults).2 = .ok (Text.ofString "abc", leftover) := by
  have law := (handshake_law ⟨[.data [79, 75, 32, 97, 98, 99, 10, 13, 10]], fun _ => none, 0, [], none⟩ none
    1000 Settings.defaults).2.2.2.1 (Text.ofString "abc")
  refine law.mpr ⟨fun _ _ => rfl, [79, 75, 32, 97, 98, 99, 10], ⟨⟨[], rfl⟩, by decide⟩,
    ⟨[97, 98, 99], by simp, by simp [isHexOctet], rfl, .inr rfl⟩, by simp⟩

end Auth

end MessageBus
