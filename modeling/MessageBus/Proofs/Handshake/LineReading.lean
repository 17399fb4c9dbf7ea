import Mathlib
import MessageBus.Transport.Auth

namespace MessageBus

/-- A stream socket whose reads return the given pieces of octets one after another, and then the
end of the stream. Writes go through and the time-out is not kept: only reading is watched. -/
def Socket.ofPieces : Socket (List (List UInt8)) where
  send s _ := (s, none)
  recv s _ :=
    match s with
    | [] => ([], .data [])
    | piece :: rest => (rest, .data piece)
  timeout _ := none
  setTimeout s _ := s

namespace Auth

/-- How the line limit decides a stream that arrives whole: the first line and the octets after
its line end, when the stream holds a line end and the line is within the limit; too long when
the line is longer, or when there is no line end and the stream is longer than the limit; ended
too early otherwise. -/
def lineOf (maxLine : Int) (stream : List UInt8) : Except BusError (List UInt8 × List UInt8) :=
  match lineEnd? stream with
  | some (line, after) => if (line.length : Int) > maxLine then .error (lineTooLong maxLine) else .ok (line, after)
  | none => if (stream.length : Int) > maxLine then .error (lineTooLong maxLine) else .error closedEarly

/-- What a read from a socket of pieces gives, with the octets read past it followed by the octets
of the pieces still unread. -/
def withUnread {α : Type} (read : List (List UInt8) × Except BusError (α × List UInt8)) :
    Except BusError (α × List UInt8) :=
  read.2.map fun found => (found.1, found.2 ++ read.1.flatten)

/-- Where the reads of these pieces end in the stream, with `start` octets already in hand: at
`start` itself, and after each piece. -/
def readEnds (start : Nat) (pieces : List (List UInt8)) : List Nat :=
  pieces.scanl (fun n piece => n + piece.length) start

/-- Whether, reading on from the octets `read` in these pieces, the stream's first line holds
exactly `maxLine` octets and a read ends between its CR and its LF. -/
def SplitsLimitLine (read : List UInt8) (pieces : List (List UInt8)) (maxLine : Int) : Prop :=
  ∃ found ∈ lineEnd? (read ++ pieces.flatten),
    (found.1.length : Int) = maxLine ∧ found.1.length + 1 ∈ readEnds read.length pieces

instance (read : List UInt8) (pieces : List (List UInt8)) (maxLine : Int) :
    Decidable (SplitsLimitLine read pieces maxLine) :=
  inferInstanceAs (Decidable (∃ found ∈ lineEnd? (read ++ pieces.flatten), _))

@[simp] theorem readEnds_nil (start : Nat) : readEnds start [] = [start] := rfl

@[simp] theorem readEnds_cons (start : Nat) (piece : List UInt8) (rest : List (List UInt8)) :
    readEnds start (piece :: rest) = start :: readEnds (start + piece.length) rest :=
  List.scanl_cons

theorem start_mem_readEnds (start : Nat) (pieces : List (List UInt8)) : start ∈ readEnds start pieces := by
  cases pieces <;> simp

theorem le_of_mem_readEnds {start n : Nat} {pieces : List (List UInt8)} (mem : n ∈ readEnds start pieces) :
    start ≤ n := by
  induction pieces generalizing start with
  | nil => simp_all
  | cons piece rest ih =>
    rw [readEnds_cons] at mem
    rcases List.mem_cons.mp mem with rfl | later
    · exact le_refl n
    · have := ih later
      omega

/-- An octet that does not open CR LF goes in front of the first line. -/
theorem lineEnd?_cons {b : UInt8} {rest : List UInt8} (notEnd : ¬ (b = 13 ∧ rest.head? = some 10)) :
    lineEnd? (b :: rest) = (lineEnd? rest).map fun found => (b :: found.1, found.2) := by
  rw [lineEnd?.eq_2 b rest fun rest' isCR isLF => notEnd ⟨isCR, by simp [isLF]⟩]

/-- A line end found splits the octets into the line, CR LF, and what follows. -/
theorem eq_of_lineEnd? {bytes line after : List UInt8} (found : lineEnd? bytes = some (line, after)) :
    bytes = line ++ 13 :: 10 :: after := by
  fun_induction lineEnd? bytes generalizing line after with
  | case1 rest =>
    cases found
    rfl
  | case2 b rest notEnd ih =>
    obtain ⟨⟨line', after'⟩, found', same⟩ := Option.map_eq_some_iff.mp found
    cases same
    rw [ih found']
    rfl
  | case3 => cases found

/-- Octets after a line end do not move it. -/
theorem lineEnd?_append_of_some {bytes line after : List UInt8} (more : List UInt8)
    (found : lineEnd? bytes = some (line, after)) : lineEnd? (bytes ++ more) = some (line, after ++ more) := by
  fun_induction lineEnd? bytes generalizing line after with
  | case1 rest =>
    cases found
    rfl
  | case2 b rest notEnd ih =>
    obtain ⟨⟨line', after'⟩, found', same⟩ := Option.map_eq_some_iff.mp found
    cases same
    obtain ⟨c, rest', rfl⟩ := List.exists_cons_of_ne_nil (l := rest) (by rintro rfl; cases found')
    have notOpen : ¬ (b = 13 ∧ (c :: rest' ++ more).head? = some 10) := by
      rintro ⟨rfl, same⟩
      cases same
      exact notEnd _ rfl rfl
    rw [List.cons_append, lineEnd?_cons notOpen, ih found']
    rfl
  | case3 => cases found

/-- Octets that hold no line end put the first line end of a longer stream no earlier than their
last octet: the line before it is at most one octet shorter than they are. -/
theorem length_le_of_lineEnd?_none {bytes more line after : List UInt8} (noEnd : lineEnd? bytes = none)
    (found : lineEnd? (bytes ++ more) = some (line, after)) : bytes.length ≤ line.length + 1 := by
  induction bytes generalizing line with
  | nil => simp
  | cons b rest ih =>
    cases rest with
    | nil => simp
    | cons c rest =>
      have notOpen : ¬ (b = 13 ∧ c = 10) := by
        rintro ⟨rfl, rfl⟩
        simp [lineEnd?] at noEnd
      rw [lineEnd?_cons (by simpa using notOpen), Option.map_eq_none_iff] at noEnd
      rw [List.cons_append, lineEnd?_cons (by simpa using notOpen)] at found
      obtain ⟨⟨line', after'⟩, found', same⟩ := Option.map_eq_some_iff.mp found
      cases same
      have shorter := ih noEnd found'
      simp only [List.length_cons] at shorter ⊢
      omega

section Pieces

variable {maxLine : Int}

/-- Octets after a line end change only what follows the line. -/
theorem lineOf_append_of_some {stream line after : List UInt8} (more : List UInt8)
    (found : lineEnd? stream = some (line, after)) :
    lineOf maxLine (stream ++ more) = (lineOf maxLine stream).map fun found => (found.1, found.2 ++ more) := by
  simp only [lineOf, found, lineEnd?_append_of_some more found]
  split <;> rfl

/-- A stream whose first `read.length` octets hold no line end and are over the limit is refused
as too long, unless its line is exactly at the limit and a read ends between its CR and LF. -/
theorem lineOf_of_long {read : List UInt8} {pieces : List (List UInt8)} (noEnd : lineEnd? read = none)
    (long : (read.length : Int) > maxLine) (notSplit : ¬ SplitsLimitLine read pieces maxLine) :
    lineOf maxLine (read ++ pieces.flatten) = .error (lineTooLong maxLine) := by
  unfold lineOf
  cases found : lineEnd? (read ++ pieces.flatten) with
  | none =>
    have longer : read.length ≤ (read ++ pieces.flatten).length := by
      rw [List.length_append]
      omega
    rw [if_pos (by omega)]
  | some found' =>
    obtain ⟨line, after⟩ := found'
    have shortLine := length_le_of_lineEnd?_none noEnd found
    -- a line exactly at the limit would end right after `read`, where a read ends
    have overLimit : (line.length : Int) > maxLine := by
      by_contra atMost
      have cut : line.length + 1 = read.length := by omega
      refine notSplit ⟨(line, after), found, by dsimp only; omega, ?_⟩
      dsimp only
      rw [cut]
      exact start_mem_readEnds _ pieces
    simp only [if_pos overLimit]

/-- Once a line end is in hand, no read can end between the CR and LF of the first line. -/
theorem not_splitsLimitLine_of_lineEnd? {read line after : List UInt8} (pieces : List (List UInt8))
    (found : lineEnd? read = some (line, after)) : ¬ SplitsLimitLine read pieces maxLine := by
  rintro ⟨found', mem, -, cut⟩
  rw [Option.mem_def, lineEnd?_append_of_some _ found, Option.some_inj] at mem
  subst mem
  have late := le_of_mem_readEnds cut
  have whole := congrArg List.length (eq_of_lineEnd? found)
  simp only [List.length_append, List.length_cons] at whole late
  omega

/-- Reading one more piece does not change where the stream is cut, as long as what is in hand is
within the limit (so the first cut, right after it, is not inside a line at the limit). -/
theorem splitsLimitLine_cons_iff {read piece : List UInt8} {rest : List (List UInt8)}
    (within : (read.length : Int) ≤ maxLine) :
    SplitsLimitLine read (piece :: rest) maxLine ↔ SplitsLimitLine (read ++ piece) rest maxLine := by
  unfold SplitsLimitLine
  rw [List.flatten_cons, ← List.append_assoc, readEnds_cons, List.length_append]
  constructor
  · rintro ⟨found, mem, atLimit, cut⟩
    refine ⟨found, mem, atLimit, ?_⟩
    rcases List.mem_cons.mp cut with atStart | later
    · omega
    · exact later
  · rintro ⟨found, mem, atLimit, cut⟩
    exact ⟨found, mem, atLimit, List.mem_cons_of_mem _ cut⟩

/-- When the buffer already holds a line end, or is over the limit, reading stops and answers as the
buffer decides. -/
theorem readLine_of_stops {σ : Type} (sock : Socket σ) {fuel : Nat} {s : σ} {buffer : List UInt8}
    (stops : lineEnd? buffer ≠ none ∨ (buffer.length : Int) > maxLine) :
    readLine sock maxLine (fuel + 1) s buffer = (s, lineOf maxLine buffer) := by
  cases found : lineEnd? buffer with
  | some found' =>
    obtain ⟨line, after⟩ := found'
    simp only [readLine, lineOf, found]
    split <;> rfl
  | none =>
    have long : (buffer.length : Int) > maxLine := stops.resolve_left (by simp [found])
    simp only [readLine, lineOf, found, if_pos long]

/-- A buffer with no line end, within the limit, takes in the next piece. -/
theorem readLine_ofPieces_cons {fuel : Nat} {buffer piece : List UInt8} {rest : List (List UInt8)}
    (noEnd : lineEnd? buffer = none) (within : (buffer.length : Int) ≤ maxLine) (nonempty : piece ≠ []) :
    readLine Socket.ofPieces maxLine (fuel + 1) (piece :: rest) buffer =
      readLine Socket.ofPieces maxLine fuel rest (buffer ++ piece) := by
  obtain ⟨b, more, rfl⟩ := List.exists_cons_of_ne_nil nonempty
  simp only [readLine, noEnd, if_neg (not_lt.mpr within), Socket.ofPieces]

/-- A buffer with no line end, within the limit, and no piece left: the stream ended too early. -/
theorem readLine_ofPieces_nil {fuel : Nat} {buffer : List UInt8} (noEnd : lineEnd? buffer = none)
    (within : (buffer.length : Int) ≤ maxLine) :
    readLine Socket.ofPieces maxLine (fuel + 1) [] buffer = ([], .error closedEarly) := by
  simp only [readLine, noEnd, if_neg (not_lt.mpr within), Socket.ofPieces]

/-- A buffer that decides answers as the whole stream does, but for a line at the limit cut
between its CR and its LF. -/
theorem withUnread_of_stops {buffer : List UInt8} (pieces : List (List UInt8))
    (stops : lineEnd? buffer ≠ none ∨ (buffer.length : Int) > maxLine) :
    withUnread (pieces, lineOf maxLine buffer) =
      if SplitsLimitLine buffer pieces maxLine then .error (lineTooLong maxLine)
      else lineOf maxLine (buffer ++ pieces.flatten) := by
  cases found : lineEnd? buffer with
  | some found' =>
    obtain ⟨line, after⟩ := found'
    rw [if_neg (not_splitsLimitLine_of_lineEnd? pieces found), lineOf_append_of_some _ found]
    rfl
  | none =>
    have long : (buffer.length : Int) > maxLine := stops.resolve_left (by simp [found])
    have refused : lineOf maxLine buffer = .error (lineTooLong maxLine) := by
      simp only [lineOf, found, if_pos long]
    rw [refused]
    split
    · rfl
    · rename_i notSplit
      exact (lineOf_of_long found long notSplit).symm

/-- Reading on from a buffer, with fuel for every octet up to the limit, answers as the whole
stream does, but for a line at the limit cut between its CR and its LF. The induction follows
`readLine` on its fuel: each read takes one unit of fuel and adds at least one octet, so the fuel
outlasts the octets the limit lets in. -/
theorem withUnread_readLine_from {fuel : Nat} {pieces : List (List UInt8)} {buffer : List UInt8}
    (nonempty : ∀ p ∈ pieces, p ≠ []) (started : 0 < fuel) (enough : maxLine.toNat + 1 < fuel + buffer.length) :
    withUnread (readLine Socket.ofPieces maxLine fuel pieces buffer) =
      if SplitsLimitLine buffer pieces maxLine then .error (lineTooLong maxLine)
      else lineOf maxLine (buffer ++ pieces.flatten) := by
  induction fuel generalizing pieces buffer with
  | zero => omega
  | succ f ih =>
    by_cases stops : lineEnd? buffer ≠ none ∨ (buffer.length : Int) > maxLine
    · rw [readLine_of_stops _ stops]
      exact withUnread_of_stops _ stops
    rw [not_or, not_not, not_lt] at stops
    obtain ⟨noEnd, within⟩ := stops
    cases pieces with
    | nil =>
      have notSplit : ¬ SplitsLimitLine buffer [] maxLine := by
        rintro ⟨found, mem, -⟩
        simp [noEnd] at mem
      rw [readLine_ofPieces_nil noEnd within, if_neg notSplit]
      simp only [withUnread, lineOf, List.flatten_nil, List.append_nil, noEnd, if_neg (not_lt.mpr within)]
      rfl
    | cons piece rest =>
      have longer : 0 < piece.length := List.length_pos_of_ne_nil (nonempty piece (by simp))
      rw [readLine_ofPieces_cons noEnd within (nonempty piece (by simp)), List.flatten_cons, ← List.append_assoc]
      simp only [splitsLimitLine_cons_iff within]
      exact ih (fun p mem => nonempty p (by simp [mem])) (by omega) (by simp only [List.length_append]; omega)

/-- Reading the answer line in pieces, with the octets read past it followed by those still
unread, answers as the limit decides the whole stream: the first line and what follows it when
the line is within the limit, too long when it is longer, or when there is no line end and the
stream is over the limit, and ended too early otherwise. The one exception is a first line of
exactly `maxLine` octets whose CR and LF come in different reads: it is refused as too long,
although the same line read whole is taken. -/
theorem readLine_ofPieces (maxLine : Int) (pieces : List (List UInt8)) (nonempty : ∀ p ∈ pieces, p ≠ []) :
    withUnread (readLine Socket.ofPieces maxLine (maxLine.toNat + 2) pieces []) =
      if SplitsLimitLine [] pieces maxLine then .error (lineTooLong maxLine) else lineOf maxLine pieces.flatten :=
  withUnread_readLine_from nonempty (by omega) (by simp)

/-- A line of four octets at a limit of four, its CR and LF read apart, is refused, while read
whole it is taken. -/
theorem readLine_refuses_split_limit_line :
    withUnread (readLine Socket.ofPieces 4 6 [[79, 75, 32, 97, 13], [10]] []) = .error (lineTooLong 4) ∧
      withUnread (readLine Socket.ofPieces 4 6 [[79, 75, 32, 97, 13, 10]] []) = .ok ([79, 75, 32, 97], []) := by
  constructor
  · exact (readLine_ofPieces 4 [[79, 75, 32, 97, 13], [10]] (by decide)).trans (if_pos (by decide))
  · exact (readLine_ofPieces 4 [[79, 75, 32, 97, 13, 10]] (by decide)).trans ((if_neg (by decide)).trans rfl)

/-- Sending `BEGIN` reads nothing: the octets after the answer line are followed by those unread. -/
theorem withUnread_begin (unread : List (List UInt8)) (guid : Text) (after : List UInt8) :
    withUnread (exchange.begin Socket.ofPieces unread guid after) = .ok (guid, after ++ unread.flatten) := rfl

/-- The handshake answers as its line read does: reads that come to the same line, with the same
octets after it, give the same guid or the same failure. -/
theorem withUnread_exchange_congr {expected : Option Text} {uid : Value} {settings : Settings}
    {pieces pieces' : List (List UInt8)}
    (same : withUnread (readLine Socket.ofPieces settings.maxLine (settings.maxLine.toNat + 2) pieces []) =
      withUnread (readLine Socket.ofPieces settings.maxLine (settings.maxLine.toNat + 2) pieces' [])) :
    withUnread (exchange Socket.ofPieces pieces expected uid settings) =
      withUnread (exchange Socket.ofPieces pieces' expected uid settings) := by
  unfold exchange
  cases externalIdentity uid with
  | error why => rfl
  | ok identity =>
    have sent : ∀ s request, Socket.ofPieces.send s request = (s, none) := fun _ _ => rfl
    simp only [sent]
    generalize readLine Socket.ofPieces settings.maxLine (settings.maxLine.toNat + 2) pieces [] = read at same ⊢
    generalize readLine Socket.ofPieces settings.maxLine (settings.maxLine.toNat + 2) pieces' [] = read' at same ⊢
    obtain ⟨unread, outcome⟩ := read
    obtain ⟨unread', outcome'⟩ := read'
    cases outcome with
    | error e =>
      cases outcome' with
      | error e' =>
        simp only [withUnread, Except.map, Except.error.injEq] at same
        subst same
        rfl
      | ok found' => simp [withUnread, Except.map] at same
    | ok found =>
      cases outcome' with
      | error e' => simp [withUnread, Except.map] at same
      | ok found' =>
        obtain ⟨line, after⟩ := found
        obtain ⟨line', after'⟩ := found'
        simp only [withUnread, Except.map, Except.ok.injEq, Prod.mk.injEq] at same
        obtain ⟨rfl, rest⟩ := same
        dsimp only
        cases okGuid? line with
        | none => rfl
        | some guid =>
          cases expected with
          | none => rw [withUnread_begin, withUnread_begin, rest]
          | some e =>
            dsimp only
            split
            · rfl
            · rw [withUnread_begin, withUnread_begin, rest]

/-- Over a socket of pieces the handshake's outcome is its exchange's: restoring the time-out
reads nothing. -/
theorem withUnread_authenticate (pieces : List (List UInt8)) (expected : Option Text) (uid : Value)
    (settings : Settings) :
    withUnread (authenticate Socket.ofPieces pieces expected uid settings) =
      withUnread (exchange Socket.ofPieces pieces expected uid settings) := rfl

/-- Two ways of reading the same stream in pieces, neither cutting a line at the limit between
its CR and its LF, give the same handshake: the same guid, with the same octets after the answer
line once those still unread are put back, or the same failure. -/
theorem authenticate_ofPieces_congr {expected : Option Text} {uid : Value} {settings : Settings}
    {pieces pieces' : List (List UInt8)} (nonempty : ∀ p ∈ pieces, p ≠ []) (nonempty' : ∀ p ∈ pieces', p ≠ [])
    (same : pieces.flatten = pieces'.flatten) (whole : ¬ SplitsLimitLine [] pieces settings.maxLine)
    (whole' : ¬ SplitsLimitLine [] pieces' settings.maxLine) :
    withUnread (authenticate Socket.ofPieces pieces expected uid settings) =
      withUnread (authenticate Socket.ofPieces pieces' expected uid settings) := by
  rw [withUnread_authenticate, withUnread_authenticate]
  apply withUnread_exchange_congr
  rw [withUnread_readLine_from nonempty (by omega) (by simp), withUnread_readLine_from nonempty' (by omega) (by simp),
    if_neg whole, if_neg whole', same]

end Pieces

end Auth

end MessageBus
