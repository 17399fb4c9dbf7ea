import MessageBus.Bus.Error
import MessageBus.Config.Settings
import MessageBus.Text.Utf8

namespace MessageBus

/-- What a read from a socket gives: octets (none when the far end has closed), a time-out, or
a failure described by the system. -/
inductive Received where
  | data (bytes : List UInt8)
  | timedOut
  | failed (message : String)

/-- A connected stream socket, as operations on its state `σ`. -/
structure Socket (σ : Type) where
  /-- Write all the octets, or fail with the system's description. -/
  send : σ → List UInt8 → σ × Option String
  /-- Read at most the given number of octets. -/
  recv : σ → Nat → σ × Received
  /-- The current time-out for reads, in seconds; `none` blocks. -/
  timeout : σ → Option Binary64
  /-- Set the time-out for reads. -/
  setTimeout : σ → Option Binary64 → σ

namespace Auth

/-- How many octets one read of the handshake asks for. -/
def chunk : Nat := 256

/-- The ASCII octets of text, or the position of the first run of code points outside ASCII. -/
def ascii (t : Text) : Except String (List UInt8) :=
  let rec go (pos : Nat) : List Nat → Except String (List UInt8)
    | [] => .ok []
    | c :: rest =>
      if c < 128 then (go (pos + 1) rest).map (c.toUInt8 :: ·)
      else
        let run := 1 + (rest.takeWhile (· ≥ 128)).length
        if run = 1 then
          .error s!"'ascii' codec can't encode character '{Utf8.escapeCode c}' in position {pos}: ordinal not in range(128)"
        else
          .error s!"'ascii' codec can't encode characters in position {pos}-{pos + run - 1}: ordinal not in range(128)"
  go 0 t.codes

/-- The identity the EXTERNAL mechanism sends for a user id: the hexadecimal form of the id's
ASCII text. -/
def externalIdentity (uid : Value) : Except String Text :=
  (ascii (Text.ofString uid.plain)).map fun bytes =>
    Text.ofString (String.join (bytes.map (fun b => Digits.hex 2 b.toNat)))

/-- The first line of octets ended by CR LF, and the octets after it. -/
def lineEnd? : List UInt8 → Option (List UInt8 × List UInt8)
  | 13 :: 10 :: rest => some ([], rest)
  | b :: rest => (lineEnd? rest).map (fun (line, after) => (b :: line, after))
  | [] => none

/-- The failure of an answer line longer than the limit. -/
def lineTooLong (maxLine : Int) : BusError :=
  .auth s!"authentication response longer than {Digits.int maxLine} bytes"

/-- The failure of a stream that ends before its answer line does. -/
def closedEarly : BusError := .auth "connection closed during authentication"

/-- Read one answer line, with the octets read past it. Reads go on while no line end is
buffered and the buffer holds at most `maxLine` octets; each read adds at least one octet, so
`maxLine + 2` reads are never used up. -/
def readLine {σ : Type} (sock : Socket σ) (maxLine : Int) :
    Nat → σ → List UInt8 → σ × Except BusError (List UInt8 × List UInt8)
  | 0, s, _ => (s, .error (lineTooLong maxLine))
  | fuel + 1, s, buffer =>
    match lineEnd? buffer with
    | some (line, after) =>
      if (line.length : Int) > maxLine then (s, .error (lineTooLong maxLine)) else (s, .ok (line, after))
    | none =>
      if (buffer.length : Int) > maxLine then (s, .error (lineTooLong maxLine))
      else
        match sock.recv s chunk with
        | (s, .timedOut) =>
          (s, .error (.auth "timed out waiting for the authentication response"))
        | (s, .failed why) => (s, .error (.auth ("authentication failed, socket error: " ++ why)))
        | (s, .data []) => (s, .error closedEarly)
        | (s, .data bytes) => readLine sock maxLine fuel s (buffer ++ bytes)

/-- A hexadecimal digit, as an octet. -/
def isHexOctet (b : UInt8) : Bool :=
  (48 ≤ b && b ≤ 57) || (65 ≤ b && b ≤ 70) || (97 ≤ b && b ≤ 102)

/-- The guid of an `OK` answer: the line is `OK `, one or more hexadecimal digits, and at most
one line feed. -/
def okGuid? (line : List UInt8) : Option Text :=
  match line with
  | 79 :: 75 :: 32 :: rest =>
    let digits := match rest.getLast? with
      | some 10 => rest.dropLast
      | _ => rest
    if !digits.isEmpty && digits.all isHexOctet then some (Text.ofOctets digits) else none
  | _ => none

/-- An answer line as text, each octet outside ASCII replaced by U+FFFD. -/
def lineText (line : List UInt8) : Text :=
  ⟨line.map (fun b => if b.toNat < 128 then b.toNat else 0xFFFD), by
    intro c member
    obtain ⟨b, -, rfl⟩ := List.mem_map.mp member
    have := b.toNat_lt
    split <;> omega⟩

/-- ASCII letters in lower case. -/
def lower (t : Text) : Text :=
  ⟨t.codes.map (fun c => if 65 ≤ c && c ≤ 90 then c + 32 else c), by
    intro c member
    obtain ⟨x, inside, rfl⟩ := List.mem_map.mp member
    have := t.bounded x inside
    split
    · rename_i upper
      simp only [Bool.and_eq_true, decide_eq_true_eq] at upper
      omega
    · exact this⟩

/-- The handshake proper, with the time-out already set: the guid and the octets after the `OK`
line. -/
def exchange {σ : Type} (sock : Socket σ) (s : σ) (expected : Option Text) (uid : Value)
    (settings : Settings) : σ × Except BusError (Text × List UInt8) :=
  match externalIdentity uid with
  | .error why => (s, .error (.foreign "UnicodeEncodeError" why))
  | .ok identity =>
    let request := Utf8.ofString ("AUTH EXTERNAL " ++ identity.toString ++ "\r\n")
    let sent : σ × Option String := match sock.send s [0] with
      | (s, none) => sock.send s request
      | failed => failed
    match sent with
    | (s, some why) => (s, .error (.auth ("cannot send authentication request: " ++ why)))
    | (s, none) =>
      match readLine sock settings.maxLine (settings.maxLine.toNat + 2) s [] with
      | (s, .error e) => (s, .error e)
      | (s, .ok (line, after)) =>
        match okGuid? line with
        | none => (s, .error (.auth ("authentication rejected: " ++ (lineText line).quoted)))
        | some guid =>
          match expected with
          | some e =>
            if lower guid != lower e then
              (s, .error (.auth ("bus guid " ++ guid.toString ++
                " does not match the address guid " ++ e.toString)))
            else begin s guid after
          | none => begin s guid after
where
  /-- Send `BEGIN` and finish. -/
  begin (s : σ) (guid : Text) (after : List UInt8) : σ × Except BusError (Text × List UInt8) :=
    match sock.send s (Utf8.ofString "BEGIN\r\n") with
    | (s, some why) => (s, .error (.auth ("cannot send BEGIN: " ++ why)))
    | (s, none) => (s, .ok (guid, after))

end Auth

/-- Run the handshake on a socket: the bus's guid, which must match `expected` when given (in
any case of letters), and the octets the bus sent after its answer line. The socket's time-out
is the handshake time-out while it runs, and is restored after. -/
def authenticate {σ : Type} (sock : Socket σ) (s : σ) (expected : Option Text) (uid : Value)
    (settings : Settings) : σ × Except BusError (Text × List UInt8) :=
  let previous := sock.timeout s
  let s := sock.setTimeout s (some settings.authTimeout)
  let (s, result) := Auth.exchange sock s expected uid settings
  (sock.setTimeout s previous, result)

end MessageBus
