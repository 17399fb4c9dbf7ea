import MessageBus.Wire.Bytes
import MessageBus.Signature.Check
import MessageBus.Text.Utf8

namespace MessageBus

/-- The most octets an array's elements may take. -/
def maxArray : Nat := 67108864

/-- Why a value cannot be written. -/
inductive EncodeError where
  | text (e : Utf8.EncodeError)
  /-- An integer does not fit the width of a basic type. -/
  | outOfRange (b : Basic)
  | notAFloat
  | arrayTooLong (n : Nat)

/-- The name of the kind of an encoding failure, as the caller's language classes it. -/
def EncodeError.kind : EncodeError → String
  | .text _ => "UnicodeEncodeError"
  | .arrayTooLong _ => "InvalidArguments"
  | _ => "struct.error"

/-- The message of an encoding failure. -/
def EncodeError.message : EncodeError → String
  | .text e => e.message
  | .outOfRange b =>
    match b with
    | .byte => "ubyte format requires 0 <= number <= 255"
    | .int16 => "'h' format requires -32768 <= number <= 32767"
    | .uint16 => "'H' format requires 0 <= number <= 65535"
    | .int32 => "'i' format requires -2147483648 <= number <= 2147483647"
    | .int64 => "'q' format requires -9223372036854775808 <= number <= 9223372036854775807"
    | .uint64 => "'Q' format requires 0 <= number <= 18446744073709551615"
    | _ => "'I' format requires 0 <= number <= 4294967295"
  | .notAFloat => "required argument is not a float"
  | .arrayTooLong n => s!"array of {n} bytes exceeds the {maxArray} byte limit"

/-- A frame being written: its byte order and the octets so far. -/
structure Writer where
  order : ByteOrder
  buf : ByteArray

namespace Writer

/-- An empty frame in a byte order. -/
def empty (order : ByteOrder) : Writer := ⟨order, ByteArray.empty⟩

/-- Append octets. -/
def put (w : Writer) (bs : List UInt8) : Writer := { w with buf := bs.foldl ByteArray.push w.buf }

/-- Pad with zeros to a multiple of `a`. -/
def align (w : Writer) (a : Nat) : Writer := w.put (List.replicate (padding w.buf.size a) 0)

/-- An integer in the width of a fixed-width integer type, after alignment. -/
def integer (w : Writer) (b : Basic) (n : Int) : Except EncodeError Writer :=
  match b.range?, b.width? with
  | some (low, high), some width =>
    if n < low || n > high then .error (.outOfRange b)
    else .ok ((w.align width).put (Word.signedOctets w.order width n))
  | _, _ => .error (.outOfRange b)

/-- A 32-bit unsigned word. -/
def word (w : Writer) (n : Int) : Except EncodeError Writer := w.integer .uint32 n

/-- One octet. -/
def byte (w : Writer) (n : Int) : Except EncodeError Writer := w.integer .byte n

/-- A value of a fixed-width type. -/
def fixed (w : Writer) (b : Basic) (v : Value) : Except EncodeError Writer :=
  match b, v with
  | .boolean, v =>
    .ok ((w.align 4).put (Word.octets w.order 4 (if v.truthy then 1 else 0)))
  | .double, .float x => .ok ((w.align 8).put (Word.octets w.order 8 x.bits.toNat))
  | .double, .int n =>
    match Binary64.ofInt? n with
    | some x => .ok ((w.align 8).put (Word.octets w.order 8 x.bits.toNat))
    | none => .error .notAFloat
  | .double, _ => .error .notAFloat
  | b, .int n => w.integer b n
  | b, .bool t => w.integer b (if t then 1 else 0)
  | b, _ => .error (.outOfRange b)

/-- Text or an object path: length, UTF-8 octets, NUL. -/
def text (w : Writer) (t : Text) : Except EncodeError Writer :=
  match Utf8.encode t with
  | .error e => .error (.text e)
  | .ok bytes =>
    match w.word bytes.length with
    | .error e => .error e
    | .ok w => .ok ((w.put bytes).put [0])

/-- A signature: one-octet length, codes, NUL. -/
def signature (w : Writer) (t : Text) : Writer :=
  (w.put ((t.length % 256).toUInt8 :: t.codes.map Nat.toUInt8)).put [0]

/-- Write the 32-bit length `n` at offset `at` of the frame. -/
def patch (w : Writer) (at_ : Nat) (n : Nat) : Writer :=
  let bytes := Word.octets w.order 4 n
  { w with buf := (bytes.zipIdx).foldl (fun b (o, i) => b.set! (at_ + i) o) w.buf }

mutual

/-- Write one value of a complete type. -/
def write (w : Writer) (s : Sig) (v : Value) : Except EncodeError Writer :=
  match s with
  | .basic b =>
    match b with
    | .string | .objectPath =>
      match v with
      | .str t => (w.align 4).text t
      | _ => .ok w
    | .signature =>
      match v with
      | .str t => .ok (w.signature t)
      | _ => .ok w
    | b => w.fixed b v
  | .variant =>
    match v with
    | .variant (.str sig) inner =>
      match Signature.parse sig with
      | .ok [t] => (w.signature sig).write t inner
      | _ => .ok w
    | _ => .ok w
  | .array element =>
    let w := w.align 4
    let lengthAt := w.buf.size
    let w := (w.put [0, 0, 0, 0]).align element.alignment
    let start := w.buf.size
    let body : Except EncodeError Writer :=
      match element, v with
      | .basic .byte, .bytes b => .ok { w with buf := w.buf ++ b }
      | _, .list xs => w.writeEach element xs
      | _, .tuple xs => w.writeEach element xs
      | _, _ => .ok w
    match body with
    | .error e => .error e
    | .ok w =>
      let length := w.buf.size - start
      if length > maxArray then .error (.arrayTooLong length)
      else .ok (w.patch lengthAt length)
  | .dict key value =>
    let w := w.align 4
    let lengthAt := w.buf.size
    let w := (w.put [0, 0, 0, 0]).align 8
    let start := w.buf.size
    let body : Except EncodeError Writer :=
      match v with
      | .dict entries => w.writeEntries key value entries
      | _ => .ok w
    match body with
    | .error e => .error e
    | .ok w =>
      let length := w.buf.size - start
      if length > maxArray then .error (.arrayTooLong length)
      else .ok (w.patch lengthAt length)
  | .struct fields =>
    match v with
    | .list xs | .tuple xs => (w.align 8).writeFields fields xs
    | _ => .ok (w.align 8)
termination_by sizeOf v

/-- Write the elements of an array. -/
def writeEach (w : Writer) (s : Sig) (xs : List Value) : Except EncodeError Writer :=
  match xs with
  | [] => .ok w
  | x :: rest =>
    match w.write s x with
    | .error e => .error e
    | .ok w => w.writeEach s rest
termination_by sizeOf xs

/-- Write dictionary entries, each at a multiple of eight. -/
def writeEntries (w : Writer) (key : Basic) (value : Sig) (entries : List (Value × Value)) :
    Except EncodeError Writer :=
  match entries with
  | [] => .ok w
  | (k, x) :: rest =>
    match (w.align 8).write (.basic key) k with
    | .error e => .error e
    | .ok w =>
      match w.write value x with
      | .error e => .error e
      | .ok w => w.writeEntries key value rest
termination_by sizeOf entries

/-- Write the fields of a struct, pairwise. -/
def writeFields (w : Writer) (fields : List Sig) (xs : List Value) : Except EncodeError Writer :=
  match fields, xs with
  | f :: fs, x :: rest =>
    match w.write f x with
    | .error e => .error e
    | .ok w => w.writeFields fs rest
  | _, _ => .ok w
termination_by sizeOf xs

end

end Writer

end MessageBus
