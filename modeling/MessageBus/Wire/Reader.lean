import MessageBus.Wire.Writer
import MessageBus.Value.Equality
import MessageBus.Message.Basic

namespace MessageBus

/-- How deep containers and variants together may nest in a frame. -/
def maxNesting : Nat := 2 * Sig.maxDepth

/-- What makes octets something other than a frame. -/
inductive ProtocolFault where
  | badEndianness (marker : UInt8)
  | badVersion (version : Nat)
  | unknownType (code : Nat)
  | zeroSerial
  | runsPastEnd
  | tooDeep
  | badBoolean (n : Nat)
  | notNulTerminated
  | badText (e : Utf8.DecodeError)
  /-- A signature read from the frame that does not parse. -/
  | badSignature (e : SignatureError)
  | variantNotSingle (sig : Text)
  | arrayTooLong (n : Nat)
  | arrayLengthMismatch
  | headerSignature (code : Nat) (sig expected : Text)
  | bodyLength (occupied : Int) (declared : Nat)
  | missingField (kind : MessageKind) (field : HeaderField)

/-- The message of a protocol fault. -/
def ProtocolFault.message : ProtocolFault → String
  | .badEndianness m => "invalid endianness marker " ++ Octets.quoted [m]
  | .badVersion v => s!"unsupported protocol version {v}"
  | .unknownType c => s!"unknown message type {c}"
  | .zeroSerial => "message serial must not be zero"
  | .runsPastEnd => "value runs past the end of the frame"
  | .tooDeep => s!"values nested more than {maxNesting} levels deep"
  | .badBoolean n => s!"invalid boolean value {n}"
  | .notNulTerminated => "string is not NUL terminated"
  | .badText e => "string is not valid UTF-8: " ++ e.message
  | .badSignature e => e.message
  | .variantNotSingle sig =>
    "variant signature " ++ sig.quoted ++ " is not a single complete type"
  | .arrayTooLong n => s!"array length {n} exceeds the {maxArray} byte limit"
  | .arrayLengthMismatch => "array contents do not match the declared length"
  | .headerSignature code sig expected =>
    s!"header field {code} has signature " ++ sig.quoted ++ ", expected " ++ expected.quoted
  | .bodyLength occupied declared =>
    s!"body occupies {Digits.int occupied} bytes, header declares {declared}"
  | .missingField kind field =>
    kind.name ++ " message is missing its " ++ field.name ++ " header field"

/-- A frame being read: its octets and byte order. -/
structure Frame where
  data : ByteArray
  order : ByteOrder

namespace Frame

/-- Fail unless `size` octets stand at `at_`. -/
def need (f : Frame) (at_ size : Nat) : Except ProtocolFault Unit :=
  if at_ + size > f.data.size then .error .runsPastEnd else .ok ()

/-- Skip the padding before a value of alignment `a`. -/
def align (f : Frame) (at_ a : Nat) : Except ProtocolFault Nat := do
  let p := padding at_ a
  f.need at_ p
  pure (at_ + p)

/-- The octets at an offset. -/
def octets (f : Frame) (at_ count : Nat) : List UInt8 := ByteArray.slice f.data at_ count

/-- The octet at an offset. -/
def octet (f : Frame) (at_ : Nat) : Nat := (f.data.get! at_).toNat

/-- An unsigned number of `width` octets, after alignment. -/
def unsigned (f : Frame) (width at_ : Nat) : Except ProtocolFault (Nat × Nat) := do
  let at_ ← f.align at_ width
  f.need at_ width
  pure (Word.value f.order (f.octets at_ width), at_ + width)

/-- A 32-bit unsigned word. -/
def word (f : Frame) (at_ : Nat) : Except ProtocolFault (Nat × Nat) := f.unsigned 4 at_

/-- Text of `length` octets at an offset, followed by a NUL. -/
def textBody (f : Frame) (length at_ : Nat) : Except ProtocolFault (Text × Nat) := do
  f.need at_ (length + 1)
  if f.octet (at_ + length) != 0 then .error .notNulTerminated
  match Utf8.decode (f.octets at_ length) with
  | .error e => .error (.badText e)
  | .ok t => pure (t, at_ + length + 1)

/-- A signature: a one-octet length, its codes and a NUL. -/
def signatureText (f : Frame) (at_ : Nat) : Except ProtocolFault (Text × Nat) := do
  f.need at_ 1
  f.textBody (f.octet at_) (at_ + 1)

/-- A value of a basic type. -/
def basic (f : Frame) (b : Basic) (at_ : Nat) : Except ProtocolFault (Value × Nat) :=
  match b with
  | .string | .objectPath => do
    let (length, at_) ← f.word at_
    let (t, at_) ← f.textBody length at_
    pure (.str t, at_)
  | .signature => do
    let (t, at_) ← f.signatureText at_
    pure (.str t, at_)
  | .boolean => do
    let (n, at_) ← f.word at_
    if n = 0 then pure (.bool false, at_)
    else if n = 1 then pure (.bool true, at_)
    else .error (.badBoolean n)
  | .double => do
    let (n, at_) ← f.unsigned 8 at_
    pure (.float ⟨n.toUInt64⟩, at_)
  | .int16 | .int32 | .int64 => do
    let width := b.width?.getD 1
    let (n, at_) ← f.unsigned width at_
    pure (.int (Word.signedValue f.order (Word.octets f.order width n)), at_)
  | b => do
    let (n, at_) ← f.unsigned (b.width?.getD 1) at_
    pure (.int n, at_)

mutual

/-- Read one value of a complete type at a nesting depth. -/
def read (f : Frame) (depth : Nat) (s : Sig) (at_ : Nat) : Except ProtocolFault (Value × Nat) :=
  if _h : maxNesting < depth then .error .tooDeep
  else
    match s with
    | .basic b => f.basic b at_
    | .variant => do
      let (sig, at_) ← f.signatureText at_
      match Signature.parse sig with
      | .error e => .error (.badSignature e)
      | .ok [t] => do
        let (v, at_) ← f.read (depth + 1) t at_
        pure (.variant (.str sig) v, at_)
      | .ok _ => .error (.variantNotSingle sig)
    | .array element => do
      let (length, at_) ← f.word at_
      if length > maxArray then .error (.arrayTooLong length)
      let at_ ← f.align at_ element.alignment
      f.need at_ length
      let stop := at_ + length
      match element with
      | .basic .byte => pure (.bytes (f.data.extract at_ stop), stop)
      | _ => do
        let (xs, at_) ← f.readItems (depth + 1) element stop (length + 1) at_
        if at_ != stop then .error .arrayLengthMismatch
        pure (.list xs, at_)
    | .dict key value => do
      let (length, at_) ← f.word at_
      if length > maxArray then .error (.arrayTooLong length)
      let at_ ← f.align at_ 8
      f.need at_ length
      let stop := at_ + length
      let (entries, at_) ← f.readEntries (depth + 1) key value stop (length + 1) [] at_
      if at_ != stop then .error .arrayLengthMismatch
      pure (.dict entries, at_)
    | .struct fields => do
      let at_ ← f.align at_ 8
      let (xs, at_) ← f.readFields (depth + 1) fields at_
      pure (.tuple xs, at_)
termination_by (maxNesting + 1 - depth, 0)
decreasing_by all_goals (apply Prod.Lex.left; omega)

/-- Read array elements while the offset stands before `stop`. -/
def readItems (f : Frame) (depth : Nat) (s : Sig) (stop fuel at_ : Nat) :
    Except ProtocolFault (List Value × Nat) :=
  match fuel with
  | 0 => pure ([], at_)
  | fuel + 1 =>
    if at_ < stop then do
      let (x, at_) ← f.read depth s at_
      let (xs, at_) ← f.readItems depth s stop fuel at_
      pure (x :: xs, at_)
    else pure ([], at_)
termination_by (maxNesting + 1 - depth, fuel + 1)
decreasing_by all_goals (apply Prod.Lex.right; omega)

/-- Read dictionary entries while the offset stands before `stop`, each at a multiple of
eight, into the entries read so far. -/
def readEntries (f : Frame) (depth : Nat) (key : Basic) (value : Sig) (stop fuel : Nat)
    (entries : List (Value × Value)) (at_ : Nat) :
    Except ProtocolFault (List (Value × Value) × Nat) :=
  match fuel with
  | 0 => pure (entries, at_)
  | fuel + 1 =>
    if at_ < stop then do
      let at_ ← f.align at_ 8
      let (k, at_) ← f.read depth (.basic key) at_
      let (v, at_) ← f.read depth value at_
      f.readEntries depth key value stop fuel (Value.insertEntry entries k v) at_
    else pure (entries, at_)
termination_by (maxNesting + 1 - depth, fuel + 1)
decreasing_by all_goals (apply Prod.Lex.right; omega)

/-- Read the fields of a struct, one after another. -/
def readFields (f : Frame) (depth : Nat) (fields : List Sig) (at_ : Nat) :
    Except ProtocolFault (List Value × Nat) :=
  match fields with
  | [] => pure ([], at_)
  | s :: rest => do
    let (x, at_) ← f.read depth s at_
    let (xs, at_) ← f.readFields depth rest at_
    pure (x :: xs, at_)
termination_by (maxNesting + 1 - depth, sizeOf fields + 1)
decreasing_by all_goals (apply Prod.Lex.right; simp only [List.cons.sizeOf_spec]; omega)

end

end Frame

end MessageBus
