import MessageBus.Wire.Reader

namespace MessageBus

/-- The longest frame. -/
def maxMessage : Nat := 134217728

/-- The protocol version written in every frame. -/
def protocolVersion : Nat := 1

/-- Why a message cannot be put on the wire. -/
inductive MarshalError where
  | noSerial
  | arguments (e : ArgumentError)
  | encode (e : EncodeError)
  | headerField (e : CheckError)
  /-- The byte-order marker is not one character; its length is given. -/
  | badMarker (length : Nat)
  | tooLong (size : Nat)

/-- The kind of a marshalling failure, as the caller's language classes it. -/
def MarshalError.kind : MarshalError → String
  | .noSerial => "ValueError"
  | .encode e => e.kind
  | .badMarker _ => "TypeError"
  | _ => "InvalidArguments"

/-- The message of a marshalling failure. -/
def MarshalError.message : MarshalError → String
  | .noSerial => "messages must have a serial to be put on the wire"
  | .arguments e => e.message
  | .encode e => e.message
  | .headerField e => e.message
  | .badMarker n => s!"ord() expected a character, but string of length {n} found"
  | .tooLong n => s!"message of {n} bytes exceeds the {maxMessage} byte limit"

/-- Why octets do not give a message. -/
inductive FrameError where
  /-- More octets are needed. -/
  | incomplete
  | oversized (total : Nat) (limit : Int)
  /-- Buffering more octets would pass the buffer's capacity. -/
  | overfull (size : Nat) (capacity : Int)
  | protocol (fault : ProtocolFault)

/-- The kind of a framing failure, as the caller's language classes it. -/
def FrameError.kind : FrameError → String
  | .incomplete => "Incomplete"
  | .oversized _ _ => "OversizedFrame"
  | .overfull _ _ => "OversizedFrame"
  | .protocol _ => "ProtocolError"

/-- The message of a framing failure. -/
def FrameError.message : FrameError → String
  | .incomplete => ""
  | .oversized total limit => s!"frame of {total} bytes exceeds the {Digits.int limit} byte limit"
  | .overfull size capacity =>
    s!"receive buffer would hold {size} bytes, limit is {Digits.int capacity}"
  | .protocol fault => fault.message

/-- The type of the header field array: structs of a code octet and a variant. -/
def headerFieldsSig : Sig := .array (.struct [.basic .byte, .variant])

/-- The header fields of a message as written: the set ones, in code order, each checked against
its type and tagged with its signature. Text fields set to empty text are left out. -/
def Message.headerFields (m : Message) : Except CheckError (List Value) :=
  HeaderField.all.foldr (fun f rest =>
    match HeaderField.get m f with
    | none => rest
    | some (.text t) =>
      if t.isEmpty then rest else entry f (.str t) rest
    | some (.number n) => entry f (.int n) rest) (.ok [])
where
  /-- One checked field before the fields after it. -/
  entry (f : HeaderField) (v : Value) (rest : Except CheckError (List Value)) :
      Except CheckError (List Value) :=
    match (Sig.basic f.basic).check v with
    | .error e => .error e
    | .ok () =>
      match rest with
      | .error e => .error e
      | .ok vs => .ok (.tuple [.int f.code, .variant (.str (Sig.basic f.basic).code) v] :: vs)

/-- The byte order a marker selects: little-endian for `l`, big-endian for anything else. -/
def ByteOrder.ofMarker (endian : Text) : ByteOrder :=
  if endian == Text.ofString "l" then .little else .big

/-- Write the body values one after another, each as its complete type. -/
def Writer.writeBody (w : Writer) : List Sig → List Value → Except EncodeError Writer
  | t :: ts, v :: vs =>
    match w.write t v with
    | .error e => .error e
    | .ok w => w.writeBody ts vs
  | _, _ => .ok w

/-- Put a message on the wire with the byte-order marker `endian`. -/
def Message.marshal (m : Message) (endian : Text) : Except MarshalError ByteArray := do
  if m.serial == 0 then throw .noSerial
  let order := ByteOrder.ofMarker endian
  match Signature.validate (.str m.signature) m.body with
  | .error e => throw (.arguments e)
  | .ok () => pure ()
  let types := (Signature.parse m.signature).toOption.getD []
  let body ← (Writer.empty order).writeBody types m.body |>.mapError .encode
  let fields ← m.headerFields |>.mapError .headerField
  let marker ← match endian.codes with
    | [c] => pure (c : Int)
    | cs => throw (.badMarker cs.length)
  let header ← (do
    let w ← (Writer.empty order).byte marker
    let w ← w.byte m.kind.code
    let w ← w.byte m.flags
    let w ← w.byte protocolVersion
    let w ← w.word body.buf.size
    let w ← w.word m.serial
    let w ← w.write headerFieldsSig (.list fields)
    pure (w.align 8)) |>.mapError .encode
  let frame := header.buf ++ body.buf
  if frame.size > maxMessage then throw (.tooLong frame.size)
  pure frame

/-- The byte order a frame's first octet names. -/
def ByteOrder.ofOctet? : Nat → Option ByteOrder
  | 108 => some .little
  | 66 => some .big
  | _ => none

/-- The total length of the frame at the front of some octets, from its first sixteen. -/
def frameLength (data : ByteArray) : Except FrameError Nat := do
  if data.size < 16 then throw .incomplete
  let f : Frame := ⟨data, .little⟩
  let order ← match ByteOrder.ofOctet? (f.octet 0) with
    | some order => pure order
    | none => throw (.protocol (.badEndianness (data.get! 0)))
  if f.octet 3 != protocolVersion then throw (.protocol (.badVersion (f.octet 3)))
  let bodyLength := Word.value order (f.octets 4 4)
  let fieldsLength := Word.value order (f.octets 12 4)
  let headerEnd := 16 + fieldsLength
  pure (headerEnd + padding headerEnd 8 + bodyLength)

/-- A message with the header fields read from a frame: each known code whose variant carries
the field's signature sets the field, a later one replacing an earlier; unknown codes are
skipped. -/
def Message.withFields (m : Message) : List Value → Except ProtocolFault Message
  | [] => .ok m
  | entry :: rest =>
    match entry with
    | .tuple [.int code, .variant (.str sig) v] =>
      match HeaderField.ofCode? code.toNat with
      | none => m.withFields rest
      | some f =>
        let expected := (Sig.basic f.basic).code
        if sig != expected then .error (.headerSignature code.toNat sig expected)
        else
          match v with
          | .str t => (HeaderField.set m f (.text t)).withFields rest
          | .int n => (HeaderField.set m f (.number n)).withFields rest
          | _ => m.withFields rest
    | _ => m.withFields rest

/-- Read the body values, one per complete type. -/
def Frame.readBody (f : Frame) (at_ : Nat) : List Sig → Except ProtocolFault (List Value × Nat)
  | [] => .ok ([], at_)
  | t :: ts => do
    let (v, at_) ← f.read 0 t at_
    let (vs, at_) ← f.readBody at_ ts
    pure (v :: vs, at_)

/-- Whether a message carries a header field. -/
def Message.has (m : Message) (f : HeaderField) : Bool := (HeaderField.get m f).isSome

/-- The message in a whole frame of `total` octets whose fixed part has been checked. -/
def Frame.message (f : Frame) (total : Nat) : Except ProtocolFault Message := do
  let kind ← match MessageKind.ofCode? (f.octet 1) with
    | some kind => pure kind
    | none => throw (.unknownType (f.octet 1))
  let bodyLength := Word.value f.order (f.octets 4 4)
  let serial := Word.value f.order (f.octets 8 4)
  if serial == 0 then throw .zeroSerial
  let (entries, at_) ← f.read 0 headerFieldsSig 12
  let entries := match entries with
    | .list xs => xs
    | _ => []
  let m ← Message.withFields { kind, serial, flags := f.octet 2 } entries
  let at_ ← f.align at_ 8
  let types ← (Signature.parse m.signature).mapError .badSignature
  let (body, at_) ← f.readBody at_ types
  if at_ != total then
    throw (.bodyLength ((at_ : Int) - ((total : Int) - bodyLength)) bodyLength)
  match kind.required.find? (fun field => !m.has field) with
  | some field => throw (.missingField kind field)
  | none => pure { m with body }

/-- Read one message from the front of some octets, with the octets it took. -/
def Message.unmarshal (data : ByteArray) (maxSize : Int := maxMessage) :
    Except FrameError (Message × Nat) := do
  let total ← frameLength data
  if (total : Int) > maxSize then throw (.oversized total maxSize)
  if data.size < total then throw .incomplete
  let order := if data.get! 0 == 108 then ByteOrder.little else .big
  let m ← (Frame.message ⟨data.extract 0 total, order⟩ total).mapError .protocol
  pure (m, total)

end MessageBus
