import MessageBus.Wire.Codec

namespace MessageBus

/-- Octets received and not yet taken as frames. -/
structure FrameBuffer where
  /-- The longest frame accepted. -/
  maxSize : Int
  /-- The most octets the buffer holds. -/
  capacity : Int
  data : ByteArray := ByteArray.empty

namespace FrameBuffer

/-- An empty buffer for frames of at most `maxSize` octets, with room for `headroom` more. -/
def create (maxSize headroom : Int) : FrameBuffer :=
  { maxSize, capacity := maxSize + headroom }

/-- The number of buffered octets. -/
def size (b : FrameBuffer) : Nat := b.data.size

/-- Append received octets, unless the buffer would then pass its capacity. -/
def append (b : FrameBuffer) (bytes : ByteArray) : Except FrameError FrameBuffer :=
  let size := b.data.size + bytes.size
  if (size : Int) > b.capacity then .error (.overfull size b.capacity)
  else .ok { b with data := b.data ++ bytes }

/-- Take the message at the front, if its whole frame is buffered. -/
def pop (b : FrameBuffer) : Except FrameError (Option Message × FrameBuffer) :=
  match frameLength (b.data.extract 0 16) with
  | .error .incomplete => .ok (none, b)
  | .error e => .error e
  | .ok total =>
    if (total : Int) > b.maxSize then .error (.oversized total b.maxSize)
    else if b.data.size < total then .ok (none, b)
    else
      match Message.unmarshal (b.data.extract 0 total) b.maxSize with
      | .error e => .error e
      | .ok (m, used) => .ok (some m, { b with data := b.data.extract used b.data.size })

/-- Drop every buffered octet. -/
def clear (b : FrameBuffer) : FrameBuffer := { b with data := ByteArray.empty }

end FrameBuffer

end MessageBus
