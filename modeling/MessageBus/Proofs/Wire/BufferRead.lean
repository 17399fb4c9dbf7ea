import Mathlib
import MessageBus.Proofs.Wire.Settle
import MessageBus.Proofs.Wire.Remarshal

namespace MessageBus

/-- The first octets of some data start it. -/
theorem ByteArray.front_extract (d : ByteArray) (n : Nat) : (d.extract 0 n).toList <+: d.toList := by
  simpa using List.take_prefix n d.toList

/-- A whole frame is decided: reading it asks for no more octets. -/
theorem Message.unmarshal_whole_ne_incomplete {d : ByteArray} {M : Int} {total : Nat}
    (read : frameLength d = .ok total) (whole : d.size = total) : Message.unmarshal d M ≠ .error .incomplete := by
  have long := (frameLength_ok read).1
  rw [Ne, Message.unmarshal_incomplete_iff]
  rintro (short | ⟨-, -, total', read', -, unfinished⟩)
  · omega
  · rw [read] at read'
    cases read'
    omega

/-- Reading a frame from a copy cut to the frame's length reads it from the whole data. -/
theorem Message.unmarshal_extract {d : ByteArray} {M : Int} {total : Nat} (read : frameLength d = .ok total)
    (within : total ≤ d.size) : Message.unmarshal (d.extract 0 total) M = Message.unmarshal d M := by
  have long : 16 ≤ total := frameLength_ge read
  have cut : (d.extract 0 total).size = total := by
    rw [ByteArray.size_extract]
    omega
  have readCut : frameLength (d.extract 0 total) = .ok total := by
    rw [← read]
    exact (frameLength_of_front (ByteArray.front_extract d total) (by omega)).symm
  have decided := Message.unmarshal_whole_ne_incomplete (M := M) readCut cut
  have rejoined : d.extract 0 total ++ d.extract total d.size = d := by
    rw [ByteArray.extract_append_extract]
    simp
  conv_rhs => rw [← rejoined]
  exact (Message.unmarshal_append _ decided).symm

namespace FrameBuffer

/-- A pop is reading one frame from the buffered octets: it gives nothing and keeps the buffer
when reading asks for more octets, gives the message and drops the octets of its frame when
reading gives one, and fails as reading fails otherwise. -/
theorem pop_eq_unmarshal (b : FrameBuffer) :
    b.pop = match Message.unmarshal b.data b.maxSize with
      | .error .incomplete => .ok (none, b)
      | .error e => .error e
      | .ok (m, used) => .ok (some m, { b with data := b.data.extract used b.data.size }) := by
  by_cases short : b.data.size < 16
  · rw [pop_short short, Message.unmarshal_of_error (frameLength_short short)]
  have prefixRead : frameLength (b.data.extract 0 16) = frameLength b.data :=
    (frameLength_of_front (ByteArray.front_extract b.data 16) (by rw [ByteArray.size_extract]; omega)).symm
  unfold pop
  rw [prefixRead]
  cases read : frameLength b.data with
  | error e =>
    -- only too few octets make the length unreadable as incomplete
    have notShort : e ≠ .incomplete := by
      rintro rfl
      exact short (frameLength_incomplete read)
    rw [Message.unmarshal_of_error read]
    cases e with
    | incomplete => exact absurd rfl notShort
    | _ => rfl
  | ok total =>
    rw [Message.unmarshal_eq read]
    by_cases oversized : (total : Int) > b.maxSize
    · simp only [if_pos oversized]
    simp only [if_neg oversized]
    by_cases unfinished : b.data.size < total
    · simp only [if_pos unfinished]
    simp only [if_neg unfinished]
    have within : total ≤ b.data.size := by omega
    have decided := Message.unmarshal_extract (M := b.maxSize) read within
    rw [decided, Message.unmarshal_eq read, if_neg oversized, if_neg unfinished]
    cases Frame.message ⟨b.data.extract 0 total, if b.data.get! 0 == 108 then .little else .big⟩ total <;> rfl

/-- A pop and reading one frame from the buffered octets agree on every outcome: a pop gives
nothing and keeps the buffer exactly when reading asks for more octets; it gives a message and
leaves the octets after the first `used` exactly when reading gives that message from `used`
octets; and it fails with any other failure, whose text is then the same, exactly when reading
does. -/
theorem pop_iff_unmarshal (b : FrameBuffer) :
    (b.pop = .ok (none, b) ↔ Message.unmarshal b.data b.maxSize = .error .incomplete) ∧
    (∀ m left, b.pop = .ok (some m, left) ↔
      ∃ used, Message.unmarshal b.data b.maxSize = .ok (m, used) ∧
        left = { b with data := b.data.extract used b.data.size }) ∧
    (∀ e, e ≠ .incomplete → (b.pop = .error e ↔ Message.unmarshal b.data b.maxSize = .error e)) := by
  rw [pop_eq_unmarshal]
  refine ⟨?none, fun m left => ?some, fun e notIncomplete => ?error⟩
  case none =>
    cases Message.unmarshal b.data b.maxSize with
    | error e => cases e <;> simp
    | ok r => simp
  case some =>
    cases Message.unmarshal b.data b.maxSize with
    | error e => cases e <;> simp
    | ok r =>
      obtain ⟨m', used⟩ := r
      constructor
      · intro popped
        cases popped
        exact ⟨used, rfl, rfl⟩
      · rintro ⟨used', read, rfl⟩
        cases read
        rfl
  case error =>
    cases Message.unmarshal b.data b.maxSize with
    | error e' =>
      cases e' with
      | incomplete => simpa using notIncomplete.symm
      | _ => simp
    | ok r => simp

/-- Two runs that feed the same stream in different chunks to a new buffer, neither passing its
capacity, pop the same messages and end alike, with the same failure or the same octets left; both
give what popping from the whole stream at once gives, and a run that ends without a failure keeps
the end of the stream, where no whole frame is left. -/
theorem feed_chunking {maxSize headroom : Int} {stream : ByteArray} {chunks chunks' : List ByteArray}
    {r r' : List Message × Except FrameError FrameBuffer}
    (split : chunks.flatMap ByteArray.toList = stream.toList)
    (split' : chunks'.flatMap ByteArray.toList = stream.toList)
    (fed : (create maxSize headroom).feed chunks = some r) (fed' : (create maxSize headroom).feed chunks' = some r') :
    r = r' ∧ r = ((create maxSize headroom).grow stream).popAll ∧
      ∀ left, r.2 = .ok left → left.pop = .ok (none, left) ∧ left.data.toList <:+ stream.toList := by
  have empty : (create maxSize headroom).pop = .ok (none, create maxSize headroom) := pop_short (by simp [create])
  have whole := feed_eq_popAll empty fed
  have whole' := feed_eq_popAll empty fed'
  rw [ByteArray.eq_of_toList ((toList_joined chunks).trans split)] at whole
  rw [ByteArray.eq_of_toList ((toList_joined chunks').trans split')] at whole'
  refine ⟨whole.trans whole'.symm, whole, fun left ended => ?_⟩
  have drained : ((create maxSize headroom).grow stream).popAll = (r.1, .ok left) := by
    rw [← whole, ← ended]
  obtain ⟨settled, suffix⟩ := popAll_ok drained
  exact ⟨settled, by simpa [create, grow] using suffix⟩

/-- The frame of a call to the member `M` of `/`, then the first seven octets of the next frame,
fed in two pieces that split the frame and all at once: both runs pop the call and keep the seven
octets. -/
theorem feed_chunking_pieces :
    ∃ r r', (create maxMessage 0).feed [⟨#[108, 1, 0, 1, 0, 0, 0, 0, 1, 0, 0, 0, 26, 0, 0, 0, 1, 1, 111, 0]⟩,
        ⟨#[1, 0, 0, 0, 47, 0, 0, 0, 0, 0, 0, 0, 3, 1, 115, 0, 1, 0, 0, 0, 77, 0, 0, 0, 0, 0, 0, 0,
          108, 1, 0, 1, 0, 0, 0]⟩] = some r ∧
      (create maxMessage 0).feed [⟨#[108, 1, 0, 1, 0, 0, 0, 0, 1, 0, 0, 0, 26, 0, 0, 0, 1, 1, 111, 0, 1, 0, 0, 0,
        47, 0, 0, 0, 0, 0, 0, 0, 3, 1, 115, 0, 1, 0, 0, 0, 77, 0, 0, 0, 0, 0, 0, 0, 108, 1, 0, 1, 0, 0, 0]⟩] =
        some r' ∧
      r.1 = [Message.callTo (Text.ofString "M")] ∧
      r = r' ∧
      r = ((create maxMessage 0).grow ⟨#[108, 1, 0, 1, 0, 0, 0, 0, 1, 0, 0, 0, 26, 0, 0, 0, 1, 1, 111, 0, 1, 0,
        0, 0, 47, 0, 0, 0, 0, 0, 0, 0, 3, 1, 115, 0, 1, 0, 0, 0, 77, 0, 0, 0, 0, 0, 0, 0, 108, 1, 0, 1, 0, 0,
        0]⟩).popAll ∧
      ∀ left, r.2 = .ok left → left.pop = .ok (none, left) ∧
        left.data.toList <:+ ByteArray.toList ⟨#[108, 1, 0, 1, 0, 0, 0, 0, 1, 0, 0, 0, 26, 0, 0, 0, 1, 1, 111,
          0, 1, 0, 0, 0, 47, 0, 0, 0, 0, 0, 0, 0, 3, 1, 115, 0, 1, 0, 0, 0, 77, 0, 0, 0, 0, 0, 0, 0, 108, 1, 0,
          1, 0, 0, 0]⟩ := by
  have empty : (create maxMessage 0).pop = .ok (none, create maxMessage 0) := pop_short (by simp [create])
  have fed := @feed_of_fits _ [⟨#[108, 1, 0, 1, 0, 0, 0, 0, 1, 0, 0, 0, 26, 0, 0, 0, 1, 1, 111, 0]⟩,
    ⟨#[1, 0, 0, 0, 47, 0, 0, 0, 0, 0, 0, 0, 3, 1, 115, 0, 1, 0, 0, 0, 77, 0, 0, 0, 0, 0, 0, 0,
      108, 1, 0, 1, 0, 0, 0]⟩] empty (by decide)
  have fed' := @feed_of_fits _ [⟨#[108, 1, 0, 1, 0, 0, 0, 0, 1, 0, 0, 0, 26, 0, 0, 0, 1, 1, 111, 0,
    1, 0, 0, 0, 47, 0, 0, 0, 0, 0, 0, 0, 3, 1, 115, 0, 1, 0, 0, 0, 77, 0, 0, 0, 0, 0, 0, 0, 108, 1, 0, 1, 0, 0,
    0]⟩] empty (by decide)
  obtain ⟨same, whole, ends⟩ := feed_chunking (by simp [ByteArray.toList_eq_data]) (List.flatMap_singleton _ _)
    fed fed'
  have stream : ((create maxMessage 0).grow ⟨#[108, 1, 0, 1, 0, 0, 0, 0, 1, 0, 0, 0, 26, 0, 0, 0, 1, 1, 111, 0,
      1, 0, 0, 0, 47, 0, 0, 0, 0, 0, 0, 0, 3, 1, 115, 0, 1, 0, 0, 0, 77, 0, 0, 0, 0, 0, 0, 0, 108, 1, 0, 1, 0, 0,
      0]⟩).data = memberCallFrame ++ ⟨#[108, 1, 0, 1, 0, 0, 0]⟩ := by
    decide
  have read : Message.unmarshal (memberCallFrame ++ ⟨#[108, 1, 0, 1, 0, 0, 0]⟩) maxMessage =
      .ok (Message.callTo (Text.ofString "M"), 48) := by
    rw [Message.unmarshal_append _ (by rw [Message.unmarshal_memberCallFrame]; nofun),
      Message.unmarshal_memberCallFrame]
  have popped := pop_eq_unmarshal ((create maxMessage 0).grow ⟨#[108, 1, 0, 1, 0, 0, 0, 0, 1, 0, 0, 0, 26, 0, 0,
    0, 1, 1, 111, 0, 1, 0, 0, 0, 47, 0, 0, 0, 0, 0, 0, 0, 3, 1, 115, 0, 1, 0, 0, 0, 77, 0, 0, 0, 0, 0, 0, 0, 108,
    1, 0, 1, 0, 0, 0]⟩)
  rw [maxSize_grow, stream, show (create maxMessage 0).maxSize = maxMessage from rfl, read] at popped
  dsimp only at popped
  exact ⟨_, _, fed, fed', by rw [whole, popAll_of_some popped, popAll_of_none (pop_short (by decide))], same,
    whole, ends⟩

end FrameBuffer

end MessageBus
