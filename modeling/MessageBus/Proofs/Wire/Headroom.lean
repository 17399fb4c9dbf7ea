import Mathlib
import MessageBus.Proofs.Wire.Chunking
import MessageBus.Proofs.Wire.BufferRead

namespace MessageBus

/-- A frame's length is unreadable only for too few octets or a fault of the fixed part, never
for the frame's size. -/
theorem frameLength_error {d : ByteArray} {e : FrameError} (read : frameLength d = .error e) :
    e = .incomplete ∨ ∃ fault, e = .protocol fault := by
  unfold frameLength at read
  split at read
  · cases read
    exact .inl rfl
  dsimp only at read
  split at read
  · split at read
    · cases read
      exact .inr ⟨_, rfl⟩
    · cases read
  · cases read
    exact .inr ⟨_, rfl⟩

/-- Reading a frame fails for its size only when the frame declares more than the limit. -/
theorem Message.unmarshal_oversized {d : ByteArray} {M : Int} {e : FrameError}
    (read : Message.unmarshal d M = .error e) (size : e.kind = "OversizedFrame") :
    ∃ total, frameLength d = .ok total ∧ e = .oversized total M ∧ M < total := by
  cases length : frameLength d with
  | error e' =>
    rw [Message.unmarshal_of_error length] at read
    cases read
    rcases frameLength_error length with rfl | ⟨fault, rfl⟩ <;> simp [FrameError.kind] at size
  | ok total =>
    rw [Message.unmarshal_eq length] at read
    split at read
    · rename_i tooLong
      cases read
      exact ⟨total, rfl, rfl, tooLong⟩
    split at read
    · cases read
      simp [FrameError.kind] at size
    · split at read
      · cases read
      · cases read
        simp [FrameError.kind] at size

namespace FrameBuffer

/-- A pop fails for size only at a frame in front that declares more than the limit. -/
theorem pop_oversized {b : FrameBuffer} {e : FrameError} (popped : b.pop = .error e)
    (size : e.kind = "OversizedFrame") :
    ∃ total, frameLength b.data = .ok total ∧ e = .oversized total b.maxSize ∧ b.maxSize < total := by
  rw [pop_eq_unmarshal] at popped
  split at popped
  · cases popped
  · rename_i _ read
    cases popped
    exact Message.unmarshal_oversized read size
  · cases popped

/-- A drained buffer is one from which reading asks for more octets. -/
theorem unmarshal_of_settled {b : FrameBuffer} (settled : b.pop = .ok (none, b)) :
    Message.unmarshal b.data b.maxSize = .error .incomplete := by
  rw [pop_eq_unmarshal] at settled
  split at settled
  · assumption
  · cases settled
  · cases settled

/-- A drained buffer holds fewer than sixteen octets, or fewer than the limit: the start of a frame
that declares no more than the limit. -/
theorem size_of_settled {b : FrameBuffer} (settled : b.pop = .ok (none, b)) :
    b.data.size < 16 ∨ (b.data.size : Int) < b.maxSize := by
  rcases (Message.unmarshal_incomplete_iff b.data b.maxSize).mp (unmarshal_of_settled settled) with
    short | ⟨-, -, total, -, fits, unfinished⟩
  · exact .inl short
  · exact .inr (by omega)

/-- A drained buffer whose limit is at least fifteen takes any read of at most its headroom. -/
theorem append_of_settled {b : FrameBuffer} {headroom : Int} {chunk : ByteArray}
    (settled : b.pop = .ok (none, b)) (room : b.capacity = b.maxSize + headroom) (roomy : 15 ≤ b.maxSize)
    (small : (chunk.size : Int) ≤ headroom) : b.append chunk = .ok (b.grow chunk) := by
  have held : (b.data.size : Int) ≤ b.maxSize := by
    rcases size_of_settled settled with short | below <;> omega
  exact append_of_fits (by omega)

/-- From a drained buffer whose limit is at least fifteen, feeding reads of at most the headroom
never overfills the buffer. -/
theorem feed_ne_none {b : FrameBuffer} {headroom : Int} {chunks : List ByteArray}
    (settled : b.pop = .ok (none, b)) (room : b.capacity = b.maxSize + headroom) (roomy : 15 ≤ b.maxSize)
    (small : ∀ chunk ∈ chunks, (chunk.size : Int) ≤ headroom) : b.feed chunks ≠ none := by
  induction chunks generalizing b with
  | nil => simp [feed]
  | cons chunk rest ih =>
    rw [feed, append_of_settled settled room roomy (small chunk (by simp))]
    rcases drained : (b.grow chunk).popAll with ⟨ms, e | left⟩
    · simp [drained]
    · obtain ⟨settled', -⟩ := popAll_ok drained
      obtain ⟨sameMax, sameCap⟩ := popAll_limits drained
      have later := ih settled' (by simp [sameMax, sameCap, room]) (by simpa [sameMax] using roomy)
        (fun c mem => small c (.tail _ mem))
      simpa [drained] using later

/-- A run of pops that fails, fails at a buffer that holds the end of the first, with its limit. -/
theorem popAll_error {b : FrameBuffer} {ms : List Message} {e : FrameError} (drained : b.popAll = (ms, .error e)) :
    ∃ left : FrameBuffer, left.maxSize = b.maxSize ∧ left.data.toList <:+ b.data.toList ∧ left.pop = .error e := by
  induction b using popAll.induct generalizing ms with
  | case1 b failure popped =>
    rw [popAll_of_error popped] at drained
    cases drained
    exact ⟨b, rfl, List.suffix_refl _, popped⟩
  | case2 b stays popped =>
    rw [popAll_of_none popped] at drained
    cases drained
  | case3 b m next popped ih =>
    rw [popAll_of_some popped] at drained
    obtain ⟨left, sameMax, suffix, failed⟩ := ih (Prod.ext rfl (Prod.mk.inj drained).2)
    obtain ⟨used, -, -, shape⟩ := pop_some popped
    exact ⟨left, by rw [sameMax, shape], suffix.trans (suffix_pop popped), failed⟩

/-- A new buffer fed reads of at most its headroom, popping every whole frame after each: when
its limit is at least fifteen no read overfills it, and a failure for size is always a pop's, at a
frame of the stream that declares more than the limit. -/
theorem feed_within_headroom {maxSize headroom : Int} {chunks : List ByteArray}
    (small : ∀ chunk ∈ chunks, (chunk.size : Int) ≤ headroom) :
    ((create maxSize headroom).feed chunks = none → maxSize < 15) ∧
      ∀ ms e, (create maxSize headroom).feed chunks = some (ms, .error e) → e.kind = "OversizedFrame" →
        ∃ rest total, rest.toList <:+ (joined chunks).toList ∧ frameLength rest = .ok total ∧
          e = .oversized total maxSize ∧ maxSize < total := by
  have empty : (create maxSize headroom).pop = .ok (none, create maxSize headroom) := pop_short (by simp [create])
  refine ⟨fun refused => ?_, fun ms e fed size => ?_⟩
  · by_contra roomy
    exact feed_ne_none empty rfl (by simpa [create] using roomy) small refused
  · have whole := (FrameBuffer.feed_eq_popAll empty fed).symm
    obtain ⟨left, sameMax, suffix, failed⟩ := popAll_error whole
    obtain ⟨total, declared, rfl, tooLong⟩ := pop_oversized failed size
    simp only [maxSize_grow] at sameMax
    refine ⟨left.data, total, by simpa [create, grow] using suffix, declared, by rw [sameMax]; rfl, ?_⟩
    simpa [sameMax, create] using tooLong

/-- With a limit of one octet and a headroom of one, a new buffer takes two reads of one octet and
refuses the third: no frame fits the limit, so the octets wait, and three pass the capacity of
two. -/
theorem feed_overfull_small_limit :
    (∀ chunk ∈ [ByteArray.mk #[0], ByteArray.mk #[0], ByteArray.mk #[0]], (chunk.size : Int) ≤ 1) ∧
      (create 1 1).feed [⟨#[0]⟩, ⟨#[0]⟩, ⟨#[0]⟩] = none ∧ (1 : Int) < 15 := by
  have small : ∀ chunk ∈ [ByteArray.mk #[0], ByteArray.mk #[0], ByteArray.mk #[0]], (chunk.size : Int) ≤ 1 := by
    decide
  have refused : (create 1 1).feed [⟨#[0]⟩, ⟨#[0]⟩, ⟨#[0]⟩] = none := by
    with_unfolding_all rfl
  exact ⟨small, refused, (feed_within_headroom small).1 refused⟩

end FrameBuffer

end MessageBus
