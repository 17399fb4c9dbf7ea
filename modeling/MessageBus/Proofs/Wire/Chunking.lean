import Mathlib
import MessageBus.Wire.Buffer
import MessageBus.Proofs.Octets

namespace MessageBus

theorem frameLength_short {data : ByteArray} (short : data.size < 16) :
    frameLength data = .error .incomplete := by
  unfold frameLength
  rw [if_pos short]
  rfl

/-- A frame is at least its fixed part long. -/
theorem frameLength_ge {data : ByteArray} {total : Nat} (read : frameLength data = .ok total) : 16 ≤ total := by
  unfold frameLength at read
  split at read
  · cases read
  · dsimp only at read
    split at read
    · split at read
      · cases read
      · cases read
        omega
    · cases read

/-- Too few octets is the only failure that reading a frame's length gives before its sixteenth
octet. -/
theorem frameLength_incomplete {data : ByteArray} (read : frameLength data = .error .incomplete) : data.size < 16 := by
  unfold frameLength at read
  split at read
  · assumption
  · dsimp only at read
    split at read
    · split at read <;> cases read
    · cases read

/-- Reading a message takes the octets of its frame, which the data holds whole. -/
theorem Message.unmarshal_used {data : ByteArray} {maxSize : Int} {m : Message} {used : Nat}
    (read : Message.unmarshal data maxSize = .ok (m, used)) : frameLength data = .ok used ∧ used ≤ data.size := by
  unfold Message.unmarshal at read
  cases length : frameLength data with
  | error e =>
    rw [length] at read
    cases read
  | ok total =>
    simp only [length, bind, Except.bind] at read
    split at read
    · cases read
    · split at read
      · cases read
      · split at read
        · cases read
        · cases read
          exact ⟨rfl, by omega⟩

namespace FrameBuffer

/-- The buffer with more octets behind those it holds, its capacity not checked. -/
def grow (b : FrameBuffer) (more : ByteArray) : FrameBuffer := { b with data := b.data ++ more }

@[simp] theorem data_grow (b : FrameBuffer) (more : ByteArray) : (b.grow more).data = b.data ++ more := rfl

@[simp] theorem maxSize_grow (b : FrameBuffer) (more : ByteArray) : (b.grow more).maxSize = b.maxSize := rfl

@[simp] theorem capacity_grow (b : FrameBuffer) (more : ByteArray) : (b.grow more).capacity = b.capacity := rfl

@[simp] theorem grow_empty (b : FrameBuffer) : b.grow .empty = b := by
  simp [grow, ByteArray.append_empty]

theorem grow_grow (b : FrameBuffer) (more rest : ByteArray) : (b.grow more).grow rest = b.grow (more ++ rest) := by
  simp [grow, ByteArray.append_assoc]

theorem append_ok {b b' : FrameBuffer} {chunk : ByteArray} (appended : b.append chunk = .ok b') :
    b' = b.grow chunk := by
  unfold append at appended
  dsimp only at appended
  split at appended
  · cases appended
  · cases appended
    rfl

theorem append_of_fits {b : FrameBuffer} {chunk : ByteArray} (fits : (b.data.size + chunk.size : Int) ≤ b.capacity) :
    b.append chunk = .ok (b.grow chunk) := by
  unfold append
  rw [if_neg (by push_cast; omega)]
  rfl

/-- The first octets of a buffer that already holds them do not change as more arrive. -/
theorem extract_grow {b : FrameBuffer} {more : ByteArray} {n : Nat} (within : n ≤ b.data.size) :
    (b.grow more).data.extract 0 n = b.data.extract 0 n := by
  apply ByteArray.eq_of_toList
  rw [ByteArray.size_eq_length] at within
  simp [List.take_append_of_le_length within]

/-- After a frame read from the front, the rest of a grown buffer is the rest of the buffer and
what was added. -/
theorem extract_rest_grow {b : FrameBuffer} {more : ByteArray} {used : Nat} (within : used ≤ b.data.size) :
    (b.grow more).data.extract used (b.grow more).data.size = b.data.extract used b.data.size ++ more := by
  apply ByteArray.eq_of_toList
  rw [ByteArray.size_eq_length] at within
  have kept : (b.data.toList.drop used ++ more.toList).length = b.data.toList.length + more.toList.length - used := by
    simp only [List.length_append, List.length_drop]
    omega
  simp only [ByteArray.toList_extract, data_grow, ByteArray.toList_append', List.drop_append_of_le_length within,
    ByteArray.size_eq_length, List.length_append]
  rw [List.take_of_length_le kept.le, List.take_of_length_le (by simp)]

/-- Fewer octets than a frame's fixed part give nothing. -/
theorem pop_short {b : FrameBuffer} (short : b.data.size < 16) : b.pop = .ok (none, b) := by
  have fewer : (b.data.extract 0 16).size < 16 := by
    rw [ByteArray.size_extract]
    omega
  rw [pop, frameLength_short fewer]

/-- A buffer whose first sixteen octets read as anything but too few holds sixteen octets. -/
theorem sixteen_le_of_pop {b : FrameBuffer} (decided : b.pop ≠ .ok (none, b)) : 16 ≤ b.data.size := by
  by_contra short
  exact decided (pop_short (by omega))

theorem pop_none {b b' : FrameBuffer} (popped : b.pop = .ok (none, b')) : b' = b := by
  unfold pop at popped
  split at popped
  · cases popped
    rfl
  · cases popped
  · split at popped
    · cases popped
    · split at popped
      · cases popped
        rfl
      · split at popped <;> cases popped

/-- A pop that gives a message or fails gives the same with more octets behind the frame. -/
theorem pop_grow {b : FrameBuffer} (more : ByteArray) (decided : b.pop ≠ .ok (none, b)) :
    (b.grow more).pop = b.pop.map fun (m, left) => (m, left.grow more) := by
  have long := sixteen_le_of_pop decided
  unfold pop at decided ⊢
  rw [extract_grow long, maxSize_grow]
  split
  · rename_i read
    rw [read] at decided
    exact absurd rfl decided
  · rfl
  · rename_i total read
    split
    · rfl
    · rename_i small
      have within : total ≤ b.data.size := by
        by_contra short
        simp [read, small, Nat.lt_of_not_le short] at decided
      have grown : ¬ (b.grow more).data.size < total := by
        simp only [data_grow, ByteArray.size_append]
        omega
      rw [if_neg grown, if_neg (Nat.not_lt.mpr within), extract_grow within]
      split
      · rfl
      · rename_i m used read
        have used_le := (Message.unmarshal_used read).2
        rw [ByteArray.size_extract] at used_le
        rw [extract_rest_grow (by omega)]
        rfl

/-- A pop that gives a message takes the octets of its frame, at least the fixed part, off the
front of the buffer. -/
theorem pop_some {b left : FrameBuffer} {m : Message} (popped : b.pop = .ok (some m, left)) :
    ∃ used, 16 ≤ used ∧ used ≤ b.data.size ∧ left = { b with data := b.data.extract used b.data.size } := by
  unfold pop at popped
  split at popped
  · cases popped
  · cases popped
  · split at popped
    · cases popped
    · split at popped
      · cases popped
      · split at popped
        · cases popped
        · rename_i used read
          cases popped
          obtain ⟨length, used_le⟩ := Message.unmarshal_used read
          rw [ByteArray.size_extract] at used_le
          exact ⟨used, frameLength_ge length, by omega, rfl⟩

theorem size_pop_lt {b left : FrameBuffer} {m : Message} (popped : b.pop = .ok (some m, left)) :
    left.size < b.size := by
  obtain ⟨used, fixed, within, rfl⟩ := pop_some popped
  simp only [size, ByteArray.size_extract]
  omega

/-- What a pop leaves is the end of what the buffer held. -/
theorem suffix_pop {b left : FrameBuffer} {m : Message} (popped : b.pop = .ok (some m, left)) :
    left.data.toList <:+ b.data.toList := by
  obtain ⟨used, -, within, rfl⟩ := pop_some popped
  rw [ByteArray.size_eq_length] at within
  simpa [ByteArray.size_eq_length, List.take_of_length_le] using List.drop_suffix used b.data.toList

/-- Pop messages off the front until no whole frame is left or a pop fails: the messages in
order, with the buffer left or the failure. -/
def popAll (b : FrameBuffer) : List Message × Except FrameError FrameBuffer :=
  match _popped : b.pop with
  | .error e => ([], .error e)
  | .ok (none, left) => ([], .ok left)
  | .ok (some m, left) =>
    let rest := left.popAll
    (m :: rest.1, rest.2)
termination_by b.size
decreasing_by exact size_pop_lt _popped

theorem pop_grow_of_error {b : FrameBuffer} {e : FrameError} (more : ByteArray) (popped : b.pop = .error e) :
    (b.grow more).pop = .error e := by
  rw [pop_grow more (by rw [popped]; simp), popped]
  rfl

theorem pop_grow_of_some {b left : FrameBuffer} {m : Message} (more : ByteArray)
    (popped : b.pop = .ok (some m, left)) : (b.grow more).pop = .ok (some m, left.grow more) := by
  rw [pop_grow more (by rw [popped]; simp), popped]
  rfl

theorem popAll_of_error {b : FrameBuffer} {e : FrameError} (popped : b.pop = .error e) :
    b.popAll = ([], .error e) := by
  rw [popAll]
  split <;> rename_i read <;> rw [popped] at read <;> cases read
  rfl

/-- A buffer that holds no whole frame keeps every octet. -/
theorem popAll_of_none {b left : FrameBuffer} (popped : b.pop = .ok (none, left)) : b.popAll = ([], .ok b) := by
  rw [popAll]
  split <;> rename_i read <;> rw [popped] at read <;> cases read
  rw [pop_none popped]

theorem popAll_of_some {b left : FrameBuffer} {m : Message} (popped : b.pop = .ok (some m, left)) :
    b.popAll = (m :: left.popAll.1, left.popAll.2) := by
  rw [popAll]
  split <;> rename_i read <;> rw [popped] at read <;> cases read
  rfl

/-- Popping stops at a buffer that holds no whole frame, and what is left is the end of what the
buffer held. -/
theorem popAll_ok {b left : FrameBuffer} {ms : List Message} (drained : b.popAll = (ms, .ok left)) :
    left.pop = .ok (none, left) ∧ left.data.toList <:+ b.data.toList := by
  induction b using popAll.induct generalizing ms with
  | case1 b e popped =>
    rw [popAll_of_error popped] at drained
    cases drained
  | case2 b stays popped =>
    rw [popAll_of_none popped] at drained
    cases drained
    rw [pop_none popped] at popped
    exact ⟨popped, List.suffix_refl _⟩
  | case3 b m next popped ih =>
    rw [popAll_of_some popped] at drained
    obtain ⟨settled, suffix⟩ := ih (Prod.ext rfl (Prod.mk.inj drained).2)
    exact ⟨settled, suffix.trans (suffix_pop popped)⟩

/-- Popping keeps the buffer's limits. -/
theorem popAll_limits {b left : FrameBuffer} {ms : List Message} (drained : b.popAll = (ms, .ok left)) :
    left.maxSize = b.maxSize ∧ left.capacity = b.capacity := by
  induction b using popAll.induct generalizing ms with
  | case1 b e popped =>
    rw [popAll_of_error popped] at drained
    cases drained
  | case2 b stays popped =>
    rw [popAll_of_none popped] at drained
    cases drained
    exact ⟨rfl, rfl⟩
  | case3 b m next popped ih =>
    rw [popAll_of_some popped] at drained
    obtain ⟨used, -, -, rfl⟩ := pop_some popped
    exact ih (Prod.ext rfl (Prod.mk.inj drained).2)

/-- A failure while popping is met again with more octets behind. -/
theorem popAll_grow_of_error {b : FrameBuffer} {ms : List Message} {e : FrameError} (more : ByteArray)
    (drained : b.popAll = (ms, .error e)) : (b.grow more).popAll = (ms, .error e) := by
  induction b using popAll.induct generalizing ms with
  | case1 b failure popped =>
    rw [popAll_of_error popped] at drained
    rw [popAll_of_error (pop_grow_of_error more popped), drained]
  | case2 b stays popped =>
    rw [popAll_of_none popped] at drained
    cases drained
  | case3 b m next popped ih =>
    rw [popAll_of_some popped] at drained
    obtain ⟨rfl, rest⟩ := Prod.mk.inj drained
    rw [popAll_of_some (pop_grow_of_some more popped), ih (Prod.ext rfl rest)]

/-- Popping with more octets behind gives the same messages first, then carries on from what was
left with those octets behind it. -/
theorem popAll_grow_of_ok {b left : FrameBuffer} {ms : List Message} (more : ByteArray)
    (drained : b.popAll = (ms, .ok left)) :
    (b.grow more).popAll = (ms ++ (left.grow more).popAll.1, (left.grow more).popAll.2) := by
  induction b using popAll.induct generalizing ms with
  | case1 b e popped =>
    rw [popAll_of_error popped] at drained
    cases drained
  | case2 b stays popped =>
    rw [popAll_of_none popped] at drained
    cases drained
    rfl
  | case3 b m next popped ih =>
    rw [popAll_of_some popped] at drained
    obtain ⟨rfl, rest⟩ := Prod.mk.inj drained
    rw [popAll_of_some (pop_grow_of_some more popped), ih (Prod.ext rfl rest), List.cons_append]

/-- Append each chunk in turn and pop every whole frame after it: the messages in order, with the
buffer at the end or the failure of a pop, after which nothing more is fed; `none` when an append
would pass the buffer's capacity. -/
def feed (b : FrameBuffer) : List ByteArray → Option (List Message × Except FrameError FrameBuffer)
  | [] => some ([], .ok b)
  | chunk :: rest =>
    match b.append chunk with
    | .error _ => none
    | .ok grown =>
      match grown.popAll with
      | (ms, .error e) => some (ms, .error e)
      | (ms, .ok left) => (left.feed rest).map fun later => (ms ++ later.1, later.2)

/-- The octets of the chunks, one after another. -/
def joined (chunks : List ByteArray) : ByteArray := chunks.foldr (· ++ ·) .empty

@[simp] theorem joined_nil : joined [] = .empty := rfl

@[simp] theorem joined_cons (chunk : ByteArray) (rest : List ByteArray) :
    joined (chunk :: rest) = chunk ++ joined rest := rfl

theorem toList_joined (chunks : List ByteArray) : (joined chunks).toList = chunks.flatMap ByteArray.toList := by
  induction chunks with
  | nil => simp [joined]
  | cons chunk rest ih => simp [joined, ← ih]

/-- From a buffer that holds no whole frame, feeding chunks gives what popping gives from the
buffer with all the chunks behind it. -/
theorem feed_eq_popAll {b : FrameBuffer} {chunks : List ByteArray} {r : List Message × Except FrameError FrameBuffer}
    (settled : b.pop = .ok (none, b)) (fed : b.feed chunks = some r) : r = (b.grow (joined chunks)).popAll := by
  induction chunks generalizing b r with
  | nil =>
    cases fed
    have same : b.grow (joined []) = b := by simp [grow, joined, ByteArray.append_empty]
    rw [same, popAll_of_none settled]
  | cons chunk rest ih =>
    cases appended : b.append chunk with
    | error _ => simp [feed, appended] at fed
    | ok grown =>
      have whole : b.grow (joined (chunk :: rest)) = grown.grow (joined rest) := by
        rw [append_ok appended, grow_grow]
        rfl
      simp only [feed, appended] at fed
      rw [whole]
      -- the run stops at a failure, or carries on from a buffer that holds no whole frame
      rcases drained : grown.popAll with ⟨ms, _ | left⟩
      · rw [drained] at fed
        cases fed
        exact (popAll_grow_of_error _ drained).symm
      · rw [drained] at fed
        obtain ⟨later, fedRest, rfl⟩ := Option.map_eq_some_iff.mp fed
        rw [popAll_grow_of_ok _ drained, ← ih (popAll_ok drained).1 fedRest]

/-- From a buffer that holds no whole frame, feeding chunks that fit in its capacity all together
is never refused, and gives what popping gives from the buffer with all the chunks behind it. -/
theorem feed_of_fits {b : FrameBuffer} {chunks : List ByteArray} (settled : b.pop = .ok (none, b))
    (fits : (b.data.size + (joined chunks).size : Int) ≤ b.capacity) :
    b.feed chunks = some (b.grow (joined chunks)).popAll := by
  induction chunks generalizing b with
  | nil => simp [feed, popAll_of_none settled]
  | cons chunk rest ih =>
    have sizes : (joined (chunk :: rest)).size = chunk.size + (joined rest).size := by
      simp [joined, ByteArray.size_append]
    rw [feed, append_of_fits (by omega), joined_cons, ← grow_grow]
    dsimp only
    rcases drained : (b.grow chunk).popAll with ⟨ms, e | left⟩
    · rw [popAll_grow_of_error _ drained]
    · obtain ⟨settled', suffix⟩ := popAll_ok drained
      obtain ⟨-, sameCapacity⟩ := popAll_limits drained
      have held : left.data.size ≤ b.data.size + chunk.size := by
        have := suffix.length_le
        simp only [data_grow, ByteArray.toList_append', List.length_append] at this
        simpa [ByteArray.size_eq_length] using this
      dsimp only
      rw [ih settled' (by rw [sameCapacity, capacity_grow]; omega), popAll_grow_of_ok _ drained]
      rfl

end FrameBuffer

end MessageBus
