/-
# A ring of slots

A ring keeps a first-in first-out queue in a fixed number of slots. The oldest entry is
in slot `start`, and the entry that is `i` places younger in slot
`(start + i) % capacity`. Adding to a full ring overwrites the oldest entry and hands it
back; an entry that was taken out can be put back at the front unless the ring is full.
A ring that starts empty keeps exactly these slots occupied, whatever is done to it:
that is `Ring.Valid`, and each operation keeps it.
-/

namespace NodeTelemetry

universe u
variable {α : Type u}

/-- Slots, the position of the oldest entry, and the number of entries. -/
structure Ring (α : Type u) where
  slots : Array (Option α)
  start : Nat
  size : Nat

namespace Ring

/-- An empty ring with at least one slot. -/
def withCapacity (capacity : Nat) : Ring α where
  slots := Array.replicate (max capacity 1) none
  start := 0
  size := 0

abbrev capacity (ring : Ring α) : Nat := ring.slots.size

def isEmpty (ring : Ring α) : Bool := ring.size == 0

def isFull (ring : Ring α) : Bool := ring.size == ring.capacity

/-- The slot that is `offset` places after `start`. -/
def slotIndex (ring : Ring α) (offset : Nat) : Nat := (ring.start + offset) % ring.capacity

/-- The entry that is `offset` places younger than the oldest. -/
def get? (ring : Ring α) (offset : Nat) : Option α := (ring.slots[ring.slotIndex offset]?).join

/-- The entries, oldest first. -/
def toList (ring : Ring α) : List α :=
  (List.range ring.size).filterMap ring.get?

/-- Append an entry. The result is the oldest entry if it had to make room. -/
def add (ring : Ring α) (item : α) : Option α × Ring α :=
  if ring.size < ring.capacity then
    (none,
      { ring with
        slots := ring.slots.setIfInBounds (ring.slotIndex ring.size) (some item)
        size := ring.size + 1 })
  else
    ((ring.slots[ring.start]?).join,
      { ring with
        slots := ring.slots.setIfInBounds ring.start (some item)
        start := (ring.start + 1) % ring.capacity })

/-- Take the oldest entry out. -/
def pop (ring : Ring α) : Option α × Ring α :=
  if ring.size = 0 then (none, ring)
  else
    ((ring.slots[ring.start]?).join,
      { slots := ring.slots.setIfInBounds ring.start none
        start := (ring.start + 1) % ring.capacity
        size := ring.size - 1 })

/-- Put an entry back at the front. A full ring hands it back instead. -/
def requeue (ring : Ring α) (item : α) : Except α (Ring α) :=
  if ring.isFull then .error item
  else
    let front := (ring.start + ring.capacity - 1) % ring.capacity
    .ok
      { slots := ring.slots.setIfInBounds front (some item)
        start := front
        size := ring.size + 1 }

/-- The slots from the oldest entry on are occupied, as many as there are entries, and
all others are empty. -/
structure Valid (ring : Ring α) : Prop where
  start_lt : ring.start < ring.capacity
  size_le : ring.size ≤ ring.capacity
  occupied : ∀ offset, offset < ring.capacity →
    (ring.get? offset).isSome = decide (offset < ring.size)

/-! ## Slots and offsets -/

/-- Going around the ring is at most one step past its end. -/
private theorem add_mod_eq_ite {start offset capacity : Nat} (hs : start < capacity)
    (ho : offset < capacity) :
    (start + offset) % capacity = if start + offset < capacity then start + offset
      else start + offset - capacity := by
  split
  · exact Nat.mod_eq_of_lt ‹_›
  · rw [Nat.mod_eq_sub_mod (by omega)]
    exact Nat.mod_eq_of_lt (by omega)

private theorem add_one_mod_eq_ite {start capacity : Nat} (hs : start < capacity) :
    (start + 1) % capacity = if start + 1 < capacity then start + 1 else 0 := by
  split
  · exact Nat.mod_eq_of_lt ‹_›
  · have : start + 1 = capacity := by omega
    simp [this]

private theorem add_sub_one_mod_eq_ite {start capacity : Nat} (hs : start < capacity) :
    (start + capacity - 1) % capacity = if start = 0 then capacity - 1 else start - 1 := by
  split
  · subst start
    rw [Nat.zero_add]
    exact Nat.mod_eq_of_lt (by omega)
  · rw [show start + capacity - 1 = (start - 1) + capacity by omega, Nat.add_mod_right]
    exact Nat.mod_eq_of_lt (by omega)

/-- Reading a slot after one slot was written. -/
private theorem join_setIfInBounds (slots : Array (Option α)) {written read : Nat}
    (value : Option α) (hw : written < slots.size) :
    ((slots.setIfInBounds written value)[read]?).join =
      if read = written then value else (slots[read]?).join := by
  rw [Array.getElem?_setIfInBounds]
  by_cases h : read = written
  · subst read; simp [hw]
  · simp [h, Ne.symm h]

theorem capacity_withCapacity (capacity : Nat) :
    (withCapacity capacity : Ring α).capacity = max capacity 1 := by
  simp [withCapacity, Ring.capacity]

theorem valid_withCapacity (capacity : Nat) : (withCapacity capacity : Ring α).Valid where
  start_lt := by
    rw [capacity_withCapacity]
    exact Nat.lt_of_lt_of_le Nat.zero_lt_one (Nat.le_max_right capacity 1)
  size_le := by simp [withCapacity]
  occupied offset h := by
    simp only [get?, slotIndex, withCapacity]
    rw [Array.getElem?_replicate]
    split <;> simp

/-! ## Each operation as an equation on offsets -/

private theorem add_of_room {ring : Ring α} (room : ring.size < ring.capacity) (item : α) :
    ring.add item = (none,
      { ring with
        slots := ring.slots.setIfInBounds (ring.slotIndex ring.size) (some item)
        size := ring.size + 1 }) :=
  if_pos room

private theorem add_of_full {ring : Ring α} (full : ¬ ring.size < ring.capacity) (item : α) :
    ring.add item = ((ring.slots[ring.start]?).join,
      { ring with
        slots := ring.slots.setIfInBounds ring.start (some item)
        start := (ring.start + 1) % ring.capacity }) :=
  if_neg full

private theorem pop_of_nonempty {ring : Ring α} (nonempty : ring.size ≠ 0) :
    ring.pop = ((ring.slots[ring.start]?).join,
      { slots := ring.slots.setIfInBounds ring.start none
        start := (ring.start + 1) % ring.capacity
        size := ring.size - 1 }) :=
  if_neg nonempty

private theorem requeue_eq_ok {ring next : Ring α} {item : α} (h : ring.requeue item = .ok next) :
    ring.size ≠ ring.capacity ∧ next =
      { slots := ring.slots.setIfInBounds ((ring.start + ring.capacity - 1) % ring.capacity)
          (some item)
        start := (ring.start + ring.capacity - 1) % ring.capacity
        size := ring.size + 1 } := by
  unfold requeue at h
  by_cases full : ring.isFull
  · simp [full] at h
  · simp only [full] at h
    refine ⟨by simpa [isFull] using full, ?_⟩
    simpa using h.symm

theorem get?_add_of_lt {ring : Ring α} (valid : ring.Valid) (room : ring.size < ring.capacity)
    (item : α) {offset : Nat} (h : offset < ring.capacity) :
    (ring.add item).2.get? offset = if offset = ring.size then some item
      else ring.get? offset := by
  have hs := valid.start_lt
  rw [add_of_room room]
  simp only [get?, slotIndex, capacity, Array.size_setIfInBounds] at hs room h ⊢
  rw [join_setIfInBounds _ _ (Nat.mod_lt _ (by omega)), add_mod_eq_ite hs h, add_mod_eq_ite hs room]
  by_cases heq : offset = ring.size
  · simp [heq]
  · rw [if_neg heq, if_neg]
    split <;> split <;> omega

theorem get?_add_of_full {ring : Ring α} (valid : ring.Valid)
    (full : ¬ ring.size < ring.capacity) (item : α) {offset : Nat} (h : offset < ring.capacity) :
    (ring.add item).2.get? offset = if offset + 1 = ring.capacity then some item
      else ring.get? (offset + 1) := by
  have hs := valid.start_lt
  rw [add_of_full full]
  simp only [get?, slotIndex, capacity, Array.size_setIfInBounds] at hs full h ⊢
  rw [join_setIfInBounds _ _ hs, add_one_mod_eq_ite hs]
  have hnext : (if ring.start + 1 < ring.slots.size then ring.start + 1 else 0)
      < ring.slots.size := by split <;> omega
  rw [add_mod_eq_ite hnext h]
  by_cases hlast : offset + 1 = ring.slots.size
  · rw [if_pos hlast, if_pos]
    split <;> split <;> omega
  · rw [if_neg hlast, if_neg, add_mod_eq_ite hs (show offset + 1 < ring.slots.size by omega)]
    · congr 2
      split <;> split <;> (try split) <;> omega
    · split <;> split <;> omega

theorem get?_pop {ring : Ring α} (valid : ring.Valid) (nonempty : ring.size ≠ 0)
    {offset : Nat} (h : offset < ring.capacity) :
    ring.pop.2.get? offset = if offset + 1 = ring.capacity then none
      else ring.get? (offset + 1) := by
  have hs := valid.start_lt
  rw [pop_of_nonempty nonempty]
  simp only [get?, slotIndex, capacity, Array.size_setIfInBounds] at hs h ⊢
  rw [join_setIfInBounds _ _ hs, add_one_mod_eq_ite hs]
  have hnext : (if ring.start + 1 < ring.slots.size then ring.start + 1 else 0)
      < ring.slots.size := by split <;> omega
  rw [add_mod_eq_ite hnext h]
  by_cases hlast : offset + 1 = ring.slots.size
  · rw [if_pos hlast, if_pos]
    split <;> split <;> omega
  · rw [if_neg hlast, if_neg, add_mod_eq_ite hs (show offset + 1 < ring.slots.size by omega)]
    · congr 2
      split <;> split <;> (try split) <;> omega
    · split <;> split <;> omega

theorem get?_requeue {ring next : Ring α} (valid : ring.Valid) {item : α}
    (h : ring.requeue item = .ok next) {offset : Nat} (ho : offset < ring.capacity) :
    next.get? offset = if offset = 0 then some item else ring.get? (offset - 1) := by
  have hs := valid.start_lt
  obtain ⟨_, rfl⟩ := requeue_eq_ok h
  simp only [get?, slotIndex, capacity, Array.size_setIfInBounds] at hs ho ⊢
  rw [add_sub_one_mod_eq_ite hs]
  have hprev : (if ring.start = 0 then ring.slots.size - 1 else ring.start - 1)
      < ring.slots.size := by split <;> omega
  rw [join_setIfInBounds _ _ hprev, add_mod_eq_ite hprev ho]
  by_cases hzero : offset = 0
  · subst offset
    rw [if_pos rfl, if_pos]
    split <;> split <;> omega
  · rw [if_neg hzero, if_neg, add_mod_eq_ite hs (show offset - 1 < ring.slots.size by omega)]
    · congr 2
      split <;> split <;> (try split) <;> omega
    · split <;> split <;> omega

/-! ## Validity is kept -/

theorem capacity_add (ring : Ring α) (item : α) :
    (ring.add item).2.capacity = ring.capacity := by
  unfold add
  split <;> simp [capacity]

theorem capacity_pop (ring : Ring α) : ring.pop.2.capacity = ring.capacity := by
  unfold pop
  split <;> simp [capacity]

theorem capacity_requeue {ring next : Ring α} {item : α} (h : ring.requeue item = .ok next) :
    next.capacity = ring.capacity := by
  obtain ⟨_, rfl⟩ := requeue_eq_ok h
  simp [capacity]

theorem Valid.add {ring : Ring α} (valid : ring.Valid) (item : α) : (ring.add item).2.Valid := by
  have hs := valid.start_lt
  have hsize := valid.size_le
  by_cases room : ring.size < ring.capacity
  · refine ⟨?_, ?_, fun offset ho => ?_⟩
    · rw [capacity_add]
      simpa [Ring.add, room] using hs
    · rw [capacity_add]
      simp only [Ring.add, room, if_true]
      omega
    · rw [capacity_add] at ho
      rw [get?_add_of_lt valid room item ho]
      have := valid.occupied offset ho
      simp only [Ring.add, room, if_true]
      by_cases heq : offset = ring.size
      · simp [heq]
      · rw [if_neg heq, this]
        simp only [decide_eq_decide]
        omega
  · refine ⟨?_, ?_, fun offset ho => ?_⟩
    · rw [capacity_add]
      simp only [Ring.add, room, if_false]
      exact Nat.mod_lt _ (by omega)
    · rw [capacity_add]
      simpa [Ring.add, room] using hsize
    · rw [capacity_add] at ho
      rw [get?_add_of_full valid room item ho]
      simp only [Ring.add, room, if_false]
      by_cases hlast : offset + 1 = ring.capacity
      · simp [hlast]
        omega
      · rw [if_neg hlast, valid.occupied (offset + 1) (by omega)]
        simp only [decide_eq_decide]
        omega

theorem Valid.pop {ring : Ring α} (valid : ring.Valid) : ring.pop.2.Valid := by
  have hs := valid.start_lt
  have hsize := valid.size_le
  by_cases nonempty : ring.size = 0
  · simpa [Ring.pop, nonempty] using valid
  · refine ⟨?_, ?_, fun offset ho => ?_⟩
    · rw [capacity_pop]
      simp only [Ring.pop, nonempty, if_false]
      exact Nat.mod_lt _ (by omega)
    · rw [capacity_pop]
      simp only [Ring.pop, nonempty, if_false]
      omega
    · rw [capacity_pop] at ho
      rw [get?_pop valid nonempty ho]
      simp only [Ring.pop, nonempty, if_false]
      by_cases hlast : offset + 1 = ring.capacity
      · simp [hlast]
        omega
      · rw [if_neg hlast, valid.occupied (offset + 1) (by omega)]
        simp only [decide_eq_decide]
        omega

theorem Valid.requeue {ring next : Ring α} (valid : ring.Valid) {item : α}
    (h : ring.requeue item = .ok next) : next.Valid := by
  have hs := valid.start_lt
  have hsize := valid.size_le
  have hcap := capacity_requeue h
  have hshape : next.start < ring.capacity ∧ next.size = ring.size + 1 ∧
      ring.size < ring.capacity := by
    obtain ⟨hne, rfl⟩ := requeue_eq_ok h
    exact ⟨Nat.mod_lt _ (by omega), rfl, by omega⟩
  refine ⟨by rw [hcap]; exact hshape.1, by rw [hcap]; omega, fun offset ho => ?_⟩
  rw [hcap] at ho
  rw [get?_requeue valid h ho, hshape.2.1]
  by_cases hzero : offset = 0
  · simp [hzero]
  · rw [if_neg hzero, valid.occupied (offset - 1) (by omega)]
    simp only [decide_eq_decide]
    omega

/-! ## The ring as a list -/

theorem length_toList {ring : Ring α} (valid : ring.Valid) : ring.toList.length = ring.size := by
  have all : ∀ i ∈ List.range ring.size, (ring.get? i).isSome := by
    intro i hi
    have hi := List.mem_range.1 hi
    have := valid.size_le
    simp [valid.occupied i (by omega), hi]
  unfold toList
  rw [List.length_filterMap_eq_countP, List.countP_eq_length.2 all]
  simp

theorem toList_getElem? {ring : Ring α} (valid : ring.Valid) {i : Nat} :
    ring.toList[i]? = if i < ring.size then ring.get? i else none := by
  have hsize := valid.size_le
  have all : ∀ n, n ≤ ring.size →
      ((List.range n).filterMap ring.get?)[i]? = if i < n then ring.get? i else none := by
    intro n hn
    induction n with
    | zero => simp
    | succ n ih =>
      have hlen : ((List.range n).filterMap ring.get?).length = n := by
        rw [List.length_filterMap_eq_countP, List.countP_eq_length.2]
        · simp
        · intro j hj
          have hj := List.mem_range.1 hj
          simp [valid.occupied j (by omega)]
          omega
      have hentry : (ring.get? n).isSome := by
        simp [valid.occupied n (by omega)]
        omega
      obtain ⟨value, hvalue⟩ := Option.isSome_iff_exists.1 hentry
      rw [List.range_succ, List.filterMap_append, List.getElem?_append, hlen]
      by_cases h : i < n
      · rw [if_pos h, ih (by omega), if_pos h, if_pos (by omega)]
      · by_cases heq : i = n
        · subst i
          simp [hvalue]
        · rw [if_neg h, if_neg (by omega)]
          simp [hvalue]
          omega
  exact all ring.size (Nat.le_refl _)

private theorem size_add {ring : Ring α} (item : α) :
    (ring.add item).2.size = if ring.size < ring.capacity then ring.size + 1 else ring.size := by
  unfold add
  split <;> rfl

/-- Adding appends; a full ring loses its oldest entry, which is the result. -/
theorem toList_add {ring : Ring α} (valid : ring.Valid) (item : α) :
    (ring.add item).2.toList =
      (if ring.isFull then ring.toList.tail else ring.toList) ++ [item] := by
  have hsize := valid.size_le
  have hs := valid.start_lt
  apply List.ext_getElem?
  intro i
  rw [toList_getElem? (valid.add item), size_add]
  by_cases room : ring.size < ring.capacity
  · have hfull : ring.isFull = false := by simp [isFull]; omega
    rw [if_pos room, hfull]
    simp only [Bool.false_eq_true, if_false]
    rw [List.getElem?_append, length_toList valid, toList_getElem? valid]
    by_cases h : i < ring.size + 1
    · rw [if_pos h, get?_add_of_lt valid room item (by omega)]
      by_cases heq : i = ring.size
      · simp [heq]
      · simp [heq, show i < ring.size by omega]
    · rw [if_neg h, if_neg (by omega)]
      simp
      omega
  · have hfull : ring.isFull = true := by simp [isFull]; omega
    rw [if_neg room, hfull]
    simp only [if_true]
    rw [List.getElem?_append, List.length_tail, length_toList valid, List.getElem?_tail,
      toList_getElem? valid]
    by_cases h : i < ring.size
    · rw [if_pos h, get?_add_of_full valid room item (by omega)]
      by_cases hlast : i + 1 = ring.capacity
      · rw [if_pos hlast, if_neg (by omega)]
        simp [show i - (ring.size - 1) = 0 by omega]
      · rw [if_neg hlast, if_pos (by omega), if_pos (by omega)]
    · rw [if_neg h, if_neg (by omega)]
      simp
      omega

theorem evicted_add {ring : Ring α} (valid : ring.Valid) (item : α) :
    (ring.add item).1 = if ring.isFull then ring.toList.head? else none := by
  have hsize := valid.size_le
  have hs := valid.start_lt
  by_cases room : ring.size < ring.capacity
  · have hfull : ring.isFull = false := by simp [isFull]; omega
    simp [add, room, hfull]
  · have hfull : ring.isFull = true := by simp [isFull]; omega
    rw [hfull]
    simp only [add, room, if_false, if_true]
    rw [List.head?_eq_getElem?, toList_getElem? valid, if_pos (by omega)]
    simp [get?, slotIndex, Nat.mod_eq_of_lt hs]

/-- Popping takes the oldest entry. -/
theorem toList_pop {ring : Ring α} (valid : ring.Valid) :
    ring.pop.2.toList = ring.toList.tail := by
  have hsize := valid.size_le
  have hs := valid.start_lt
  by_cases nonempty : ring.size = 0
  · have : ring.toList = [] := by simp [toList, nonempty]
    simp [pop, nonempty, this]
  · apply List.ext_getElem?
    intro i
    have hnext : ring.pop.2.size = ring.size - 1 := by simp [pop, nonempty]
    rw [toList_getElem? valid.pop, hnext, List.getElem?_tail, toList_getElem? valid]
    by_cases h : i < ring.size - 1
    · rw [if_pos h, if_pos (by omega), get?_pop valid nonempty (by omega), if_neg (by omega)]
    · rw [if_neg h, if_neg (by omega)]

theorem popped {ring : Ring α} (valid : ring.Valid) : ring.pop.1 = ring.toList.head? := by
  have hs := valid.start_lt
  by_cases nonempty : ring.size = 0
  · simp [pop, nonempty, toList]
  · rw [List.head?_eq_getElem?, toList_getElem? valid, if_pos (by omega)]
    simp [pop, nonempty, get?, slotIndex, Nat.mod_eq_of_lt hs]

/-- Putting back prepends. -/
theorem toList_requeue {ring next : Ring α} (valid : ring.Valid) {item : α}
    (h : ring.requeue item = .ok next) : next.toList = item :: ring.toList := by
  have hsize := valid.size_le
  have hs := valid.start_lt
  have hnext : next.size = ring.size + 1 ∧ ring.size < ring.capacity := by
    obtain ⟨hne, rfl⟩ := requeue_eq_ok h
    exact ⟨rfl, by omega⟩
  apply List.ext_getElem?
  intro i
  rw [toList_getElem? (valid.requeue h), hnext.1]
  by_cases hi : i < ring.size + 1
  · rw [if_pos hi, get?_requeue valid h (by omega)]
    cases i with
    | zero => simp
    | succ i => simp [toList_getElem? valid, show i < ring.size by omega]
  · rw [if_neg hi]
    cases i with
    | zero => omega
    | succ i =>
      simp only [List.getElem?_cons_succ]
      rw [toList_getElem? valid, if_neg (by omega)]

end Ring

end NodeTelemetry
