/-
# The backlog

Snapshots that wait for delivery are kept in a ring that was made empty and is changed
by the ring's operations only, so it is valid. Everything that is said about a backlog
is said about `toList`, the waiting entries from the oldest to the youngest.
-/

import NodeTelemetry.Backlog.Ring

namespace NodeTelemetry

universe u
variable {α : Type u}

/-- A valid ring. -/
structure Backlog (α : Type u) where
  ring : Ring α
  valid : ring.Valid

namespace Backlog

/-- An empty backlog for `capacity` entries, at least one. -/
def withCapacity (capacity : Nat) : Backlog α :=
  ⟨.withCapacity capacity, Ring.valid_withCapacity capacity⟩

def capacity (backlog : Backlog α) : Nat := backlog.ring.capacity

def length (backlog : Backlog α) : Nat := backlog.ring.size

def isFull (backlog : Backlog α) : Bool := backlog.ring.isFull

/-- The entries, oldest first. -/
def toList (backlog : Backlog α) : List α := backlog.ring.toList

/-- Append an entry; the result is the entry that had to go, if any. -/
def add (backlog : Backlog α) (item : α) : Option α × Backlog α :=
  ((backlog.ring.add item).1, ⟨(backlog.ring.add item).2, backlog.valid.add item⟩)

/-- Take the oldest entry out. -/
def pop (backlog : Backlog α) : Option α × Backlog α :=
  (backlog.ring.pop.1, ⟨backlog.ring.pop.2, backlog.valid.pop⟩)

/-- Put an entry back at the front; `none` if the backlog is full. -/
def requeue? (backlog : Backlog α) (item : α) : Option (Backlog α) :=
  match h : backlog.ring.requeue item with
  | .ok next => some ⟨next, backlog.valid.requeue h⟩
  | .error _ => none

/-- A backlog to which entries were added one after the other. -/
def addAll (backlog : Backlog α) (items : List α) : Backlog α :=
  items.foldl (fun backlog item => (backlog.add item).2) backlog

instance : Inhabited (Backlog α) := ⟨withCapacity 1⟩

/-! ## Operations seen through the list of entries -/

theorem length_toList (backlog : Backlog α) : backlog.toList.length = backlog.length :=
  Ring.length_toList backlog.valid

theorem length_le_capacity (backlog : Backlog α) : backlog.length ≤ backlog.capacity :=
  backlog.valid.size_le

theorem capacity_pos (backlog : Backlog α) : 0 < backlog.capacity :=
  Nat.zero_lt_of_lt backlog.valid.start_lt

theorem isFull_iff (backlog : Backlog α) :
    backlog.isFull ↔ backlog.length = backlog.capacity := by
  simp [isFull, Ring.isFull, length, capacity]

@[simp]
theorem toList_withCapacity (capacity : Nat) :
    (withCapacity capacity : Backlog α).toList = [] := rfl

@[simp]
theorem capacity_withCapacity (capacity : Nat) :
    (withCapacity capacity : Backlog α).capacity = max capacity 1 :=
  Ring.capacity_withCapacity capacity

@[simp]
theorem capacity_add (backlog : Backlog α) (item : α) :
    (backlog.add item).2.capacity = backlog.capacity :=
  Ring.capacity_add backlog.ring item

@[simp]
theorem capacity_pop (backlog : Backlog α) : backlog.pop.2.capacity = backlog.capacity :=
  Ring.capacity_pop backlog.ring

theorem toList_add (backlog : Backlog α) (item : α) :
    (backlog.add item).2.toList =
      (if backlog.isFull then backlog.toList.tail else backlog.toList) ++ [item] :=
  Ring.toList_add backlog.valid item

theorem evicted_add (backlog : Backlog α) (item : α) :
    (backlog.add item).1 = if backlog.isFull then backlog.toList.head? else none :=
  Ring.evicted_add backlog.valid item

theorem toList_pop (backlog : Backlog α) : backlog.pop.2.toList = backlog.toList.tail :=
  Ring.toList_pop backlog.valid

theorem popped (backlog : Backlog α) : backlog.pop.1 = backlog.toList.head? :=
  Ring.popped backlog.valid

/-- Popping takes the oldest entry, if there is one. -/
theorem pop_cases (backlog : Backlog α) :
    (backlog.toList = [] ∧ backlog.pop.1 = none) ∨
      ∃ oldest, backlog.pop.1 = some oldest ∧
        backlog.toList = oldest :: backlog.pop.2.toList := by
  rw [backlog.popped, backlog.toList_pop]
  cases backlog.toList with
  | nil => exact .inl ⟨rfl, rfl⟩
  | cons oldest younger => exact .inr ⟨oldest, rfl, rfl⟩

/-- A full backlog has an oldest entry. -/
theorem exists_oldest {backlog : Backlog α} (full : backlog.isFull) :
    ∃ oldest younger, backlog.toList = oldest :: younger := by
  apply List.exists_cons_of_length_pos
  rw [backlog.length_toList, backlog.isFull_iff.mp full]
  exact backlog.capacity_pos

/-- A full backlog takes nothing back. -/
theorem requeue?_of_full {backlog : Backlog α} (full : backlog.isFull) (item : α) :
    backlog.requeue? item = none := by
  have refused : backlog.ring.requeue item = .error item := if_pos full
  unfold requeue?
  split
  · simp_all
  · rfl

/-- A backlog with room takes an entry back as its oldest. -/
theorem requeue?_of_room {backlog : Backlog α} (room : ¬ backlog.isFull) (item : α) :
    ∃ next, backlog.requeue? item = some next ∧ next.toList = item :: backlog.toList ∧
      next.capacity = backlog.capacity := by
  unfold requeue?
  split
  · rename_i next accepted
    exact ⟨_, rfl, Ring.toList_requeue backlog.valid accepted, Ring.capacity_requeue accepted⟩
  · rename_i rejected
    have notFull : ¬ backlog.ring.isFull := room
    simp [Ring.requeue, notFull] at rejected

end Backlog

end NodeTelemetry
