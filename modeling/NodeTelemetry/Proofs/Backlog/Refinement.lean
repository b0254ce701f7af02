/-
# Rings as bounded queues

A ring answers every request as a bounded queue does. Rings, backlogs and queues are
three services with the same requests; a client sees the replies and, after each of
them, how many entries there are and how many there could be. Nothing in that depends
on where in its slots a ring has put them.

The simulation relates a ring to the list of its entries. Beside the replies it says
where the entries are, so that a ring of which only the replies were right is not
enough.
-/

import NodeTelemetry.Backlog.Basic
import NodeTelemetry.Backlog.Queue

namespace NodeTelemetry

universe u v w

/-- What a client can ask for. -/
inductive Request (α : Type u) where
  | add (item : α)
  | pop
  | requeue (item : α)

/-- What a request comes to. -/
inductive Reply (α : Type u) where
  /-- An entry was added in the place of the evicted one, if there is one. -/
  | added (evicted : Option α)
  | popped (oldest : Option α)
  | requeued
  /-- The entry was not put back. -/
  | refused (item : α)

/-- What is seen without asking for an entry. -/
structure Fill where
  length : Nat
  isEmpty : Bool
  isFull : Bool
  capacity : Nat

/-- A first-in first-out store with the operations on its states. -/
structure Service (σ : Type v) (α : Type u) where
  add : σ → α → Option α × σ
  pop : σ → Option α × σ
  requeue : σ → α → Except α σ
  fill : σ → Fill

namespace Service

variable {σ : Type v} {τ : Type w} {α : Type u}

/-- Do what is asked for. A request that is refused leaves everything as it is. -/
def answer (service : Service σ α) (state : σ) : Request α → Reply α × σ
  | .add item => (.added (service.add state item).1, (service.add state item).2)
  | .pop => (.popped (service.pop state).1, (service.pop state).2)
  | .requeue item =>
    match service.requeue state item with
    | .ok next => (.requeued, next)
    | .error item => (.refused item, state)

/-- Answer requests one after the other. The results are the replies, each with the
fill after it, and the last state. -/
def serve (service : Service σ α) : List (Request α) → σ → List (Reply α × Fill) × σ
  | [], state => ([], state)
  | request :: later, state =>
    let (reply, next) := service.answer state request
    let (replies, last) := service.serve later next
    ((reply, service.fill next) :: replies, last)

/-- States that are related answer alike and stay related. -/
def Simulates (first : Service σ α) (second : Service τ α) (related : σ → τ → Prop) : Prop :=
  ∀ state model, related state model →
    first.fill state = second.fill model ∧
      ∀ request, (first.answer state request).1 = (second.answer model request).1 ∧
        related (first.answer state request).2 (second.answer model request).2

/-- No client can tell a service from the one that it simulates. -/
theorem Simulates.serve {first : Service σ α} {second : Service τ α} {related : σ → τ → Prop}
    (simulates : first.Simulates second related) (requests : List (Request α))
    {state : σ} {model : τ} (start : related state model) :
    (first.serve requests state).1 = (second.serve requests model).1 ∧
      related (first.serve requests state).2 (second.serve requests model).2 := by
  induction requests generalizing state model with
  | nil => exact ⟨rfl, start⟩
  | cons request later ih =>
      obtain ⟨sameReply, next⟩ := (simulates state model start).2 request
      obtain ⟨sameFill, -⟩ := simulates _ _ next
      obtain ⟨sameLater, last⟩ := ih next
      refine ⟨?_, last⟩
      simp only [Service.serve, sameReply, sameFill, sameLater]

end Service

namespace Queue

variable {α : Type u}

/-- A list of at most `capacity` entries as a service. -/
def service (capacity : Nat) : Service (List α) α where
  add := add capacity
  pop := pop
  requeue := requeue capacity
  fill items :=
    { length := items.length
      isEmpty := items.isEmpty
      isFull := items.length == capacity
      capacity }

end Queue

namespace Ring

variable {α : Type u} {ring : Ring α} {items : List α}

def service : Service (Ring α) α where
  add := add
  pop := pop
  requeue := requeue
  fill ring :=
    { length := ring.size
      isEmpty := ring.isEmpty
      isFull := ring.isFull
      capacity := ring.capacity }

/-- A ring with room for `capacity` entries that holds these, oldest first, in the slots
from its start on and in no others. -/
structure Holds (capacity : Nat) (ring : Ring α) (items : List α) : Prop where
  capacity_eq : ring.capacity = capacity
  start_lt : ring.start < capacity
  size_le : ring.size ≤ capacity
  size_eq : ring.size = items.length
  occupied : ∀ slot, slot < capacity →
    ((ring.slots[slot]?).join.isSome ↔
      ∃ offset, offset < ring.size ∧ slot = (ring.start + offset) % capacity)
  entries : ∀ offset, offset < ring.size →
    (ring.slots[(ring.start + offset) % capacity]?).join = items[offset]?

/-- Every slot is some places after the start. -/
theorem exists_offset {start slot capacity : Nat} (hstart : start < capacity)
    (hslot : slot < capacity) :
    ∃ offset, offset < capacity ∧ slot = (start + offset) % capacity := by
  refine ⟨(slot + (capacity - start)) % capacity, Nat.mod_lt _ (by omega), ?_⟩
  rw [Nat.add_mod_mod, show start + (slot + (capacity - start)) = slot + capacity by omega,
    Nat.add_mod_right, Nat.mod_eq_of_lt hslot]

/-- A valid ring and the list of its entries. -/
def Shows (capacity : Nat) (ring : Ring α) (items : List α) : Prop :=
  ring.Valid ∧ ring.capacity = capacity ∧ ring.toList = items

/-- A full ring refuses to take an entry back and stays as it is. -/
theorem answer_of_full (full : ring.isFull) (item : α) :
    service.answer ring (.requeue item) = (.refused item, ring) := by
  have refused : ring.requeue item = .error item := if_pos full
  simp only [Service.answer, service, refused]

namespace Shows

variable {capacity : Nat}

/-- Where the entries of a valid ring are. -/
theorem holds (shows : ring.Shows capacity items) : ring.Holds capacity items := by
  obtain ⟨valid, rfl, rfl⟩ := shows
  exact {
    capacity_eq := rfl
    start_lt := valid.start_lt
    size_le := valid.size_le
    size_eq := (length_toList valid).symm
    occupied := by
      intro slot hslot
      constructor
      · intro taken
        obtain ⟨offset, inside, rfl⟩ := exists_offset valid.start_lt hslot
        refine ⟨offset, ?_, rfl⟩
        have known := valid.occupied offset inside
        rw [get?, slotIndex, taken] at known
        exact of_decide_eq_true known.symm
      · rintro ⟨offset, inside, rfl⟩
        have known := valid.occupied offset (Nat.lt_of_lt_of_le inside valid.size_le)
        rw [decide_eq_true inside] at known
        exact known
    entries := by
      intro offset inside
      rw [toList_getElem? valid, if_pos inside]
      rfl }

theorem withCapacity (capacity : Nat) :
    (Ring.withCapacity capacity : Ring α).Shows (max 1 capacity) [] :=
  ⟨valid_withCapacity capacity, by rw [capacity_withCapacity, Nat.max_comm], rfl⟩

theorem length (shows : ring.Shows capacity items) : ring.size = items.length := by
  obtain ⟨valid, -, rfl⟩ := shows
  exact (length_toList valid).symm

theorem isFull_iff (shows : ring.Shows capacity items) :
    ring.isFull ↔ ¬items.length < capacity := by
  have bound := shows.1.size_le
  rw [shows.2.1, shows.length] at bound
  simp only [isFull, beq_iff_eq, shows.2.1, shows.length]
  omega

theorem fill (shows : ring.Shows capacity items) :
    service.fill ring = (Queue.service capacity).fill items := by
  have empty : ring.isEmpty = items.isEmpty := by
    rw [isEmpty, shows.length]
    cases items <;> rfl
  simp only [service, Queue.service, isFull, empty, shows.length, shows.2.1]

theorem add (shows : ring.Shows capacity items) (item : α) :
    (ring.add item).1 = (Queue.add capacity items item).1 ∧
      (ring.add item).2.Shows capacity (Queue.add capacity items item).2 := by
  have full := shows.isFull_iff
  obtain ⟨valid, hcapacity, hitems⟩ := shows
  have evicted := evicted_add valid item
  have entries := toList_add valid item
  rw [hitems] at evicted entries
  have keepsRoom : (ring.add item).2.capacity = capacity := by rw [capacity_add, hcapacity]
  by_cases room : items.length < capacity
  · have notFull : ¬ring.isFull := fun isFull => full.mp isFull room
    rw [if_neg notFull] at evicted entries
    rw [Queue.add, if_pos room]
    exact ⟨evicted, valid.add item, keepsRoom, entries⟩
  · have isFull : ring.isFull := full.mpr room
    rw [if_pos isFull] at evicted entries
    rw [Queue.add, if_neg room]
    exact ⟨evicted, valid.add item, keepsRoom, entries⟩

theorem pop (shows : ring.Shows capacity items) :
    ring.pop.1 = (Queue.pop items).1 ∧ ring.pop.2.Shows capacity (Queue.pop items).2 := by
  obtain ⟨valid, hcapacity, rfl⟩ := shows
  exact ⟨popped valid, valid.pop, by rw [capacity_pop, hcapacity], toList_pop valid⟩

/-- A ring and a queue put an entry back or refuse it together. -/
theorem requeue (shows : ring.Shows capacity items) (item : α) :
    (ring.requeue item = .error item ∧ Queue.requeue capacity items item = .error item) ∨
      ∃ next, ring.requeue item = .ok next ∧
        Queue.requeue capacity items item = .ok (item :: items) ∧
        next.Shows capacity (item :: items) := by
  have full := shows.isFull_iff
  obtain ⟨valid, hcapacity, hitems⟩ := shows
  by_cases room : items.length < capacity
  · right
    have notFull : ¬ring.isFull := fun isFull => full.mp isFull room
    obtain ⟨next, accepted⟩ : ∃ next, ring.requeue item = .ok next := ⟨_, if_neg notFull⟩
    refine ⟨next, accepted, if_pos room, valid.requeue accepted, ?_, ?_⟩
    · rw [capacity_requeue accepted, hcapacity]
    · rw [toList_requeue valid accepted, hitems]
  · left
    exact ⟨if_pos (full.mpr room), if_neg room⟩

end Shows

/-- A ring does to its entries what a queue does to a list. -/
theorem service_simulates (capacity : Nat) :
    (service : Service (Ring α) α).Simulates (Queue.service capacity) (Shows capacity) := by
  intro ring items shows
  refine ⟨shows.fill, fun request => ?_⟩
  cases request with
  | add item =>
      obtain ⟨evicted, next⟩ := shows.add item
      exact ⟨congrArg Reply.added evicted, next⟩
  | pop =>
      obtain ⟨popped, next⟩ := shows.pop
      exact ⟨congrArg Reply.popped popped, next⟩
  | requeue item =>
      rcases shows.requeue item with ⟨refused, modelRefused⟩ | ⟨next, accepted, modelAccepted, later⟩
      · simp only [Service.answer, service, Queue.service, refused, modelRefused]
        exact ⟨trivial, shows⟩
      · simp only [Service.answer, service, Queue.service, accepted, modelAccepted]
        exact ⟨trivial, later⟩

end Ring

namespace Backlog

variable {α : Type u}

/-- A shared backlog as a service; its ring is not seen. -/
def service : Service (Backlog α) α where
  add := add
  pop := pop
  requeue backlog item :=
    match backlog.requeue? item with
    | some next => .ok next
    | none => .error item
  fill backlog := Ring.service.fill backlog.ring

theorem requeue_eq_ok {backlog next : Backlog α} {item : α}
    (accepted : backlog.requeue? item = some next) :
    backlog.ring.requeue item = .ok next.ring := by
  unfold requeue? at accepted
  split at accepted
  · rename_i ring ringAccepted
    cases accepted
    exact ringAccepted
  · cases accepted

theorem isFull_of_requeue? {backlog : Backlog α} {item : α}
    (refused : backlog.requeue? item = none) : backlog.isFull := by
  by_cases full : backlog.isFull
  · exact full
  · obtain ⟨next, accepted, -⟩ := requeue?_of_room full item
    rw [refused] at accepted
    cases accepted

/-- A backlog answers as its ring does. -/
theorem service_simulates :
    (service : Service (Backlog α) α).Simulates Ring.service fun backlog ring =>
      backlog.ring = ring := by
  rintro backlog ring rfl
  refine ⟨rfl, fun request => ?_⟩
  cases request with
  | add item => exact ⟨rfl, rfl⟩
  | pop => exact ⟨rfl, rfl⟩
  | requeue item =>
      cases requeued : backlog.requeue? item with
      | some next =>
          simp only [Service.answer, service, Ring.service, requeued, requeue_eq_ok requeued]
          exact ⟨trivial, trivial⟩
      | none =>
          have refused : backlog.ring.requeue item = .error item :=
            if_pos (isFull_of_requeue? requeued)
          simp only [Service.answer, service, Ring.service, requeued, refused]
          exact ⟨trivial, trivial⟩

end Backlog

namespace Ring

variable {α : Type u}

/-- What a ring has to do with the queue that got the same requests. -/
structure ServesAsQueue (capacity : Nat) (requests : List (Request α)) (ring : Ring α)
    (items : List α) : Prop where
  /-- The replies are those of the queue, with the same fill after each of them. -/
  replies : (service.serve requests (withCapacity capacity)).1 =
    ((Queue.service (max 1 capacity)).serve requests []).1
  /-- Sharing the ring changes none of them. -/
  shared : (Backlog.service.serve requests (.withCapacity capacity)).1 =
    ((Queue.service (max 1 capacity)).serve requests []).1
  fill : service.fill ring = (Queue.service (max 1 capacity)).fill items
  /-- The entries are those of the queue, in the slots where they belong. -/
  holds : ring.Holds (max 1 capacity) items
  /-- A full ring always has an entry that makes room. -/
  evicts : ring.isFull → ∀ item, ∃ oldest,
    items.head? = some oldest ∧ (ring.add item).1 = some oldest
  /-- It refuses to take an entry back, and stays as it is. -/
  refuses : ring.isFull → ∀ item, service.answer ring (.requeue item) = (.refused item, ring)

/-- Whatever a client asks for, a ring is a queue to it. -/
theorem serves_as_queue (capacity : Nat) (requests : List (Request α)) :
    ServesAsQueue capacity requests
      (service.serve requests (withCapacity capacity)).2
      ((Queue.service (max 1 capacity)).serve requests []).2 := by
  have empty : (withCapacity capacity : Ring α).Shows (max 1 capacity) [] := .withCapacity capacity
  obtain ⟨replies, shows⟩ := (service_simulates (max 1 capacity)).serve requests empty
  have shared := (Backlog.service_simulates.serve requests
    (rfl : (Backlog.withCapacity capacity : Backlog α).ring = .withCapacity capacity)).1
  refine ⟨replies, shared.trans replies, shows.fill, shows.holds, ?_, ?_⟩
  · intro full item
    have room := shows.isFull_iff.mp full
    obtain ⟨evicted, -⟩ := shows.add item
    rw [Queue.add, if_neg room] at evicted
    have positive : 0 < max 1 capacity := Nat.lt_of_lt_of_le Nat.zero_lt_one (Nat.le_max_left ..)
    obtain ⟨oldest, younger, hitems⟩ := List.exists_cons_of_length_pos
      (Nat.lt_of_lt_of_le positive (Nat.le_of_not_lt room))
    rw [hitems] at evicted ⊢
    exact ⟨oldest, rfl, evicted⟩
  · exact answer_of_full

end Ring

end NodeTelemetry
