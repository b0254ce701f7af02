/-
# Cargo

Cargo is what there is to say about snapshots on their way: which ones wait in the
backlog, which ones a call holds, and how the others left. Links, clocks and health
do not show in it, so each step of a courier or of the others on its hub comes down to
one of a few moves.

Cargo does not look into what it carries. The same moves are therefore made with
snapshots and with the numbers that stand for them.
-/

import Mathlib.Algebra.Order.Group.Multiset
import Mathlib.Tactic.Abel
import NodeTelemetry.Backlog.Basic
import NodeTelemetry.Log.Notice

namespace NodeTelemetry

universe u

/-- Items that wait, that are held by a call, and that have left. -/
structure Cargo (α : Type u) where
  backlog : Backlog α
  /-- The item that was taken out of the backlog to be sent. -/
  popped : Option α := none
  /-- The item that was handed to the call directly. -/
  fresh : Option α := none
  sent : List α := []
  /-- Items that were lost, with the reasons that were reported. -/
  dropped : List (α × Log.DropReason) := []
  /-- Items that were returned to those who added others in their place. -/
  displaced : List α := []

/-- What can happen to cargo. -/
inductive Move (α : Type u) where
  | stay
  /-- A call begins, perhaps with a fresh item. -/
  | handOver (fresh : Option α)
  /-- An item is added, and what is lost by it is reported. -/
  | add (item : α)
  /-- An item is added, and what is lost by it is returned. -/
  | offer (item : α)
  /-- The oldest waiting item is taken out. -/
  | pop
  /-- The item in flight is taken by the stream. -/
  | deliver
  /-- The item in flight goes back to the front of the backlog. -/
  | putBack
  /-- The fresh item goes to the end of the backlog. -/
  | keep

namespace Move

variable {α : Type u}

/-- The items that come in with a move. -/
def entering : Move α → List α
  | .handOver fresh => fresh.toList
  | .add item => [item]
  | .offer item => [item]
  | _ => []

end Move

namespace Cargo

variable {α : Type u}

/-- The item in flight; while there is a popped one, the fresh one has to wait. -/
def carried (cargo : Cargo α) : Option α := cargo.popped.or cargo.fresh

/-- Nothing is in flight any more. -/
def release (cargo : Cargo α) : Cargo α :=
  match cargo.popped with
  | some _ => { cargo with popped := none }
  | none => { cargo with fresh := none }

def add (item : α) (cargo : Cargo α) : Cargo α :=
  { cargo with
    backlog := (cargo.backlog.add item).2
    dropped := cargo.dropped ++ (cargo.backlog.add item).1.toList.map (·, .overwritten) }

def offer (item : α) (cargo : Cargo α) : Cargo α :=
  { cargo with
    backlog := (cargo.backlog.add item).2
    displaced := cargo.displaced ++ (cargo.backlog.add item).1.toList }

def pop (cargo : Cargo α) : Cargo α :=
  match cargo.backlog.pop with
  | (none, _) => cargo
  | (some item, backlog) => { cargo with backlog, popped := some item }

def deliver (cargo : Cargo α) : Cargo α :=
  { cargo.release with sent := cargo.sent ++ cargo.carried.toList }

def putBack (cargo : Cargo α) : Cargo α :=
  match cargo.carried with
  | none => cargo
  | some item =>
    match cargo.backlog.requeue? item with
    | some backlog => { cargo.release with backlog }
    | none => { cargo.release with dropped := cargo.dropped ++ [(item, .requeueOverflow)] }

def keep (cargo : Cargo α) : Cargo α :=
  match cargo.fresh with
  | none => cargo
  | some item => { cargo.add item with fresh := none }

/-- Make a move. -/
def apply (move : Move α) (cargo : Cargo α) : Cargo α :=
  match move with
  | .stay => cargo
  | .handOver fresh => { cargo with fresh }
  | .add item => cargo.add item
  | .offer item => cargo.offer item
  | .pop => cargo.pop
  | .deliver => cargo.deliver
  | .putBack => cargo.putBack
  | .keep => cargo.keep

/-- The item that arrives by a move. -/
def delivering (cargo : Cargo α) : Move α → List α
  | .deliver => cargo.carried.toList
  | _ => []

/-- The item that is lost by a move and reported. -/
def losing (cargo : Cargo α) : Move α → List (α × Log.DropReason)
  | .add item => (cargo.backlog.add item).1.toList.map (·, .overwritten)
  | .keep => cargo.fresh.toList.flatMap fun item =>
      (cargo.backlog.add item).1.toList.map (·, .overwritten)
  | .putBack =>
      if cargo.backlog.isFull then cargo.carried.toList.map (·, .requeueOverflow) else []
  | _ => []

/-- The item that is returned by a move. -/
def returning (cargo : Cargo α) : Move α → List α
  | .offer item => (cargo.backlog.add item).1.toList
  | _ => []

/-- Items that did not arrive, in no order across the two ways of losing them. -/
def lost (cargo : Cargo α) : List α := cargo.dropped.map (·.1) ++ cargo.displaced

/-! ## What has left stays written down -/

@[simp]
theorem release_backlog (cargo : Cargo α) : cargo.release.backlog = cargo.backlog := by
  unfold release
  split <;> rfl

@[simp]
theorem release_sent (cargo : Cargo α) : cargo.release.sent = cargo.sent := by
  unfold release
  split <;> rfl

@[simp]
theorem release_dropped (cargo : Cargo α) : cargo.release.dropped = cargo.dropped := by
  unfold release
  split <;> rfl

@[simp]
theorem release_displaced (cargo : Cargo α) : cargo.release.displaced = cargo.displaced := by
  unfold release
  split <;> rfl

theorem release_popped {cargo : Cargo α} {item : α} (hpopped : cargo.popped = some item) :
    cargo.release = { cargo with popped := none } := by
  unfold release
  rw [hpopped]

theorem release_fresh {cargo : Cargo α} (hpopped : cargo.popped = none) :
    cargo.release = { cargo with fresh := none } := by
  unfold release
  rw [hpopped]

theorem putBack_none {cargo : Cargo α} (hcarried : cargo.carried = none) :
    cargo.putBack = cargo := by
  unfold putBack
  rw [hcarried]

/-- A full backlog takes nothing back. -/
theorem putBack_full {cargo : Cargo α} {item : α} (hcarried : cargo.carried = some item)
    (full : cargo.backlog.isFull) :
    cargo.putBack =
      { cargo.release with dropped := cargo.dropped ++ [(item, .requeueOverflow)] } := by
  unfold putBack
  rw [hcarried]
  simp only [Backlog.requeue?_of_full full]

/-- While there is room, the item in flight becomes the oldest waiting one again. -/
theorem putBack_room {cargo : Cargo α} {item : α} (hcarried : cargo.carried = some item)
    (room : ¬cargo.backlog.isFull) :
    ∃ backlog, cargo.putBack = { cargo.release with backlog } ∧
      backlog.toList = item :: cargo.backlog.toList ∧
      backlog.capacity = cargo.backlog.capacity := by
  obtain ⟨backlog, accepted, hwaiting, hcapacity⟩ := Backlog.requeue?_of_room room item
  refine ⟨backlog, ?_, hwaiting, hcapacity⟩
  unfold putBack
  rw [hcarried]
  simp only [accepted]

theorem keep_none {cargo : Cargo α} (hfresh : cargo.fresh = none) : cargo.keep = cargo := by
  unfold keep
  rw [hfresh]

theorem keep_some {cargo : Cargo α} {item : α} (hfresh : cargo.fresh = some item) :
    cargo.keep = { cargo.add item with fresh := none } := by
  unfold keep
  rw [hfresh]

/-- Popping takes the oldest waiting item, if there is one. -/
theorem pop_cases (cargo : Cargo α) :
    (cargo.backlog.toList = [] ∧ cargo.pop = cargo) ∨
      ∃ oldest backlog, cargo.backlog.toList = oldest :: backlog.toList ∧
        backlog.capacity = cargo.backlog.capacity ∧
        cargo.pop = { cargo with backlog, popped := some oldest } := by
  have popped := cargo.backlog.pop_cases
  have capacity := cargo.backlog.capacity_pop
  unfold pop
  generalize cargo.backlog.pop = next at popped capacity ⊢
  obtain ⟨oldest, backlog⟩ := next
  rcases popped with ⟨empty, rfl⟩ | ⟨oldest, rfl, waiting⟩
  · exact .inl ⟨empty, rfl⟩
  · exact .inr ⟨oldest, backlog, waiting, capacity, rfl⟩

/-- What a move adds to the records of what has left. It changes nothing about the room
in the backlog. -/
structure Recorded (before : Cargo α) (move : Move α) (after : Cargo α) : Prop where
  sent : after.sent = before.sent ++ before.delivering move
  dropped : after.dropped = before.dropped ++ before.losing move
  displaced : after.displaced = before.displaced ++ before.returning move
  capacity : after.backlog.capacity = before.backlog.capacity

variable (move : Move α) (cargo : Cargo α)

theorem recorded : cargo.Recorded move (cargo.apply move) := by
  have nil := fun {β : Type u} (items : List β) => (List.append_nil items).symm
  cases move with
  | stay => exact ⟨nil _, nil _, nil _, rfl⟩
  | handOver fresh => exact ⟨nil _, nil _, nil _, rfl⟩
  | add item => exact ⟨nil _, rfl, nil _, cargo.backlog.capacity_add item⟩
  | offer item => exact ⟨nil _, nil _, rfl, cargo.backlog.capacity_add item⟩
  | deliver =>
      exact ⟨rfl, cargo.release_dropped.trans (nil _), cargo.release_displaced.trans (nil _),
        congrArg Backlog.capacity cargo.release_backlog⟩
  | pop =>
      rcases cargo.pop_cases with ⟨-, stays⟩ | ⟨oldest, backlog, -, capacity, popped⟩
      · rw [apply, stays]
        exact ⟨nil _, nil _, nil _, rfl⟩
      · rw [apply, popped]
        exact ⟨nil _, nil _, nil _, capacity⟩
  | putBack =>
      cases hcarried : cargo.carried with
      | none =>
          have lost : cargo.losing .putBack = [] := by
            simp only [losing, hcarried, Option.toList_none, List.map_nil, ite_self]
          rw [apply, putBack_none hcarried]
          exact ⟨nil _, by rw [lost, List.append_nil], nil _, rfl⟩
      | some item =>
          have lost : cargo.losing .putBack =
              if cargo.backlog.isFull then [(item, .requeueOverflow)] else [] := by
            simp only [losing, hcarried, Option.toList_some, List.map_cons, List.map_nil]
          by_cases full : cargo.backlog.isFull
          · rw [apply, putBack_full hcarried full]
            exact ⟨cargo.release_sent.trans (nil _), by rw [lost, if_pos full],
              cargo.release_displaced.trans (nil _),
              congrArg Backlog.capacity cargo.release_backlog⟩
          · obtain ⟨backlog, accepted, -, capacity⟩ := putBack_room hcarried full
            rw [apply, accepted]
            refine ⟨cargo.release_sent.trans (nil _), ?_, cargo.release_displaced.trans (nil _),
              capacity⟩
            rw [lost, if_neg full, List.append_nil]
            exact cargo.release_dropped
  | keep =>
      cases hfresh : cargo.fresh with
      | none =>
          have lost : cargo.losing .keep = [] := by
            rw [losing, hfresh]
            rfl
          rw [apply, keep_none hfresh]
          exact ⟨nil _, by rw [lost, List.append_nil], nil _, rfl⟩
      | some item =>
          have lost : cargo.losing .keep =
              (cargo.backlog.add item).1.toList.map (·, .overwritten) := by
            rw [losing, hfresh]
            exact List.append_nil _
          rw [apply, keep_some hfresh]
          exact ⟨nil _, by rw [lost]; rfl, nil _, cargo.backlog.capacity_add item⟩

/-! ## Nothing gets lost unsaid -/

/-- All items, wherever they are. -/
def content (cargo : Cargo α) : Multiset α :=
  (cargo.sent : Multiset α) + (cargo.backlog.toList : Multiset α) +
    (cargo.popped.toList : Multiset α) + (cargo.fresh.toList : Multiset α) +
    (cargo.lost : Multiset α)

theorem mem_content {item : α} {cargo : Cargo α} (hitem : item ∈ cargo.backlog.toList) :
    item ∈ cargo.content := by
  simp only [content, Multiset.mem_add, Multiset.mem_coe]
  exact .inl (.inl (.inl (.inr hitem)))

/-- A move that would write over an item that is held is not ready. -/
def Ready (cargo : Cargo α) : Move α → Prop
  | .handOver _ => cargo.fresh = none
  | .pop => cargo.popped = none
  | _ => True

private theorem coe_cons (item : α) (items : List α) :
    ((item :: items : List α) : Multiset α) = {item} + (items : Multiset α) := by
  rw [Multiset.singleton_add, Multiset.cons_coe]

/-- What a backlog loses when an item is added is what it returns. -/
theorem add_conserves (backlog : Backlog α) (item : α) :
    ((backlog.add item).2.toList : Multiset α) + ((backlog.add item).1.toList : Multiset α) =
      (backlog.toList : Multiset α) + {item} := by
  rw [backlog.toList_add, backlog.evicted_add]
  by_cases full : backlog.isFull
  · obtain ⟨oldest, younger, hwaiting⟩ := Backlog.exists_oldest full
    rw [if_pos full, if_pos full, hwaiting, coe_cons, ← Multiset.coe_add]
    simp only [List.tail_cons, List.head?_cons, Option.toList_some, Multiset.coe_singleton]
    abel
  · rw [if_neg full, if_neg full, ← Multiset.coe_add]
    simp only [Option.toList_none, Multiset.coe_singleton, Multiset.coe_nil, add_zero]

/-- An item in flight is held either as the popped or as the fresh one. -/
theorem release_conserves (cargo : Cargo α) :
    (cargo.release.popped.toList : Multiset α) + (cargo.release.fresh.toList : Multiset α) +
        (cargo.carried.toList : Multiset α) =
      (cargo.popped.toList : Multiset α) + (cargo.fresh.toList : Multiset α) := by
  unfold release carried
  cases cargo.popped with
  | none => simp
  | some item =>
      simp only [Option.toList_none, Multiset.coe_nil, zero_add, Option.some_or]
      exact add_comm _ _

theorem content_add (item : α) (cargo : Cargo α) :
    (cargo.add item).content = cargo.content + {item} := by
  have conserved := add_conserves cargo.backlog item
  simp only [add, content, lost, List.map_append, List.map_map, Function.comp_def, List.map_id',
    ← Multiset.coe_add]
  grind

/-- Every move keeps all items and takes in those that come with it. -/
theorem content_apply (ready : cargo.Ready move) :
    (cargo.apply move).content = cargo.content + (move.entering : Multiset α) := by
  cases move with
  | stay => simp [apply, Move.entering]
  | handOver fresh =>
      have empty : cargo.fresh = none := ready
      simp only [apply, content, lost, Move.entering, empty, Option.toList_none,
        Multiset.coe_nil]
      abel
  | add item => exact content_add item cargo
  | offer item =>
      have conserved := add_conserves cargo.backlog item
      simp only [apply, offer, content, lost, Move.entering, ← Multiset.coe_add,
        Multiset.coe_singleton]
      grind
  | pop =>
      have empty : cargo.popped = none := ready
      simp only [apply, Move.entering, Multiset.coe_nil, add_zero]
      rcases cargo.pop_cases with ⟨-, stays⟩ | ⟨oldest, backlog, hwaiting, -, popped⟩
      · rw [stays]
      · simp only [popped, content, lost, empty, hwaiting, coe_cons, Option.toList_some,
          Option.toList_none, Multiset.coe_nil]
        abel
  | deliver =>
      have conserved := release_conserves cargo
      simp only [apply, deliver, content, lost, Move.entering, release_backlog, release_dropped,
        release_displaced, ← Multiset.coe_add, Multiset.coe_nil, add_zero]
      grind
  | putBack =>
      have conserved := release_conserves cargo
      simp only [apply, Move.entering, Multiset.coe_nil, add_zero]
      cases hcarried : cargo.carried with
      | none => rw [putBack_none hcarried]
      | some item =>
          rw [hcarried] at conserved
          by_cases full : cargo.backlog.isFull
          · simp only [putBack_full hcarried full, content, lost, release_sent,
              release_backlog, release_displaced, List.map_append, ← Multiset.coe_add]
            simp only [Option.toList_some, List.map_cons, List.map_nil] at conserved ⊢
            grind
          · obtain ⟨backlog, accepted, hwaiting, -⟩ := putBack_room hcarried full
            simp only [accepted, content, lost, release_sent, release_dropped,
              release_displaced, hwaiting, coe_cons]
            simp only [Option.toList_some, Multiset.coe_singleton] at conserved
            grind
  | keep =>
      simp only [apply, Move.entering, Multiset.coe_nil, add_zero]
      cases hfresh : cargo.fresh with
      | none => rw [keep_none hfresh]
      | some item =>
          have held : ({ cargo.add item with fresh := none } : Cargo α).content + {item} =
              (cargo.add item).content := by
            simp only [content, lost, add, hfresh, Option.toList_some, Option.toList_none,
              Multiset.coe_singleton, Multiset.coe_nil]
            abel
          rw [keep_some hfresh]
          exact add_right_cancel (held.trans (content_add item cargo))

end Cargo

end NodeTelemetry
