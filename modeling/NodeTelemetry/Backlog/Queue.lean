/-
# Bounded queues as lists

What a backlog is, without slots: a list of at most `capacity` entries. The ring does
the same to its entries as these operations do to the list.
-/

namespace NodeTelemetry.Queue

universe u
variable {α : Type u}

/-- Append an entry; a full queue loses its head, which is the result. -/
def add (capacity : Nat) (items : List α) (item : α) : Option α × List α :=
  if items.length < capacity then (none, items ++ [item])
  else (items.head?, items.tail ++ [item])

/-- Take the head out. -/
def pop (items : List α) : Option α × List α := (items.head?, items.tail)

/-- Put an entry in front, unless the queue is full. -/
def requeue (capacity : Nat) (items : List α) (item : α) : Except α (List α) :=
  if items.length < capacity then .ok (item :: items) else .error item

end NodeTelemetry.Queue
