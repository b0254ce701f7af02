/-
# Order of arrival

While nothing is handed over directly, snapshots leave the backlog in the order in
which they were added, also when sends fail and snapshots are put back. What carries
this is how a popped snapshot stands to the backlog: it comes right before the oldest
waiting one, or the backlog is full and will not take it back. A snapshot that fits in
again can therefore leave no gap and pass nobody.
-/

import NodeTelemetry.Proofs.Traffic.Numbering

namespace NodeTelemetry

universe u

namespace Cargo

variable {α : Type u} {cargo : Cargo (α × Nat)} {front next : Nat}

/-- Numbered cargo that is in order: the backlog holds the numbers from `front` to
`next`. -/
structure InOrder (front next : Nat) (cargo : Cargo (α × Nat)) : Prop where
  waiting : cargo.backlog.toList.map (·.2) = List.range' front cargo.backlog.length
  latest : front + cargo.backlog.length = next
  fresh : cargo.fresh = none
  increasing : (cargo.sent.map (·.2)).Pairwise (· < ·)
  sent_lt : ∀ item ∈ cargo.sent, item.2 < front
  lost_lt : ∀ item ∈ cargo.lost, item.2 < front
  popped_lt : ∀ item ∈ cargo.popped, item.2 < front
  sent_lt_popped : ∀ item ∈ cargo.popped, ∀ earlier ∈ cargo.sent, earlier.2 < item.2
  /-- A popped item that still fits in was the last one to leave. -/
  adjacent : ∀ item ∈ cargo.popped, cargo.backlog.isFull ∨
    item.2 + 1 = front ∧ ∀ other ∈ cargo.lost, other.2 < item.2

namespace InOrder

theorem empty (capacity : Nat) :
    InOrder 0 0 { backlog := .withCapacity capacity : Cargo (α × Nat) } where
  waiting := rfl
  latest := rfl
  fresh := rfl
  increasing := .nil
  sent_lt := List.forall_mem_nil _
  lost_lt := List.forall_mem_nil _
  popped_lt := fun _ hheld => by cases hheld
  sent_lt_popped := fun _ hheld => by cases hheld
  adjacent := fun _ hheld => by cases hheld

/-- The oldest waiting item has the number `front`, and those after it follow. -/
theorem oldest (ordered : cargo.InOrder front next) {oldest : α × Nat}
    {younger : List (α × Nat)} (hwaiting : cargo.backlog.toList = oldest :: younger) :
    oldest.2 = front ∧ younger.map (·.2) = List.range' (front + 1) younger.length ∧
      cargo.backlog.length = younger.length + 1 := by
  have length : cargo.backlog.length = younger.length + 1 := by
    rw [← Backlog.length_toList, hwaiting, List.length_cons]
  have numbers := ordered.waiting
  rw [hwaiting, length, List.range'_succ, List.map_cons] at numbers
  obtain ⟨first, others⟩ := List.cons.inj numbers
  exact ⟨first, others, length⟩

/-- In a full backlog the next number takes the place of the oldest one, wherever that
ends up. -/
theorem append_full (ordered : cargo.InOrder front next) (full : cargo.backlog.isFull)
    (item : α) {dropped : List ((α × Nat) × Log.DropReason)} {displaced : List (α × Nat)}
    (hlost : ∀ other ∈ dropped.map (·.1) ++ displaced,
      other ∈ cargo.lost ∨ (cargo.backlog.add (item, next)).1 = some other) :
    InOrder (front + 1) (next + 1)
      { cargo with backlog := (cargo.backlog.add (item, next)).2, dropped, displaced } := by
  obtain ⟨oldest, younger, hwaiting⟩ := Backlog.exists_oldest full
  obtain ⟨first, others, length⟩ := ordered.oldest hwaiting
  have latest := ordered.latest
  have waiting : (cargo.backlog.add (item, next)).2.toList = younger ++ [(item, next)] := by
    rw [Backlog.toList_add, if_pos full, hwaiting, List.tail_cons]
  have same : (cargo.backlog.add (item, next)).2.length = cargo.backlog.length := by
    rw [← Backlog.length_toList, waiting, List.length_append, length]
    rfl
  rw [Backlog.evicted_add, if_pos full, hwaiting, List.head?_cons] at hlost
  exact {
    waiting := by
      have last : next = front + 1 + 1 * younger.length := by omega
      change (cargo.backlog.add (item, next)).2.toList.map _ =
        List.range' _ (cargo.backlog.add (item, next)).2.length
      rw [waiting, same, length, List.range'_concat, List.map_append, others, ← last]
      rfl
    latest := by
      change front + 1 + (cargo.backlog.add (item, next)).2.length = next + 1
      omega
    fresh := ordered.fresh
    increasing := ordered.increasing
    sent_lt := fun earlier hearlier => Nat.lt_succ_of_lt (ordered.sent_lt earlier hearlier)
    lost_lt := by
      intro other hother
      rcases hlost other hother with before | evicted
      · exact Nat.lt_succ_of_lt (ordered.lost_lt other before)
      · cases evicted
        omega
    popped_lt := fun held hheld => Nat.lt_succ_of_lt (ordered.popped_lt held hheld)
    sent_lt_popped := ordered.sent_lt_popped
    adjacent := by
      intro held hheld
      left
      rw [Backlog.isFull_iff, same, Backlog.capacity_add]
      exact Backlog.isFull_iff _ |>.mp full }

/-- While there is room, the next number comes after all others and nothing has to go. -/
theorem append_room (ordered : cargo.InOrder front next) (room : ¬cargo.backlog.isFull)
    (item : α) {dropped : List ((α × Nat) × Log.DropReason)} {displaced : List (α × Nat)}
    (hlost : ∀ other ∈ dropped.map (·.1) ++ displaced,
      other ∈ cargo.lost ∨ (cargo.backlog.add (item, next)).1 = some other) :
    InOrder front (next + 1)
      { cargo with backlog := (cargo.backlog.add (item, next)).2, dropped, displaced } := by
  have latest := ordered.latest
  have waiting : (cargo.backlog.add (item, next)).2.toList =
      cargo.backlog.toList ++ [(item, next)] := by
    rw [Backlog.toList_add, if_neg room]
  have longer : (cargo.backlog.add (item, next)).2.length = cargo.backlog.length + 1 := by
    rw [← Backlog.length_toList, waiting, List.length_append, Backlog.length_toList]
    rfl
  rw [Backlog.evicted_add, if_neg room] at hlost
  have known : ∀ other ∈ dropped.map (·.1) ++ displaced, other ∈ cargo.lost := by
    intro other hother
    rcases hlost other hother with before | evicted
    · exact before
    · cases evicted
  exact {
    waiting := by
      change (cargo.backlog.add (item, next)).2.toList.map _ =
        List.range' _ (cargo.backlog.add (item, next)).2.length
      rw [waiting, longer, List.range'_concat, List.map_append, ordered.waiting, Nat.one_mul,
        latest]
      rfl
    latest := by
      change front + (cargo.backlog.add (item, next)).2.length = next + 1
      omega
    fresh := ordered.fresh
    increasing := ordered.increasing
    sent_lt := ordered.sent_lt
    lost_lt := fun other hother => ordered.lost_lt other (known other hother)
    popped_lt := ordered.popped_lt
    sent_lt_popped := ordered.sent_lt_popped
    adjacent := by
      intro held hheld
      right
      obtain ⟨close, above⟩ := (ordered.adjacent held hheld).resolve_left room
      exact ⟨close, fun other hother => above other (known other hother)⟩ }

theorem append (ordered : cargo.InOrder front next) (item : α)
    {dropped : List ((α × Nat) × Log.DropReason)} {displaced : List (α × Nat)}
    (hlost : ∀ other ∈ dropped.map (·.1) ++ displaced,
      other ∈ cargo.lost ∨ (cargo.backlog.add (item, next)).1 = some other) :
    ∃ front, InOrder front (next + 1)
      { cargo with backlog := (cargo.backlog.add (item, next)).2, dropped, displaced } := by
  by_cases full : cargo.backlog.isFull
  · exact ⟨_, ordered.append_full full item hlost⟩
  · exact ⟨_, ordered.append_room full item hlost⟩

/-- A popped item is the last one to leave. -/
theorem pop (ordered : cargo.InOrder front next) : ∃ front, cargo.pop.InOrder front next := by
  rcases cargo.pop_cases with ⟨-, stays⟩ | ⟨oldest, backlog, hwaiting, -, popped⟩
  · rw [stays]
    exact ⟨front, ordered⟩
  · obtain ⟨first, others, length⟩ := ordered.oldest hwaiting
    rw [Backlog.length_toList] at others length
    have latest := ordered.latest
    rw [popped]
    refine ⟨front + 1, ?_⟩
    exact {
      waiting := others
      latest := by
        change front + 1 + backlog.length = next
        omega
      fresh := ordered.fresh
      increasing := ordered.increasing
      sent_lt := fun earlier hearlier => Nat.lt_succ_of_lt (ordered.sent_lt earlier hearlier)
      lost_lt := fun other hother => Nat.lt_succ_of_lt (ordered.lost_lt other hother)
      popped_lt := by
        intro held hheld
        cases hheld
        omega
      sent_lt_popped := by
        intro held hheld earlier hearlier
        cases hheld
        rw [first]
        exact ordered.sent_lt earlier hearlier
      adjacent := by
        intro held hheld
        cases hheld
        right
        refine ⟨by rw [first], fun other hother => ?_⟩
        rw [first]
        exact ordered.lost_lt other hother }

/-- What is in flight is popped, as nothing was handed over. -/
theorem carried (ordered : cargo.InOrder front next) : cargo.carried = cargo.popped := by
  unfold Cargo.carried
  rw [ordered.fresh, Option.or_none]

/-- A stream that takes the popped item takes it after all those that it has. -/
theorem deliver (ordered : cargo.InOrder front next) : cargo.deliver.InOrder front next := by
  have hcarried := ordered.carried
  unfold Cargo.deliver
  cases hpopped : cargo.popped with
  | none =>
      rw [hcarried, hpopped, release_fresh hpopped, Option.toList_none, List.append_nil]
      exact { ordered with fresh := rfl }
  | some item =>
      have older := ordered.sent_lt_popped item hpopped
      rw [hcarried, hpopped, release_popped hpopped, Option.toList_some]
      exact { ordered with
        increasing := by
          rw [List.map_append, List.pairwise_append]
          refine ⟨ordered.increasing, List.pairwise_singleton _ _, ?_⟩
          intro earlier hearlier latest hlatest
          obtain ⟨first, hfirst, rfl⟩ := List.mem_map.mp hearlier
          obtain rfl := List.mem_singleton.mp hlatest
          exact older first hfirst
        sent_lt := by
          intro earlier hearlier
          rcases List.mem_append.mp hearlier with before | latest
          · exact ordered.sent_lt earlier before
          · obtain rfl := List.mem_singleton.mp latest
            exact ordered.popped_lt earlier hpopped
        popped_lt := fun _ hheld => by cases hheld
        sent_lt_popped := fun _ hheld => by cases hheld
        adjacent := fun _ hheld => by cases hheld }

/-- The popped item goes back to its place or is lost. -/
theorem putBack (ordered : cargo.InOrder front next) :
    ∃ front, cargo.putBack.InOrder front next := by
  have hcarried := ordered.carried
  cases hpopped : cargo.popped with
  | none =>
      rw [hpopped] at hcarried
      rw [putBack_none hcarried]
      exact ⟨front, ordered⟩
  | some item =>
      rw [hpopped] at hcarried
      by_cases full : cargo.backlog.isFull
      · refine ⟨front, ?_⟩
        rw [putBack_full hcarried full, release_popped hpopped]
        exact { ordered with
          lost_lt := by
            intro other hother
            simp only [lost, List.map_append, List.map_cons, List.map_nil,
              List.append_assoc, List.mem_append, List.mem_singleton] at hother
            rcases hother with before | rfl | before
            · exact ordered.lost_lt other (List.mem_append_left _ before)
            · exact ordered.popped_lt other hpopped
            · exact ordered.lost_lt other (List.mem_append_right _ before)
          popped_lt := fun _ hheld => by cases hheld
          sent_lt_popped := fun _ hheld => by cases hheld
          adjacent := fun _ hheld => by cases hheld }
      · obtain ⟨backlog, accepted, hwaiting, -⟩ := putBack_room hcarried full
        obtain ⟨close, above⟩ := (ordered.adjacent item hpopped).resolve_left full
        have longer : backlog.length = cargo.backlog.length + 1 := by
          rw [← Backlog.length_toList, hwaiting, List.length_cons, Backlog.length_toList]
        have latest := ordered.latest
        refine ⟨item.2, ?_⟩
        rw [accepted, release_popped hpopped]
        exact {
          waiting := by
            rw [hwaiting, longer, List.range'_succ, List.map_cons, ordered.waiting, close]
          latest := by
            change item.2 + backlog.length = next
            omega
          fresh := ordered.fresh
          increasing := ordered.increasing
          sent_lt := ordered.sent_lt_popped item hpopped
          lost_lt := above
          popped_lt := fun _ hheld => by cases hheld
          sent_lt_popped := fun _ hheld => by cases hheld
          adjacent := fun _ hheld => by cases hheld }

/-- No move breaks the order, provided that nothing is handed over and that what is
added gets the next number. -/
theorem apply (ordered : cargo.InOrder front next) (move : Move α)
    (notHanded : ∀ item, move ≠ .handOver (some item)) :
    ∃ front, (cargo.apply (move.number next)).InOrder front (next + move.entering.length) := by
  cases move with
  | stay => exact ⟨front, ordered⟩
  | handOver fresh =>
      cases fresh with
      | none => exact ⟨front, { ordered with fresh := rfl }⟩
      | some item => exact absurd rfl (notHanded item)
  | add item =>
      refine ordered.append item fun other hother => ?_
      simp only [List.map_append, List.map_map, Function.comp_def, List.map_id', List.mem_append,
        Option.mem_toList, or_assoc] at hother
      rcases hother with before | evicted | before
      · exact .inl (List.mem_append_left _ before)
      · exact .inr evicted
      · exact .inl (List.mem_append_right _ before)
  | offer item =>
      refine ordered.append item fun other hother => ?_
      simp only [List.mem_append, Option.mem_toList] at hother
      rcases hother with before | before | evicted
      · exact .inl (List.mem_append_left _ before)
      · exact .inl (List.mem_append_right _ before)
      · exact .inr evicted
  | pop => exact ordered.pop
  | deliver => exact ⟨front, ordered.deliver⟩
  | putBack => exact ordered.putBack
  | keep =>
      refine ⟨front, ?_⟩
      change cargo.keep.InOrder front next
      rw [keep_none ordered.fresh]
      exact ordered

end InOrder

end Cargo

/-- Entries of a list under consecutive numbers up to its end are the end of the list. -/
private theorem eq_drop_zipIdx {α : Type u} {entries : List α} {front : Nat}
    {waiting : List (α × Nat)} (known : ∀ item ∈ waiting, item ∈ entries.zipIdx)
    (numbers : waiting.map (·.2) = List.range' front waiting.length)
    (length : front + waiting.length = entries.length) :
    waiting = entries.zipIdx.drop front := by
  apply List.ext_getElem
  · rw [List.length_drop, List.length_zipIdx]
    omega
  · intro index inWaiting inEntries
    have number : waiting[index].2 = front + index := by
      have hnumber := congrArg (·[index]?) numbers
      simpa [inWaiting] using hnumber
    have entry := List.mem_zipIdx_iff_getElem?.mp (known _ (List.getElem_mem inWaiting))
    rw [List.getElem_drop, List.getElem_zipIdx]
    rw [number] at entry
    obtain ⟨_, hentry⟩ := List.getElem?_eq_some_iff.mp entry
    ext
    · exact hentry.symm
    · rw [number]
      exact (Nat.zero_add _).symm

namespace Traffic

variable {traffic : Traffic} {epoch : Int64} {capacity : Nat} {backoff : Backoff}

namespace Run

/-- The numbered cargo of a run is in order. -/
theorem numbered_inOrder (run : Run (initial epoch capacity backoff) traffic)
    (unprompted : run.collect handing = []) :
    ∃ front, run.numbered.InOrder front run.added.length := by
  induction run with
  | start => exact ⟨0, .empty _⟩
  | extend run act step ih =>
      rename_i before after
      obtain ⟨earlier, latest⟩ := List.append_eq_nil_iff.mp unprompted
      obtain ⟨front, ordered⟩ := ih earlier
      have notHanded : ∀ snapshot, before.move act ≠ .handOver (some snapshot) := by
        intro snapshot handed
        have fresh := step.seen.handing _ handed
        rw [latest] at fresh
        cases fresh
      have entered : (before.move act).entering = before.adding act := by
        rw [step.seen.entering, entering, latest, List.nil_append]
      have moved := ordered.apply (before.move act) notHanded
      rw [entered, ← List.length_append] at moved
      exact moved

/-- The order of a run, in terms of the numbers under which snapshots were added. -/
structure InOrder (run : Run (initial epoch capacity backoff) traffic) : Prop where
  /-- Each added snapshot is in one place of the numbered cargo, under its number. -/
  numbered : run.numbered.content = (run.added.zipIdx : Multiset (Snapshot × Nat))
  /-- The snapshots that streams took have the numbers that were sent, ... -/
  taken : run.collect taking = run.numbered.sent.map (·.1)
  /-- ... those that were lost or returned have the numbers that were lost, ... -/
  gone : (run.collect losing).map (·.1) ++ run.collect returning = run.numbered.lost.map (·.1)
  /-- ... and the popped one has the popped number. -/
  held : traffic.progress.popped? = run.numbered.popped.map (·.1)
  /-- The backlog holds the snapshots that were added last, in order. -/
  latest : traffic.hub.backlog.toList =
    run.added.drop (run.added.length - traffic.hub.backlog.length)
  /-- They have the last numbers. -/
  latest_numbered : run.numbered.backlog.toList =
    run.added.zipIdx.drop (run.added.length - traffic.hub.backlog.length)
  /-- Streams take snapshots by increasing numbers: none twice, and none after a newer
  one. -/
  increasing : (run.numbered.sent.map (·.2)).Pairwise (· < ·)
  /-- What has left has a smaller number than what waits. -/
  older : ∀ item ∈ run.numbered.sent ++ run.numbered.lost ++ run.numbered.popped.toList,
    ∀ waiting ∈ run.numbered.backlog.toList, item.2 < waiting.2

/-- Snapshots keep the order in which they were added across all failures, provided that
none comes to the courier past the backlog. -/
theorem keeps_order (run : Run (initial epoch capacity backoff) traffic)
    (unprompted : run.collect handing = []) : run.InOrder := by
  have shown := run.numbered_shows
  have content := run.numbered_content unprompted
  obtain ⟨front, ordered⟩ := run.numbered_inOrder unprompted
  have same : traffic.hub.backlog.length = run.numbered.backlog.length := shown.length
  have latest := ordered.latest
  have first : run.added.length - traffic.hub.backlog.length = front := by omega
  have known : ∀ item ∈ run.numbered.backlog.toList, item ∈ run.added.zipIdx := by
    intro item hitem
    rw [← Multiset.mem_coe, ← content]
    exact Cargo.mem_content hitem
  have numbered : run.numbered.backlog.toList =
      run.added.zipIdx.drop (run.added.length - traffic.hub.backlog.length) := by
    apply eq_drop_zipIdx known
    · rw [first, ordered.waiting, Backlog.length_toList]
    · rw [first, Backlog.length_toList, latest]
  refine ⟨content, ?_, ?_, shown.popped, ?_, numbered, ordered.increasing, ?_⟩
  · rw [← run.sent_eq]
    exact shown.sent
  · rw [← run.dropped_eq, ← run.displaced_eq]
    exact shown.lost
  · calc
      traffic.hub.backlog.toList
        = run.numbered.backlog.toList.map Prod.fst := shown.backlog
      _ = (run.added.zipIdx.map Prod.fst).drop
            (run.added.length - traffic.hub.backlog.length) := by
          rw [numbered, List.map_drop]
      _ = run.added.drop (run.added.length - traffic.hub.backlog.length) := by
          rw [List.zipIdx_map_fst]
  · intro item hitem waiting hwaiting
    have notBefore : front ≤ waiting.2 := by
      have hnumber := List.mem_map_of_mem (f := (·.2)) hwaiting
      rw [ordered.waiting] at hnumber
      exact (List.mem_range'_1.mp hnumber).1
    rcases List.mem_append.mp hitem with hgone | hpopped
    · rcases List.mem_append.mp hgone with hsent | hlost
      · exact Nat.lt_of_lt_of_le (ordered.sent_lt item hsent) notBefore
      · exact Nat.lt_of_lt_of_le (ordered.lost_lt item hlost) notBefore
    · exact Nat.lt_of_lt_of_le (ordered.popped_lt item (Option.mem_toList.mp hpopped)) notBefore

/-- The second of three snapshots is sent although the first one was lost. -/
theorem crowded_keeps_order :
    crowded.2.collect handing = [] ∧ crowded.2.InOrder ∧
      crowded.2.numbered.lost = [(.bare 1, 0)] ∧ crowded.2.numbered.sent = [(.bare 2, 1)] :=
  ⟨rfl, keeps_order crowded.2 rfl, rfl, rfl⟩

end Run

end Traffic

end NodeTelemetry
