/-
# What a collection leaves

Others can tell from four stores what was collected: the backlog, the metrics, the log and
the health registry. A collection that has ended changes all of them, each from its own
findings and from how full the backlog was. That a collection has begun, or was given up, is
written down in the journal, but shows in none of the stores.
-/

import NodeTelemetry.Proofs.Delivery.Waiting

namespace NodeTelemetry

/-- Where it shows what was collected. -/
structure Stores where
  backlog : Backlog Snapshot
  metrics : Metrics
  notices : List Log.Notice
  health : Health.Registry

namespace Stores

/-- What an event leaves that happens at some second. -/
def after (second : Int64) (event : Event) (stores : Stores) : Stores :=
  { stores with
    metrics := event.measurements.foldl .record stores.metrics
    notices := stores.notices ++ event.notices
    health := event.reports.foldl (.record second) stores.health }

/-- What a collection leaves that ends at some second, after so many nanoseconds: one entry
in the backlog, one latency, one more error and one notice for each fault in order, a loss
with its notice if the backlog was full, the notice of the collection, and verdicts on the
collector, the runtime and the backlog. -/
def collected (findings : Collection.Findings) (elapsed : Nat) (second : Int64)
    (stores : Stores) : Stores :=
  let lost := if stores.backlog.isFull then stores.backlog.toList.head? else none
  let backlog := (stores.backlog.add findings.snapshot).2
  { backlog
    metrics :=
      { stores.metrics with
        latency := stores.metrics.latency.observe (Event.secondsOf elapsed)
        collectionErrors := findings.faults.foldl (fun counters fault => counters.bump fault.label)
          stores.metrics.collectionErrors
        snapshotsDropped :=
          if stores.backlog.isFull then stores.metrics.snapshotsDropped.bump "overwritten"
          else stores.metrics.snapshotsDropped
        sandboxesObserved := findings.snapshot.sandboxes.length
        containersObserved := findings.snapshot.containerCount
        backlogItems := backlog.length
        backlogCapacity := backlog.capacity }
    notices := stores.notices ++ findings.faults.map .collectionFault ++
      (lost.toList.map fun oldest => .snapshotDropped oldest.timestamp "overwritten") ++
      [.collected findings.snapshot.sandboxes.length findings.snapshot.containerCount
        findings.faults.length (elapsed / nanosPerMilli) backlog.length]
    health :=
      { stores.health with
        collector := some ⟨.ofCollection findings.faults, second⟩
        runtime := some ⟨.ofRuntime (findings.faults.filterMap Fault.failedSource?), second⟩
        backlog := some ⟨.ofBacklog backlog.length backlog.capacity, second⟩ } }

/-- What faults leave before their collection is recorded. -/
def faulted (faults : List Fault) (stores : Stores) : Stores :=
  { stores with
    metrics :=
      { stores.metrics with
        collectionErrors := faults.foldl (fun counters fault => counters.bump fault.label)
          stores.metrics.collectionErrors }
    notices := stores.notices ++ faults.map .collectionFault }

/-- What a snapshot leaves that is put into the backlog. -/
def appended (snapshot : Snapshot) (stores : Stores) : Stores :=
  let lost := if stores.backlog.isFull then stores.backlog.toList.head? else none
  { stores with
    backlog := (stores.backlog.add snapshot).2
    metrics :=
      { stores.metrics with
        snapshotsDropped :=
          if stores.backlog.isFull then stores.metrics.snapshotsDropped.bump "overwritten"
          else stores.metrics.snapshotsDropped }
    notices := stores.notices ++
      lost.toList.map fun oldest => .snapshotDropped oldest.timestamp "overwritten" }

end Stores

namespace Hub

def stores (hub : Hub) : Stores where
  backlog := hub.backlog
  metrics := hub.journal.metrics
  notices := hub.journal.notices
  health := hub.journal.registry hub.epoch

theorem stores_note (hub : Hub) (event : Event) :
    (hub.note event).stores = hub.stores.after hub.second event := by
  have events := hub.events_note event
  unfold stores Stores.after
  simp only [Stores.mk.injEq]
  refine ⟨rfl, ?_, ?_, ?_⟩
  · unfold Journal.metrics Metrics.ofMeasurements
    rw [events, List.flatMap_append, List.foldl_append, List.flatMap_singleton]
  · unfold Journal.notices
    rw [events, List.flatMap_append, List.flatMap_singleton]
  · change Journal.registry hub.epoch (hub.journal ++ [(hub.now, event)]) = _
    unfold Journal.registry
    rw [List.foldl_append]
    rfl

/-- An event that is neither measured nor noticed nor reported shows in no store. -/
theorem stores_note_of_unseen (hub : Hub) {event : Event} (measurements : event.measurements = [])
    (notices : event.notices = []) (reports : event.reports = []) :
    (hub.note event).stores = hub.stores := by
  rw [stores_note, Stores.after, measurements, notices, reports, List.append_nil]
  rfl

theorem stores_faulted (faults : List Fault) (hub : Hub) :
    (faults.foldl (fun hub fault => hub.note (.faulted fault)) hub).stores =
      hub.stores.faulted faults := by
  induction faults generalizing hub with
  | nil => simp [Stores.faulted]
  | cons fault later ih =>
      rw [List.foldl_cons, ih, stores_note]
      simp [Stores.faulted, Stores.after, Event.measurements, Event.notices, Event.reports,
        Metrics.record]

theorem epoch_faulted (faults : List Fault) (hub : Hub) :
    (faults.foldl (fun hub fault => hub.note (.faulted fault)) hub).epoch = hub.epoch := by
  induction faults generalizing hub with
  | nil => rfl
  | cons fault later ih => exact ih (hub.note (.faulted fault))

theorem epoch_append (hub : Hub) (event : Event) (snapshot : Snapshot) :
    (hub.append event snapshot).epoch = hub.epoch := by
  unfold append
  obtain ⟨evicted, backlog⟩ := hub.backlog.add snapshot
  cases evicted <;> rfl

theorem epoch_record (findings : Collection.Findings) (elapsed : Nat) (hub : Hub) :
    (Collection.record findings elapsed hub).epoch = hub.epoch :=
  (epoch_append _ _ _).trans (epoch_faulted findings.faults hub)

/-- Recording a collection takes no time. -/
theorem second_record (findings : Collection.Findings) (elapsed : Nat) (hub : Hub) :
    (Collection.record findings elapsed hub).second = hub.second := by
  unfold second
  rw [epoch_record, now_record]

theorem stores_append (hub : Hub) (snapshot : Snapshot) :
    (hub.append (.arrived snapshot) snapshot).stores = hub.stores.appended snapshot := by
  have arrived : (hub.note (.arrived snapshot)).stores = hub.stores :=
    hub.stores_note_of_unseen rfl rfl rfl
  have added : ∀ backlog, ({ hub.note (.arrived snapshot) with backlog } : Hub).stores =
      { hub.stores with backlog } := fun backlog => congrArg ({ · with backlog }) arrived
  have evicted := hub.backlog.evicted_add snapshot
  have same : hub.stores.backlog = hub.backlog := rfl
  unfold append Stores.appended
  rw [same]
  generalize hub.backlog.add snapshot = result at evicted ⊢
  obtain ⟨lost, backlog⟩ := result
  obtain rfl : lost = _ := evicted
  cases full : hub.backlog.isFull with
  | false => simp [added]
  | true =>
      obtain ⟨oldest, younger, waiting⟩ := Backlog.exists_oldest full
      simp [waiting, stores_note, added, Stores.after, Event.measurements, Event.notices,
        Event.reports, Metrics.record, Log.DropReason.name]

/-- What the collector records is what a collection leaves. -/
theorem stores_record (findings : Collection.Findings) (elapsed : Nat) (hub : Hub) :
    (Collection.record findings elapsed hub).stores =
      hub.stores.collected findings elapsed hub.second := by
  let added := (findings.faults.foldl (fun hub fault => hub.note (.faulted fault)) hub).append
    (.arrived findings.snapshot) findings.snapshot
  have stores : added.stores = (hub.stores.faulted findings.faults).appended findings.snapshot :=
    (stores_append _ _).trans (congrArg _ (stores_faulted findings.faults hub))
  have second : added.second = hub.second := second_record findings elapsed hub
  have backlog : added.backlog = (hub.stores.backlog.add findings.snapshot).2 :=
    congrArg Stores.backlog stores
  unfold Collection.record
  simp only
  rw [stores_note]
  change added.stores.after added.second (.collected ⟨_, _, _, _, added.backlog.length,
    added.backlog.capacity⟩) = _
  rw [stores, second, backlog]
  cases full : hub.stores.backlog.isFull <;>
    simp [Stores.after, Stores.appended, Stores.faulted, Stores.collected, Event.measurements,
      Event.notices, Event.reports, Metrics.record, Health.Registry.record, full]

end Hub

end NodeTelemetry
