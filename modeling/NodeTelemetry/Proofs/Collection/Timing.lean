/-
# The timing of sources

What a collection comes to depends on what its sources answer and on which of them answer
before the limit is over, and on nothing else: not on how long they take, nor on the order
in which they answer, nor on what a source that is late would have said. A source that is
late says so and no more, and the collection lasts as long as its slowest source, or to its
limit.
-/

import NodeTelemetry.Proofs.Collection.Gathering

namespace NodeTelemetry.Collection

/-- Answers that say the same in time come to the same. -/
theorem Answer.within_congr {α : Type} {limit : Nat} {answer other : Answer α}
    (origin : Source) (sameTime : answer.inTime limit = other.inTime limit)
    (sameResult : answer.inTime limit = true → answer.result = other.result) :
    answer.within origin limit = other.within origin limit := by
  unfold within
  rw [← sameTime]
  split
  · rename_i inTime
    rw [sameResult inTime]
  · rfl

section

variable (settings : Settings) (limit : Nat) (timestamp : Int64) (sources : Sources)

/-- The faults that a collection finds in a source. -/
def faultsIn (source : Source) : List Fault :=
  (collect settings limit timestamp sources).faults.filter (·.failedSource? = some source)

/-- A source has at most one fault, and a container that is missing is none. -/
theorem faultsIn_eq (source : Source) :
    faultsIn settings limit timestamp sources source =
      ((failureOf? settings limit sources source).map (Fault.source source)).toList := by
  have noMisses : (Inventory.join (listings settings limit sources)
      settings.filter.isNone).2.filter (·.failedSource? = some source) = [] := by
    refine List.filter_eq_nil_iff.mpr fun fault listed => ?_
    obtain ⟨container, sandbox, missing, rfl⟩ := Inventory.isMiss_join listed
    simp [Fault.failedSource?]
  have own : ∀ other, ((failureOf? settings limit sources other).map (Fault.source other)).filter
      (·.failedSource? = some source) =
        if other = source then (failureOf? settings limit sources other).map (.source other)
        else none := by
    intro other
    cases failureOf? settings limit sources other with
    | none => simp
    | some message =>
        by_cases same : other = source <;> simp [Option.filter, Fault.failedSource?, same]
  unfold faultsIn
  rw [collect_faults, List.filter_append, noMisses, List.append_nil, List.filter_filterMap]
  simp only [own]
  cases source <;> simp [Source.all, List.filterMap_cons] <;>
    cases failureOf? settings limit sources _ <;> rfl

/-- How long a collection takes and what it comes to, whatever the order in which its
answers are gathered. -/
structure Settles : Prop where
  /-- Every finished gathering comes to the findings of the collection. Each query was made
  once, as it is set, and the clock shows when the collection ends. -/
  gathered : ∀ ending : Gathering settings,
    Gathering.Reaches limit sources (.start settings) ending → ending.Finished →
    ending.findings? timestamp = some (collect settings limit timestamp sources) ∧
      ending.asked.Perm settings.queries ∧ ending.now = elapsed settings limit sources
  /-- No gathering comes to a standstill before it is finished. -/
  finishes : ∀ middle : Gathering settings,
    Gathering.Reaches limit sources (.start settings) middle →
    ∃ ending, Gathering.Reaches limit sources middle ending ∧ ending.Finished
  /-- A source that is late has that fault and no other, whatever it would have said. -/
  late : ∀ source, (sources (settings.query source)).inTime limit = false →
    faultsIn settings limit timestamp sources source = [.source source lateMessage]
  /-- A source that fails in time has its own causes as its fault. -/
  failed : ∀ source causes, (sources (settings.query source)).inTime limit = true →
    (sources (settings.query source)).result = .error causes →
    faultsIn settings limit timestamp sources source = [.source source (causeChain causes)]
  /-- A source that answers in time has no fault. -/
  answered : ∀ source content, (sources (settings.query source)).inTime limit = true →
    (sources (settings.query source)).result = .ok content →
    faultsIn settings limit timestamp sources source = []
  /-- The collection lasts as long as the longest wait for a source. -/
  longest : (∀ source, (sources (settings.query source)).patience limit ≤
      elapsed settings limit sources) ∧
    ∃ source, (sources (settings.query source)).patience limit = elapsed settings limit sources
  bounded : elapsed settings limit sources ≤ limit

theorem settles : Settles settings limit timestamp sources where
  gathered ending reaches finished :=
    (Gathering.onTime_start.reaches reaches).finished finished timestamp
  finishes middle reaches := (Gathering.onTime_start.reaches reaches).exists_finished
  late source isLate := by
    rw [faultsIn_eq, failureOf?, Answer.failure?, isLate]
    rfl
  failed source causes inTime fails := by
    rw [faultsIn_eq, failureOf?, Answer.failure?, inTime, fails]
    rfl
  answered source content inTime answers := by
    rw [faultsIn_eq, failureOf?, Answer.failure?, inTime, answers]
    rfl
  longest := ⟨patience_le_elapsed settings limit sources,
    exists_patience_eq_elapsed settings limit sources⟩
  bounded := elapsed_le_limit settings limit sources

/-- Two collections come to the same, apart from the moments at which they began. -/
structure Alike (findings others : Findings) : Prop where
  node : findings.snapshot.node = others.snapshot.node
  sandboxes : findings.snapshot.sandboxes = others.snapshot.sandboxes
  faults : findings.faults = others.faults

/-- The findings by what each source came to. -/
def ofOutcomes (outcomes : (source : Source) → Except Fault (settings.query source).Content) :
    Findings :=
  assemble settings timestamp (outcomes .host) (outcomes .sandboxes) (outcomes .sandboxStats)
    (outcomes .containers) (outcomes .containerStats)

theorem collect_eq_ofOutcomes :
    collect settings limit timestamp sources = ofOutcomes settings timestamp
      fun source => (sources (settings.query source)).within source limit := rfl

/-- The moment at which a collection begins is nothing but its timestamp. -/
theorem alike_ofOutcomes (other : Int64)
    (outcomes : (source : Source) → Except Fault (settings.query source).Content) :
    Alike (ofOutcomes settings timestamp outcomes) (ofOutcomes settings other outcomes) :=
  ⟨rfl, rfl, rfl⟩

end

/-- Collections whose sources say the same before the limit is over come to the same,
whatever the sources' timing, and each of them settles. -/
theorem alike_of_sameInTime (settings : Settings) (limit : Nat) (timestamp other : Int64)
    (sources others : Sources)
    (sameTime : ∀ source, (sources (settings.query source)).inTime limit =
      (others (settings.query source)).inTime limit)
    (sameResult : ∀ source, (sources (settings.query source)).inTime limit = true →
      (sources (settings.query source)).result = (others (settings.query source)).result) :
    Alike (collect settings limit timestamp sources) (collect settings limit other others) ∧
      Settles settings limit timestamp sources ∧ Settles settings limit other others := by
  have same : ∀ source,
      (sources (settings.query source)).within source limit =
        (others (settings.query source)).within source limit :=
    fun source => Answer.within_congr source (sameTime source) (sameResult source)
  have alike : Alike (collect settings limit timestamp sources)
      (collect settings limit other others) := by
    rw [collect_eq_ofOutcomes, collect_eq_ofOutcomes, funext same]
    exact alike_ofOutcomes settings timestamp other _
  exact ⟨alike, settles settings limit timestamp sources, settles settings limit other others⟩

/-- The same answers at other moments: the failure comes later, the listings come exactly
when a limit of five is over, and the statistics that were never to come are refused after
it. -/
def staggeredSources : Sources
  | .host _ => { after := some 4, result := .error ["read failed", "permission denied"] }
  | .containerStats => { after := some 9, result := .error ["refused"] }
  | query => { steadySources query with after := some 5 }

theorem alike_of_sameInTime_staggered :
    (∀ source, (troubledSources (({} : Settings).query source)).inTime 5 =
        (staggeredSources (({} : Settings).query source)).inTime 5) ∧
      (∀ source, (troubledSources (({} : Settings).query source)).inTime 5 = true →
        (troubledSources (({} : Settings).query source)).result =
          (staggeredSources (({} : Settings).query source)).result) ∧
      Alike (collect {} 5 1 troubledSources) (collect {} 5 2 staggeredSources) ∧
      Settles {} 5 1 troubledSources ∧ Settles {} 5 2 staggeredSources := by
  have sameTime : ∀ source, (troubledSources (({} : Settings).query source)).inTime 5 =
      (staggeredSources (({} : Settings).query source)).inTime 5 := by
    intro source
    cases source <;> rfl
  have sameResult : ∀ source, (troubledSources (({} : Settings).query source)).inTime 5 = true →
      (troubledSources (({} : Settings).query source)).result =
        (staggeredSources (({} : Settings).query source)).result := by
    intro source inTime
    cases source <;> first | rfl | cases inTime
  exact ⟨sameTime, sameResult, alike_of_sameInTime {} 5 1 2 troubledSources staggeredSources
    sameTime sameResult⟩

end NodeTelemetry.Collection
