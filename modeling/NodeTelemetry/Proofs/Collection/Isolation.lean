/-
# Failures of sources

A source that fails or is late costs a collection what only this source knows. The
collection is compared with one to which all sources answer: what the other sources
say is the same in both, each failure is reported once, and a failure is never
mistaken for containers that are missing.
-/

import NodeTelemetry.Collection.Basic
import NodeTelemetry.Proofs.Inventory.Join

namespace NodeTelemetry.Collection

/-- The query that goes to a source. -/
def Settings.query (settings : Settings) : Source → Query
  | .host => settings.host
  | .sandboxes => settings.sandboxes
  | .sandboxStats => .sandboxStats
  | .containers => .containers none
  | .containerStats => .containerStats

namespace Answer

variable {α : Type} {limit : Nat}

/-- What is wrong with an answer: its causes, or that it is late. -/
def failure? (limit : Nat) (answer : Answer α) : Option String :=
  if answer.inTime limit then
    match answer.result with
    | .ok _ => none
    | .error causes => some (causeChain causes)
  else some lateMessage

theorem faultOf_within (origin : Source) (answer : Answer α) :
    faultOf (answer.within origin limit) = (answer.failure? limit).map (.source origin) := by
  unfold within failure?
  by_cases inTime : answer.inTime limit
  · rw [if_pos inTime, if_pos inTime]
    cases answer.result <;> rfl
  · rw [if_neg inTime, if_neg inTime]
    rfl

/-- An answer that did not fail has a content. -/
theorem exists_content {answer : Answer α} (answers : answer.failure? limit = none) :
    ∃ content, answer.result = .ok content := by
  unfold failure? at answers
  split at answers
  · split at answers
    · exact ⟨_, by assumption⟩
    · cases answers
  · cases answers

/-- What is taken from an answer is its content, or nothing. -/
theorem toOption_within (origin : Source) {answer : Answer α} {content : α}
    (known : answer.failure? limit = none → answer.result = .ok content) :
    (answer.within origin limit).toOption =
      if (answer.failure? limit).isNone then some content else none := by
  cases hfailure : answer.failure? limit with
  | none =>
      have inTime : answer.inTime limit := by
        unfold failure? at hfailure
        split at hfailure
        · assumption
        · cases hfailure
      rw [within, if_pos inTime, known hfailure]
      rfl
  | some message =>
      have fault : faultOf (answer.within origin limit) = _ := faultOf_within origin answer
      rw [hfailure] at fault
      cases hwithin : answer.within origin limit with
      | ok content =>
          rw [hwithin] at fault
          cases fault
      | error fault => rfl

end Answer

section

variable (settings : Settings) (limit : Nat) (timestamp : Int64) (sources : Sources)

/-- What is wrong with the answer of a source to the query of a collection. -/
def failureOf? (source : Source) : Option String :=
  (sources (settings.query source)).failure? limit

/-- What the join gets to see. -/
def listings : Inventory.Listings where
  sandboxes := ((sources settings.sandboxes).within .sandboxes limit).toOption
  sandboxStats := ((sources .sandboxStats).within .sandboxStats limit).toOption
  containers := ((sources (.containers none)).within .containers limit).toOption
  containerStats := ((sources .containerStats).within .containerStats limit).toOption

theorem collect_sandboxes :
    (collect settings limit timestamp sources).snapshot.sandboxes =
      (Inventory.join (listings settings limit sources) settings.filter.isNone).1 := rfl

/-- The faults of the sources come before those of the join. -/
theorem collect_faults :
    (collect settings limit timestamp sources).faults =
      (Source.all.filterMap fun source =>
          (failureOf? settings limit sources source).map (.source source)) ++
        (Inventory.join (listings settings limit sources) settings.filter.isNone).2 := by
  have failed : [faultOf ((sources settings.host).within .host limit),
      faultOf ((sources settings.sandboxes).within .sandboxes limit),
      faultOf ((sources .sandboxStats).within .sandboxStats limit),
      faultOf ((sources (.containers none)).within .containers limit),
      faultOf ((sources .containerStats).within .containerStats limit)] =
      Source.all.map fun source =>
        (failureOf? settings limit sources source).map (.source source) := by
    simp only [Source.all, List.map_cons, List.map_nil, List.cons.injEq, and_true]
    exact ⟨Answer.faultOf_within _ _, Answer.faultOf_within _ _, Answer.faultOf_within _ _,
      Answer.faultOf_within _ _, Answer.faultOf_within _ _⟩
  have filtered := congrArg (List.filterMap id) failed
  rw [List.filterMap_map, Function.id_comp] at filtered
  exact congrArg (· ++ _) filtered

variable {settings limit sources} {sandboxes : List Inventory.Sandbox}
  {sandboxStats : List Inventory.SandboxStats} {containers : List Inventory.Container}
  {containerStats : List Inventory.ContainerStats}

/-- The join sees the contents of the answers that did not fail. -/
theorem listings_eq
    (hsandboxes : failureOf? settings limit sources .sandboxes = none →
      (sources settings.sandboxes).result = .ok sandboxes)
    (hsandboxStats : failureOf? settings limit sources .sandboxStats = none →
      (sources .sandboxStats).result = .ok sandboxStats)
    (hcontainers : failureOf? settings limit sources .containers = none →
      (sources (.containers none)).result = .ok containers)
    (hcontainerStats : failureOf? settings limit sources .containerStats = none →
      (sources .containerStats).result = .ok containerStats) :
    listings settings limit sources =
      { sandboxes := if (failureOf? settings limit sources .sandboxes).isNone
          then some sandboxes else none
        sandboxStats := if (failureOf? settings limit sources .sandboxStats).isNone
          then some sandboxStats else none
        containers := if (failureOf? settings limit sources .containers).isNone
          then some containers else none
        containerStats := if (failureOf? settings limit sources .containerStats).isNone
          then some containerStats else none } := by
  apply (Inventory.Listings.mk.injEq ..).mpr
  exact ⟨Answer.toOption_within _ hsandboxes, Answer.toOption_within _ hsandboxStats,
    Answer.toOption_within _ hcontainers, Answer.toOption_within _ hcontainerStats⟩

end

/-- How a collection with failures compares to a whole one. -/
structure Isolated (failure? : Source → Option String) (findings whole : Findings) : Prop where
  /-- Each failed source is reported once, in the order of the sources, with what was
  wrong. The misses follow; they are those of the whole collection, unless something
  failed that they are found by. -/
  faults : findings.faults =
    (Source.all.filterMap fun source => (failure? source).map (.source source)) ++
      if (failure? .sandboxes).isNone && (failure? .containers).isNone &&
          (failure? .containerStats).isNone
        then whole.faults else []
  /-- The faults of the whole collection are misses. -/
  misses : ∀ fault ∈ whole.faults, Inventory.IsMiss fault
  /-- No source that answered is reported. -/
  attributed : findings.faults.filterMap Fault.failedSource? =
    Source.all.filter fun source => (failure? source).isSome
  /-- The whole collection has a node. -/
  hasNode : whole.snapshot.node.isSome
  /-- So the node is missing exactly if its source failed. -/
  node : findings.snapshot.node =
    if (failure? .host).isNone then whole.snapshot.node else none
  /-- Records come without their usage or without their units if these are not known. -/
  sandboxes : findings.snapshot.sandboxes =
    if (failure? .sandboxes).isNone then
      whole.snapshot.sandboxes.map (·.keeping (failure? .sandboxStats).isNone
        ((failure? .containers).isNone && (failure? .containerStats).isNone))
    else []

/-- The faults that come from sources name the sources that failed. -/
theorem failedSources_eq (failure? : Source → Option String) {misses : List Fault}
    (areMisses : ∀ fault ∈ misses, Inventory.IsMiss fault) :
    ((Source.all.filterMap fun source => (failure? source).map (Fault.source source)) ++
        misses).filterMap Fault.failedSource? =
      Source.all.filter fun source => (failure? source).isSome := by
  have none : misses.filterMap Fault.failedSource? = [] := by
    rw [List.filterMap_eq_nil_iff]
    intro fault hfault
    obtain ⟨container, sandbox, missing, rfl⟩ := areMisses fault hfault
    rfl
  rw [List.filterMap_append, none, List.append_nil, List.filterMap_filterMap]
  induction Source.all with
  | nil => rfl
  | cons source rest ih =>
      rw [List.filter_cons, ← ih]
      cases hfailure : failure? source with
      | none => simp [hfailure]
      | some message => simp [hfailure, Fault.failedSource?]

/-- Failures of sources are isolated and attributed. -/
theorem isolated (settings : Settings) (limit : Nat) (timestamp other : Int64)
    (sources complete : Sources)
    (succeeds : ∀ source, failureOf? settings limit complete source = none)
    (agrees : ∀ source, failureOf? settings limit sources source = none →
      (sources (settings.query source)).result = (complete (settings.query source)).result) :
    Isolated (failureOf? settings limit sources)
      (collect settings limit timestamp sources) (collect settings limit other complete) := by
  obtain ⟨host, hhost⟩ := Answer.exists_content (succeeds .host)
  obtain ⟨sandboxes, hsandboxes⟩ := Answer.exists_content (succeeds .sandboxes)
  obtain ⟨sandboxStats, hsandboxStats⟩ := Answer.exists_content (succeeds .sandboxStats)
  obtain ⟨containers, hcontainers⟩ := Answer.exists_content (succeeds .containers)
  obtain ⟨containerStats, hcontainerStats⟩ := Answer.exists_content (succeeds .containerStats)
  have whole : listings settings limit complete =
      ⟨some sandboxes, some sandboxStats, some containers, some containerStats⟩ := by
    rw [listings_eq (fun _ => hsandboxes) (fun _ => hsandboxStats) (fun _ => hcontainers)
      (fun _ => hcontainerStats)]
    simp only [succeeds, Option.isNone_none, if_true]
  have degraded := listings_eq (fun ok => (agrees .sandboxes ok).trans hsandboxes)
    (fun ok => (agrees .sandboxStats ok).trans hsandboxStats)
    (fun ok => (agrees .containers ok).trans hcontainers)
    (fun ok => (agrees .containerStats ok).trans hcontainerStats)
  have joined := Inventory.join_known settings.filter.isNone sandboxes sandboxStats containers
    containerStats (failureOf? settings limit sources .sandboxes).isNone
    (failureOf? settings limit sources .sandboxStats).isNone
    (failureOf? settings limit sources .containers).isNone
    (failureOf? settings limit sources .containerStats).isNone
  rw [← degraded, ← whole] at joined
  have wholeFaults : (collect settings limit other complete).faults =
      (Inventory.join (listings settings limit complete) settings.filter.isNone).2 := by
    rw [collect_faults]
    simp only [succeeds]
    rfl
  have wholeNode : (collect settings limit other complete).snapshot.node = some host := by
    have known : (collect settings limit other complete).snapshot.node =
        if (failureOf? settings limit complete .host).isNone then some host else none :=
      Answer.toOption_within .host fun _ => hhost
    rwa [succeeds, Option.isNone_none, if_pos rfl] at known
  refine ⟨?_, ?_, ?_, ?_, ?_, ?_⟩
  · rw [collect_faults, wholeFaults, joined]
  · intro fault hfault
    rw [wholeFaults] at hfault
    exact Inventory.isMiss_join hfault
  · rw [collect_faults]
    exact failedSources_eq _ fun fault => Inventory.isMiss_join
  · rw [wholeNode]
    rfl
  · rw [wholeNode]
    exact Answer.toOption_within .host fun ok => (agrees .host ok).trans hhost
  · rw [collect_sandboxes, collect_sandboxes, joined]

/-- Sources that all answer: there is one sandbox with its statistics, and one container
without. -/
def steadySources : Sources
  | .host _ => { result := .ok {} }
  | .sandboxes _ => { result := .ok [⟨"s1", none, 0, 1⟩] }
  | .sandboxStats => { result := .ok [⟨some "s1", some ⟨none, none, none, some 3⟩⟩] }
  | .containers _ => { result := .ok [⟨"c1", "s1", none, none, "nginx", 1, 1⟩] }
  | .containerStats => { result := .ok [] }

/-- The same without the node, and with statistics of containers that never come. -/
def troubledSources : Sources
  | .host _ => { result := .error ["read failed", "permission denied"] }
  | .containerStats => { after := none, result := .ok [] }
  | query => steadySources query

/-- The missing container is not reported when its statistics could not be had. -/
theorem isolated_troubled :
    (∀ source, failureOf? {} 5 steadySources source = none) ∧
      (∀ source, failureOf? {} 5 troubledSources source = none →
        (troubledSources (({} : Settings).query source)).result =
          (steadySources (({} : Settings).query source)).result) ∧
      Isolated (failureOf? {} 5 troubledSources) (collect {} 5 1 troubledSources)
        (collect {} 5 1 steadySources) := by
  have succeeds : ∀ source, failureOf? {} 5 steadySources source = none := by
    intro source
    cases source <;> rfl
  have agrees : ∀ source, failureOf? {} 5 troubledSources source = none →
      (troubledSources (({} : Settings).query source)).result =
        (steadySources (({} : Settings).query source)).result := by
    intro source answers
    cases source <;> first | rfl | cases answers
  exact ⟨succeeds, agrees, isolated {} 5 1 1 troubledSources steadySources succeeds agrees⟩

end NodeTelemetry.Collection
