/-
# Gathering answers

A collection asks its sources and looks after their answers. In which order it asks, and in
which order it looks, is left open here. Whoever looks at a source finds its answer if it is
there, and otherwise that the source is late, if the limit is over. Time does not pass as
long as a source was not asked, and it never passes a moment at which there is something to
find. However answers are gathered, it comes to what a collection is said to come to, every
query was made once, and it took as long as a collection is said to take.
-/

import Mathlib.Data.List.Nodup
import Mathlib.Data.Nat.Find
import Mathlib.Logic.Function.Basic
import Mathlib.Logic.Relation
import NodeTelemetry.Proofs.Collection.Isolation

namespace NodeTelemetry.Collection

/-! ## Looking after an answer -/

namespace Answer

variable {α : Type} {origin : Source} {limit now : Nat} {answer : Answer α}
  {outcome : Except Fault α}

/-- What is found, if anything is, when an answer to a query that was made at `since` is
looked after at `now`. -/
def poll? (origin : Source) (limit since now : Nat) (answer : Answer α) :
    Option (Except Fault α) :=
  if answer.inTime (now - since) then
    some (answer.result.mapError fun causes => .source origin (causeChain causes))
  else if limit ≤ now then some (.error (.source origin lateMessage))
  else none

/-- When there is something to find. -/
def due (limit since : Nat) (answer : Answer α) : Nat :=
  match answer.after with
  | none => limit
  | some delay => min (since + delay) limit

theorem due_zero (limit : Nat) (answer : Answer α) :
    answer.due limit 0 = answer.patience limit := by
  unfold due patience
  cases answer.after with
  | none => rfl
  | some delay => exact congrArg (min · limit) (Nat.zero_add delay)

/-- Nothing is found too early. -/
theorem poll?_eq_none (early : now < answer.patience limit) :
    answer.poll? origin limit 0 now = none := by
  unfold patience at early
  unfold poll? inTime
  cases after : answer.after with
  | none =>
      rw [after] at early
      exact if_neg (Nat.not_le.mpr early)
  | some delay =>
      rw [after] at early
      change now < min delay limit at early
      have notThere : ¬delay ≤ now - 0 := by omega
      have notOver : ¬limit ≤ now := by omega
      simp only [notThere, decide_false, Bool.false_eq_true, if_false, notOver]

/-- At the right moment it is found what an answer comes to. An answer that is there exactly
when the limit is over counts. -/
theorem poll?_patience (origin : Source) (limit : Nat) (answer : Answer α) :
    answer.poll? origin limit 0 (answer.patience limit) = some (answer.within origin limit) := by
  unfold poll? within inTime patience
  cases answer.after with
  | none => exact if_pos (Nat.le_refl limit)
  | some delay =>
      by_cases inTime : delay ≤ limit
      · have there : delay ≤ min delay limit - 0 := by omega
        simp only [there, decide_true, if_true, inTime]
      · have notThere : ¬delay ≤ min delay limit - 0 := by omega
        have limitOver : limit ≤ min delay limit := by omega
        simp only [notThere, decide_false, Bool.false_eq_true, if_false, limitOver, if_true, inTime]

theorem poll?_onTime (onTime : now ≤ answer.patience limit)
    (found : answer.poll? origin limit 0 now = some outcome) :
    outcome = answer.within origin limit ∧ answer.patience limit ≤ now := by
  obtain early | rfl := Nat.lt_or_eq_of_le onTime
  · rw [poll?_eq_none early] at found
    cases found
  · rw [poll?_patience] at found
    exact ⟨(Option.some.inj found).symm, Nat.le_refl _⟩

end Answer

theorem mem_all (source : Source) : source ∈ Source.all := by
  cases source <;> decide

/-! ## The time that a collection takes -/

section Elapsed

variable (settings : Settings) (limit : Nat) (sources : Sources)

theorem patience_le_elapsed (source : Source) :
    (sources (settings.query source)).patience limit ≤ elapsed settings limit sources := by
  unfold elapsed Settings.queries
  simp only [List.map_cons, List.map_nil, List.foldl_cons, List.foldl_nil]
  cases source <;> simp only [Settings.query] <;> omega

/-- Some source is waited for till the end. -/
theorem exists_patience_eq_elapsed :
    ∃ source, (sources (settings.query source)).patience limit =
      elapsed settings limit sources := by
  have attained : ∀ (waits : List Nat) (first : Nat),
      waits.foldl max first = first ∨ waits.foldl max first ∈ waits := by
    intro waits
    induction waits with
    | nil => exact fun first => .inl rfl
    | cons wait later ih =>
        intro first
        obtain same | listed := ih (max first wait)
        · rw [List.foldl_cons, same]
          obtain shorter | longer := Nat.le_total wait first
          · exact .inl (Nat.max_eq_left shorter)
          · rw [Nat.max_eq_right longer]
            exact .inr List.mem_cons_self
        · exact .inr (List.mem_cons_of_mem _ listed)
  obtain none | listed := attained
    (Source.all.map fun source => (sources (settings.query source)).patience limit) 0
  · have longest := patience_le_elapsed settings limit sources .host
    have none : elapsed settings limit sources = 0 := none
    exact ⟨.host, by omega⟩
  · obtain ⟨source, -, waited⟩ := List.mem_map.mp listed
    exact ⟨source, waited⟩

theorem Answer.patience_le_limit {α : Type} (limit : Nat) (answer : Answer α) :
    answer.patience limit ≤ limit := by
  unfold patience
  cases answer.after with
  | none => exact Nat.le_refl limit
  | some delay => exact Nat.min_le_right delay limit

theorem elapsed_le_limit : elapsed settings limit sources ≤ limit := by
  obtain ⟨source, longest⟩ := exists_patience_eq_elapsed settings limit sources
  rw [← longest]
  exact Answer.patience_le_limit limit _

end Elapsed

/-! ## Gatherings -/

/-- Where a collection stands with a query. -/
inductive Inquiry (query : Query) where
  | unasked
  | asked (since : Nat)
  | settled (outcome : Except Fault query.Content)

namespace Inquiry

variable {query : Query}

def outcome? : Inquiry query → Option (Except Fault query.Content)
  | .settled outcome => some outcome
  | _ => none

/-- How often something will still happen. -/
def rank : Inquiry query → Nat
  | .unasked => 2
  | .asked _ => 1
  | .settled _ => 0

/-- Nothing was missed: the query was made at the beginning, its answer was found when it
was to be found, and it was settled accordingly. -/
def OnTime (origin : Source) (limit now : Nat) (answer : Answer query.Content) :
    Inquiry query → Prop
  | .unasked => now = 0
  | .asked since => since = 0 ∧ now ≤ answer.patience limit
  | .settled outcome => outcome = answer.within origin limit ∧ answer.patience limit ≤ now

end Inquiry

/-- A collection on its way. The clock stands at zero when it begins. -/
structure Gathering (settings : Settings) where
  now : Nat := 0
  /-- The queries that were made. -/
  asked : List Query := []
  inquiry : (source : Source) → Inquiry (settings.query source)

namespace Gathering

variable {settings : Settings} {limit : Nat} {sources : Sources} {timestamp : Int64}
  {gathering next : Gathering settings}

def start (settings : Settings) : Gathering settings where
  inquiry _ := .unasked

def set (source : Source) (inquiry : Inquiry (settings.query source))
    (gathering : Gathering settings) : Gathering settings :=
  { gathering with inquiry := Function.update gathering.inquiry source inquiry }

def ask (source : Source) (gathering : Gathering settings) : Gathering settings :=
  { gathering.set source (.asked gathering.now) with
    asked := gathering.asked ++ [settings.query source] }

/-- What can happen next. -/
inductive Step (limit : Nat) (sources : Sources) :
    Gathering settings → Gathering settings → Prop where
  /-- A source is asked. -/
  | ask {gathering : Gathering settings} (source : Source)
      (unasked : gathering.inquiry source = .unasked) :
      Step limit sources gathering (gathering.ask source)
  /-- Something is found. -/
  | settle {gathering : Gathering settings} (source : Source) {since : Nat}
      {outcome : Except Fault (settings.query source).Content}
      (asked : gathering.inquiry source = .asked since)
      (found : (sources (settings.query source)).poll? source limit since gathering.now =
        some outcome) :
      Step limit sources gathering (gathering.set source (.settled outcome))
  /-- Time passes while there is still something to find. -/
  | pass {gathering : Gathering settings} {source : Source} {since : Nat}
      (waits : gathering.inquiry source = .asked since) (moment : Nat)
      (allAsked : ∀ source, gathering.inquiry source ≠ .unasked)
      (noneMissed : ∀ source since, gathering.inquiry source = .asked since →
        moment ≤ (sources (settings.query source)).due limit since) :
      Step limit sources gathering { gathering with now := max gathering.now moment }

/-- What can become of a gathering. -/
def Reaches (limit : Nat) (sources : Sources) :
    Gathering settings → Gathering settings → Prop :=
  Relation.ReflTransGen (Step limit sources)

def Finished (gathering : Gathering settings) : Prop :=
  ∀ source, ∃ outcome, gathering.inquiry source = .settled outcome

/-- The findings once everything is settled. -/
def findings? (timestamp : Int64) (gathering : Gathering settings) : Option Findings := do
  let host ← (gathering.inquiry .host).outcome?
  let sandboxes ← (gathering.inquiry .sandboxes).outcome?
  let sandboxStats ← (gathering.inquiry .sandboxStats).outcome?
  let containers ← (gathering.inquiry .containers).outcome?
  let containerStats ← (gathering.inquiry .containerStats).outcome?
  return assemble settings timestamp host sandboxes sandboxStats containers containerStats

/-! ### What every step keeps -/

theorem inquiry_set (source : Source) (inquiry : Inquiry (settings.query source))
    (gathering : Gathering settings) : (gathering.set source inquiry).inquiry source = inquiry :=
  Function.update_self ..

theorem inquiry_set_of_ne {source other : Source} (different : other ≠ source)
    (inquiry : Inquiry (settings.query source)) (gathering : Gathering settings) :
    (gathering.set source inquiry).inquiry other = gathering.inquiry other :=
  Function.update_of_ne different ..

/-- Each query was made once, and no answer was missed. -/
structure OnTime (limit : Nat) (sources : Sources) (gathering : Gathering settings) :
    Prop where
  /-- The sources can be listed in the order in which they were asked. -/
  order : ∃ order : List Source, gathering.asked = order.map settings.query ∧ order.Nodup ∧
    ∀ source, source ∈ order ↔ gathering.inquiry source ≠ .unasked
  inquiries : ∀ source, (gathering.inquiry source).OnTime source limit gathering.now
    (sources (settings.query source))
  bounded : gathering.now ≤ elapsed settings limit sources

theorem onTime_start : OnTime limit sources (start settings) := by
  refine ⟨⟨[], rfl, List.nodup_nil, fun source => ?_⟩, fun source => rfl, Nat.zero_le _⟩
  exact ⟨fun listed => absurd listed List.not_mem_nil, fun asked => absurd rfl asked⟩

/-- What becomes of one inquiry does not matter to the others. -/
theorem onTime_set {source : Source} {inquiry : Inquiry (settings.query source)}
    (inquiries : ∀ source, (gathering.inquiry source).OnTime source limit gathering.now
      (sources (settings.query source)))
    (onTime : inquiry.OnTime source limit gathering.now (sources (settings.query source)))
    (other : Source) :
    ((gathering.set source inquiry).inquiry other).OnTime other limit gathering.now
      (sources (settings.query other)) := by
  by_cases same : other = source
  · subst same
    rw [inquiry_set]
    exact onTime
  · rw [inquiry_set_of_ne same]
    exact inquiries other

theorem OnTime.ask (onTime : OnTime limit sources gathering) {source : Source}
    (unasked : gathering.inquiry source = .unasked) :
    OnTime limit sources (gathering.ask source) := by
  obtain ⟨order, asked, once, listed⟩ := onTime.order
  have atOnce := onTime.inquiries source
  rw [unasked] at atOnce
  have now : gathering.now = 0 := atOnce
  refine ⟨⟨order ++ [source], ?_, ?_, fun other => ?_⟩, ?_, onTime.bounded⟩
  · change gathering.asked ++ _ = _
    rw [asked, List.map_append, List.map_singleton]
  · refine List.nodup_append.mpr ⟨once, List.nodup_singleton source, ?_⟩
    rintro other before _ here rfl
    obtain rfl := List.mem_singleton.mp here
    exact (listed other).mp before unasked
  · rw [List.mem_append, List.mem_singleton, listed]
    change _ ↔ (gathering.set source _).inquiry other ≠ _
    by_cases same : other = source
    · subst same
      rw [inquiry_set]
      exact ⟨fun _ => nofun, fun _ => .inr rfl⟩
    · rw [inquiry_set_of_ne same]
      exact ⟨fun either => either.resolve_right same, .inl⟩
  · exact onTime_set onTime.inquiries ⟨now, now ▸ Nat.zero_le _⟩

theorem OnTime.settle (onTime : OnTime limit sources gathering) {source : Source} {since : Nat}
    {outcome : Except Fault (settings.query source).Content}
    (asked : gathering.inquiry source = .asked since)
    (found : (sources (settings.query source)).poll? source limit since gathering.now =
      some outcome) :
    OnTime limit sources (gathering.set source (.settled outcome)) := by
  obtain ⟨order, queries, once, listed⟩ := onTime.order
  have soon := onTime.inquiries source
  rw [asked] at soon
  obtain ⟨rfl, soon⟩ := soon
  refine ⟨⟨order, queries, once, fun other => ?_⟩, ?_, onTime.bounded⟩
  · rw [listed]
    by_cases same : other = source
    · subst same
      rw [inquiry_set, asked]
      exact ⟨fun _ => nofun, fun _ => nofun⟩
    · rw [inquiry_set_of_ne same]
  · exact onTime_set onTime.inquiries (Answer.poll?_onTime soon found)

theorem OnTime.pass (onTime : OnTime limit sources gathering) {source : Source} {since : Nat}
    (waits : gathering.inquiry source = .asked since) {moment : Nat}
    (allAsked : ∀ source, gathering.inquiry source ≠ .unasked)
    (noneMissed : ∀ source since, gathering.inquiry source = .asked since →
      moment ≤ (sources (settings.query source)).due limit since) :
    OnTime limit sources { gathering with now := max gathering.now moment } := by
  have soon : ∀ source since, gathering.inquiry source = .asked since → since = 0 ∧
      max gathering.now moment ≤ (sources (settings.query source)).patience limit := by
    intro source since asked
    have onTime := onTime.inquiries source
    have notMissed := noneMissed source since asked
    rw [asked] at onTime
    obtain ⟨rfl, soon⟩ := onTime
    rw [Answer.due_zero] at notMissed
    exact ⟨rfl, Nat.max_le.mpr ⟨soon, notMissed⟩⟩
  refine ⟨onTime.order, fun other => ?_, ?_⟩
  · have onTime := onTime.inquiries other
    change (gathering.inquiry other).OnTime _ _ (max gathering.now moment) _
    cases inquiry : gathering.inquiry other with
    | unasked => exact absurd inquiry (allAsked other)
    | asked since => exact soon other since inquiry
    | settled outcome =>
        rw [inquiry] at onTime
        exact ⟨onTime.1, Nat.le_trans onTime.2 (Nat.le_max_left _ _)⟩
  · have longest := patience_le_elapsed settings limit sources source
    exact Nat.le_trans (soon source since waits).2 longest

theorem OnTime.step (onTime : OnTime limit sources gathering)
    (step : Step limit sources gathering next) : OnTime limit sources next := by
  cases step with
  | ask source unasked => exact onTime.ask unasked
  | settle source asked found => exact onTime.settle asked found
  | pass waits moment allAsked noneMissed => exact onTime.pass waits allAsked noneMissed

theorem OnTime.reaches (onTime : OnTime limit sources gathering)
    (reaches : Reaches limit sources gathering next) : OnTime limit sources next := by
  induction reaches with
  | refl => exact onTime
  | tail _ step ih => exact ih.step step

/-! ### What it comes to -/

theorem OnTime.inquiry_eq (onTime : OnTime limit sources gathering)
    (finished : gathering.Finished) (source : Source) :
    gathering.inquiry source =
        .settled ((sources (settings.query source)).within source limit) ∧
      (sources (settings.query source)).patience limit ≤ gathering.now := by
  obtain ⟨outcome, settled⟩ := finished source
  have found := onTime.inquiries source
  rw [settled] at found
  obtain ⟨rfl, waited⟩ := found
  exact ⟨settled, waited⟩

/-- Everything was asked once, everything was heard or given up, and no time was lost. -/
theorem OnTime.finished (onTime : OnTime limit sources gathering)
    (finished : gathering.Finished) (timestamp : Int64) :
    gathering.findings? timestamp = some (collect settings limit timestamp sources) ∧
      gathering.asked.Perm settings.queries ∧
      gathering.now = elapsed settings limit sources := by
  have settled := fun source => (onTime.inquiry_eq finished source).1
  refine ⟨?_, ?_, ?_⟩
  · unfold findings?
    rw [settled .host, settled .sandboxes, settled .sandboxStats, settled .containers,
      settled .containerStats]
    rfl
  · obtain ⟨order, asked, once, listed⟩ := onTime.order
    have everySource : order.Perm Source.all := by
      refine (List.perm_ext_iff_of_nodup once (by decide)).mpr fun source => ?_
      rw [listed, settled source]
      exact ⟨fun _ => mem_all source, fun _ => nofun⟩
    rw [asked]
    exact everySource.map settings.query
  · obtain ⟨source, longest⟩ := exists_patience_eq_elapsed settings limit sources
    have waited := (onTime.inquiry_eq finished source).2
    exact Nat.le_antisymm onTime.bounded (longest ▸ waited)

/-! ### It comes to an end -/

/-- How much will still happen. -/
def rank (gathering : Gathering settings) : Nat :=
  Source.all.foldr (fun source others => (gathering.inquiry source).rank + others) 0

theorem rank_set_lt {source : Source} {inquiry : Inquiry (settings.query source)}
    (closer : inquiry.rank < (gathering.inquiry source).rank) :
    (gathering.set source inquiry).rank < gathering.rank := by
  have kept : ∀ other, ((gathering.set source inquiry).inquiry other).rank ≤
      (gathering.inquiry other).rank := by
    intro other
    by_cases same : other = source
    · subst same
      rw [inquiry_set]
      exact Nat.le_of_lt closer
    · rw [inquiry_set_of_ne same]
  have fewer : ((gathering.set source inquiry).inquiry source).rank <
      (gathering.inquiry source).rank := by
    rw [inquiry_set]
    exact closer
  have host := kept .host
  have sandboxes := kept .sandboxes
  have sandboxStats := kept .sandboxStats
  have containers := kept .containers
  have containerStats := kept .containerStats
  simp only [rank, Source.all, List.foldr_cons, List.foldr_nil]
  cases source <;> omega

/-- The source that has to be looked at first. -/
theorem exists_first {source : Source} (waits : gathering.inquiry source = .asked 0) :
    ∃ first, gathering.inquiry first = .asked 0 ∧
      ∀ other, gathering.inquiry other = .asked 0 →
        (sources (settings.query first)).patience limit ≤
          (sources (settings.query other)).patience limit := by
  classical
  have some : ∃ moment, ∃ source, gathering.inquiry source = .asked 0 ∧
      (sources (settings.query source)).patience limit = moment := ⟨_, source, waits, rfl⟩
  obtain ⟨first, asked, soonest⟩ := Nat.find_spec some
  refine ⟨first, asked, fun other alsoAsked => ?_⟩
  rw [soonest]
  exact Nat.find_min' some ⟨other, alsoAsked, rfl⟩

/-- As long as a gathering is not finished, it gets closer to its end. -/
theorem OnTime.exists_closer (onTime : OnTime limit sources gathering)
    (unfinished : ¬gathering.Finished) :
    ∃ next, Reaches limit sources gathering next ∧ next.rank < gathering.rank := by
  by_cases allAsked : ∀ source, gathering.inquiry source ≠ .unasked
  · obtain ⟨source, unsettled⟩ := Classical.not_forall.mp unfinished
    have waits : ∀ {source : Source} {since : Nat}, gathering.inquiry source = .asked since →
        since = 0 ∧ gathering.now ≤ (sources (settings.query source)).patience limit := by
      intro source since asked
      have soon := onTime.inquiries source
      rw [asked] at soon
      exact soon
    have waiting : gathering.inquiry source = .asked 0 := by
      cases inquiry : gathering.inquiry source with
      | unasked => exact absurd inquiry (allAsked source)
      | asked since => rw [(waits inquiry).1]
      | settled outcome => exact absurd ⟨outcome, inquiry⟩ unsettled
    obtain ⟨first, asked, soonest⟩ := @exists_first _ limit sources _ _ waiting
    let answer := sources (settings.query first)
    let later : Gathering settings :=
      { gathering with now := max gathering.now (answer.patience limit) }
    have passes : Step limit sources gathering later := by
      refine .pass asked _ allAsked fun other since alsoAsked => ?_
      obtain rfl := (waits alsoAsked).1
      rw [Answer.due_zero]
      exact soonest other alsoAsked
    have found : answer.poll? first limit 0 later.now = some (answer.within first limit) := by
      change answer.poll? first limit 0 (max gathering.now (answer.patience limit)) = _
      rw [Nat.max_eq_right (waits asked).2, Answer.poll?_patience]
    have settles : Step limit sources later (later.set first (.settled _)) :=
      .settle first asked found
    refine ⟨_, (Relation.ReflTransGen.single passes).tail settles, ?_⟩
    have closer := @rank_set_lt settings later first (.settled (answer.within first limit))
    refine closer ?_
    change 0 < (gathering.inquiry first).rank
    rw [asked]
    exact Nat.zero_lt_one
  · obtain ⟨source, notAsked⟩ := Classical.not_forall.mp allAsked
    have unasked := Classical.not_not.mp notAsked
    refine ⟨_, .single (.ask source unasked), ?_⟩
    have closer := @rank_set_lt settings gathering source (.asked gathering.now)
    refine closer ?_
    rw [unasked]
    exact Nat.one_lt_two

theorem OnTime.exists_finished (onTime : OnTime limit sources gathering) :
    ∃ ending, Reaches limit sources gathering ending ∧ ending.Finished := by
  induction rank : gathering.rank using Nat.strong_induction_on generalizing gathering with
  | h rank ih =>
      by_cases finished : gathering.Finished
      · exact ⟨gathering, .refl, finished⟩
      · obtain ⟨next, reaches, closer⟩ := onTime.exists_closer finished
        subst rank
        obtain ⟨ending, further, finished⟩ := ih _ closer (onTime.reaches reaches) rfl
        exact ⟨ending, reaches.trans further, finished⟩

end Gathering

end NodeTelemetry.Collection
