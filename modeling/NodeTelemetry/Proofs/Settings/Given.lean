/-
# Given flags

Reading arguments gives one flag after another, each of them once and with a value of its
domain, which is no table; and each flag is for one key. So the layer of flags fits the path
of every key, and what is there is the value of the key's flag, if that was given.
-/

import NodeTelemetry.Proofs.Settings.Keys
import NodeTelemetry.Proofs.Settings.Loading

namespace NodeTelemetry.Settings

/-! ## Keys as paths -/

namespace Key

theorem path_ne_nil (key : Key) : key.path ≠ [] := by
  cases key <;> exact List.cons_ne_nil _ _

/-- The names that lead to settings are in the form in which names are compared. -/
theorem map_fold_path (key : Key) : key.path.map Tree.fold = key.path := by
  cases key <;> decide

theorem apart_path {key other : Key} (different : key ≠ other) :
    Tree.apart key.path other.path := by
  cases key <;> cases other <;> first | exact absurd rfl different | decide

/-- A tree behind the path of a key says nothing about any other key. -/
theorem said_nest (key other : Key) (value : Tree) :
    (Tree.nest key.path value).said other.path = if key = other then some value else none := by
  by_cases same : key = other
  · subst same
    have itself := Tree.said_nest key.path value
    rw [map_fold_path] at itself
    rw [itself, if_pos rfl]
  · rw [if_neg same]
    refine Tree.said_nest_apart ?_ value
    rw [map_fold_path]
    exact apart_path same

theorem fits_nest {value : Tree} (plain : value.fits []) (key other : Key) :
    (Tree.nest key.path value).fits other.path := by
  by_cases same : key = other
  · subst same
    have itself := Tree.fits_nest key.path value
    rw [map_fold_path] at itself
    rw [itself]
    exact plain
  · refine Tree.fits_nest_apart ?_ value
    rw [map_fold_path]
    exact apart_path same

/-- The flag that is for a setting. -/
def flag? : Key → Option Flag
  | .nodeName => some .nodeName
  | .apiPort => some .apiPort
  | .relayAddress => some .relayAddress
  | .mainLoopDuration => some .mainLoopDuration
  | .bufferRetention => some .bufferRetention
  | .topN => some .topN
  | .runtimeEndpoint => some .runtimeEndpoint
  | .sourceTimeout => none
  | .allSandboxes => none
  | .logLevel => some .logLevel
  | .logFile => some .logFile
  | .logRotation => some .logRotation
  | .logMaxFiles => some .logMaxFiles

theorem flag?_inj {key other : Key} {flag : Flag} (hkey : key.flag? = some flag)
    (hother : other.flag? = some flag) : key = other := by
  cases key <;> cases hkey <;> cases other <;> cases hother <;> rfl

/-- What a flag sets is the setting of the key that it is for. -/
theorem exists_path_of_setting? {flag : Flag} {name : String} (sets : flag.setting? = some name) :
    ∃ key : Key, key.flag? = some flag ∧ Tree.pathOf name = key.path := by
  cases flag with
  | config => cases sets
  | relayAddress => cases sets; exact ⟨.relayAddress, rfl, by decide⟩
  | mainLoopDuration => cases sets; exact ⟨.mainLoopDuration, rfl, by decide⟩
  | bufferRetention => cases sets; exact ⟨.bufferRetention, rfl, by decide⟩
  | topN => cases sets; exact ⟨.topN, rfl, by decide⟩
  | runtimeEndpoint => cases sets; exact ⟨.runtimeEndpoint, rfl, by decide⟩
  | apiPort => cases sets; exact ⟨.apiPort, rfl, by decide⟩
  | nodeName => cases sets; exact ⟨.nodeName, rfl, by decide⟩
  | logLevel => cases sets; exact ⟨.logLevel, rfl, by decide⟩
  | logFile => cases sets; exact ⟨.logFile, rfl, by decide⟩
  | logRotation => cases sets; exact ⟨.logRotation, rfl, by decide⟩
  | logMaxFiles => cases sets; exact ⟨.logMaxFiles, rfl, by decide⟩

end Key

/-! ## Values of flags -/

/-- The value of a flag is no table. -/
theorem Domain.fits_read {domain : Domain} {value : String} {tree : Tree}
    (done : domain.read value = .ok tree) : tree.fits [] := by
  unfold Domain.read at done
  cases domain with
  | path =>
      dsimp only at done
      split at done <;> cases done
      rfl
  | text => cases done; rfl
  | number =>
      dsimp only at done
      split at done <;> cases done
      rfl
  | port =>
      dsimp only at done
      split at done
      · split at done <;> cases done
        rfl
      · cases done
  | choice words =>
      dsimp only at done
      split at done <;> cases done
      rfl

/-- Flags are given one after another, none of them twice. -/
inductive GivenFlags.Grows : GivenFlags → GivenFlags → Prop where
  | refl (given : GivenFlags) : Grows given given
  | give {given later : GivenFlags} {flag : Flag} {value : String} {tree : Tree}
      (first : given.find? flag = none) (valid : flag.domain.read value = .ok tree)
      (grows : Grows ((flag, tree) :: given) later) : Grows given later

namespace GivenFlags.Grows

variable {given later last : GivenFlags} {flag : Flag} {value : String} {tree : Tree}

theorem trans (grows : given.Grows later) (on : later.Grows last) : given.Grows last := by
  induction grows with
  | refl => exact on
  | give first valid _ ih => exact .give first valid (ih on)

theorem single (first : given.find? flag = none) (valid : flag.domain.read value = .ok tree) :
    given.Grows ((flag, tree) :: given) :=
  .give first valid (.refl _)

/-- What is given stays given. -/
theorem find? (grows : given.Grows later) (found : given.find? flag = some tree) :
    later.find? flag = some tree := by
  induction grows with
  | refl => exact found
  | @give given later other _ _ first _ _ ih =>
      refine ih ?_
      have different : other ≠ flag := by
        rintro rfl
        rw [first] at found
        cases found
      rw [GivenFlags.find?, List.findSome?_cons]
      dsimp only
      rw [if_neg different]
      exact found

/-- The value of a flag is no table. -/
theorem plain (grows : given.Grows later) (plain : ∀ entry ∈ given, entry.2.fits []) :
    ∀ entry ∈ later, entry.2.fits [] := by
  induction grows with
  | refl => exact plain
  | give _ valid _ ih => exact ih (List.forall_mem_cons.mpr ⟨Domain.fits_read valid, plain⟩)

end GivenFlags.Grows

/-! ## Reading arguments -/

namespace ArgumentState

variable {state next : ArgumentState} {flag : Flag} {value : Option String}
  {argument : List Char}

/-- What is done with the value of a flag. -/
theorem accept_cases (done : state.accept flag value = .ok next) :
    ∃ text tree, value = some text ∧ state.given.find? flag = none ∧
      flag.domain.read text = .ok tree ∧ next.given = (flag, tree) :: state.given := by
  unfold ArgumentState.accept at done
  cases value with
  | none => cases done
  | some text =>
      dsimp only at done
      split at done
      · cases done
      · next first =>
          cases read : flag.domain.read text with
          | error fault =>
              rw [read] at done
              cases done
          | ok tree =>
              rw [read] at done
              cases done
              exact ⟨text, tree, rfl, by simpa using first, read, rfl⟩

theorem grows_accept (done : state.accept flag value = .ok next) :
    state.given.Grows next.given := by
  obtain ⟨_, tree, _, first, valid, same⟩ := accept_cases done
  rw [same]
  exact .single first valid

theorem grows_settle (done : state.settle = .ok next) : state.given.Grows next.given := by
  unfold ArgumentState.settle at done
  split at done
  · cases done
    exact .refl _
  · exact grows_accept done

theorem grows_readLong (done : state.readLong argument = .ok next) :
    state.given.Grows next.given := by
  -- What is asked for ends reading, so that it is not done.
  have asked : ∀ {value : Option String} {fault : ArgumentFault},
      (if value.isSome then .error .unexpectedValue
        else do
          let _ ← state.settle
          .error fault) ≠ (.ok next : Except ArgumentFault ArgumentState) := by
    intro value fault done
    split at done
    · cases done
    · obtain ⟨settled, -, ended⟩ := exists_of_bind_eq_ok done
      cases ended
  unfold ArgumentState.readLong at done
  dsimp only at done
  split at done
  all_goals
    dsimp only at done
    split at done
    · exact absurd done asked
    · split at done
      · exact absurd done asked
      · split at done
        · cases done
        · obtain ⟨settled, hsettled, goesOn⟩ := exists_of_bind_eq_ok done
          have grown := grows_settle hsettled
          first
          | exact grown.trans (grows_accept goesOn)
          | cases goesOn
            exact grown

theorem grows_readFree (done : state.readFree argument = .ok next) :
    state.given.Grows next.given := by
  unfold ArgumentState.readFree at done
  split at done <;> cases done
  exact .refl _

theorem grows_read (done : state.read argument = .ok next) : state.given.Grows next.given := by
  unfold ArgumentState.read at done
  split at done
  · cases done
  · split at done
    · cases done
      exact .refl _
    · exact grows_readLong done
    · exact grows_readFree done
    · unfold ArgumentState.readShort at done
      split at done
      · obtain ⟨settled, -, ended⟩ := exists_of_bind_eq_ok done
        cases ended
      · obtain ⟨settled, -, ended⟩ := exists_of_bind_eq_ok done
        cases ended
      · cases done
    · exact grows_readFree done

/-- Arguments add flags and change none. -/
theorem grows_foldlM {arguments : List String}
    (done : arguments.foldlM (fun state argument => state.read argument.toList) state =
      .ok next) : state.given.Grows next.given := by
  induction arguments generalizing state with
  | nil =>
      cases done
      exact .refl _
  | cons argument arguments ih =>
      rw [List.foldlM_cons] at done
      obtain ⟨read, hread, later⟩ := exists_of_bind_eq_ok done
      exact (grows_read hread).trans (ih later)

end ArgumentState

namespace GivenFlags

variable {arguments : List String} {given : GivenFlags}

/-- No flag is given a table. -/
theorem plain_of_ofArguments (read : ofArguments arguments = .ok given) :
    ∀ entry ∈ given, entry.2.fits [] := by
  obtain ⟨state, hstate, later⟩ := exists_of_bind_eq_ok read
  obtain ⟨settled, hsettled, done⟩ := exists_of_bind_eq_ok later
  cases done
  have grown := (ArgumentState.grows_foldlM hstate).trans (ArgumentState.grows_settle hsettled)
  exact grown.plain (List.forall_mem_nil _)

theorem fits_of_find? (plain : ∀ entry ∈ given, entry.2.fits []) {flag : Flag} {value : Tree}
    (found : given.find? flag = some value) : value.fits [] := by
  obtain ⟨entry, hentry, same⟩ := List.exists_of_findSome?_eq_some found
  dsimp only at same
  split at same <;> cases same
  exact plain entry hentry

/-- What is given for a key. -/
def sets? (given : GivenFlags) (key : Key) : Option Tree := key.flag?.bind given.find?

/-- The layer of flags fits every key. -/
theorem fits_layer (plain : ∀ entry ∈ given, entry.2.fits []) (key : Key) :
    (Tree.spread given.layer).fits key.path := by
  rw [Tree.fits_spread key.path_ne_nil]
  intro entry hentry
  obtain ⟨flag, -, said⟩ := List.mem_filterMap.mp hentry
  obtain ⟨name, sets, said⟩ := Option.bind_eq_some_iff.mp said
  obtain ⟨value, found, said⟩ := Option.bind_eq_some_iff.mp said
  cases said
  obtain ⟨other, -, hpath⟩ := Key.exists_path_of_setting? sets
  rw [hpath]
  exact Key.fits_nest (fits_of_find? plain found) other key

/-- A flag says something about the key that it is for, and about no other one. -/
theorem said_flag (given : GivenFlags) (key : Key) (flag : Flag) :
    (flag.setting?.bind fun name => (given.find? flag).bind fun value =>
        (Tree.nest (Tree.pathOf name) value).said key.path) =
      if key.flag? = some flag then given.find? flag else none := by
  cases sets : flag.setting? with
  | none =>
      have unset : key.flag? ≠ some flag := by
        rintro hkey
        cases key <;> cases hkey <;> cases sets
      rw [if_neg unset]
      rfl
  | some name =>
      obtain ⟨other, hother, hpath⟩ := Key.exists_path_of_setting? sets
      rw [Option.bind_some, hpath]
      by_cases same : key.flag? = some flag
      · have equal := Key.flag?_inj hother same
        subst equal
        rw [if_pos same]
        simp [Key.said_nest]
      · have different : other ≠ key := fun equal => same (equal ▸ hother)
        rw [if_neg same]
        simp [Key.said_nest, different]

/-- What the layer of flags says about a key is what was given for it. -/
theorem said_layer (given : GivenFlags) (key : Key) :
    (Tree.spread given.layer).said key.path = given.sets? key := by
  have each : ∀ flag, ((do return (← flag.setting?, ← given.find? flag)) : Option _).bind
      (fun entry => (Tree.nest (Tree.pathOf entry.1) entry.2).said key.path) =
        if key.flag? = some flag then given.find? flag else none := by
    intro flag
    rw [← said_flag]
    cases flag.setting? <;> cases given.find? flag <;> rfl
  rw [Tree.said_spread key.path_ne_nil, ← List.getLast?_filterMap, layer,
    List.filterMap_filterMap]
  simp only [each]
  unfold sets?
  cases key <;> simp [Key.flag?, Flag.all, List.filterMap_cons] <;> split <;> simp [*]

end GivenFlags

end NodeTelemetry.Settings
