/-
# Texts taken for something else

Some settings are texts. A text that a flag gives is kept as it is. One that a variable gives
is kept only if it is spelled like what variables are taken for: a node that is called `007`
by a variable is called `7`.
-/

import NodeTelemetry.Proofs.Settings.Guessing

namespace NodeTelemetry.Settings

/-! ## Arguments -/

/-- An argument that gives a flag a value. -/
def Flag.argument (flag : Flag) (value : String) : String := "--" ++ flag.name ++ "=" ++ value

/-- An argument that gives a flag a value is read as that. -/
theorem ArgumentState.find?_read_argument {state next : ArgumentState} {flag : Flag}
    {text : String}
    (done : state.read (flag.argument text).toList = .ok next) :
    ∃ tree, flag.domain.read text = .ok tree ∧ next.given.find? flag = some tree := by
  have spelled : (flag.argument text).toList =
      '-' :: '-' :: (flag.name.toList ++ '=' :: text.toList) := by
    unfold Flag.argument
    rw [String.toList_append, String.toList_append, String.toList_append]
    simp
  have unmarked : '=' ∉ flag.name.toList := by cases flag <;> decide
  have noHelp : flag.name.toList ≠ "help".toList := by cases flag <;> decide
  have noVersion : flag.name.toList ≠ "version".toList := by cases flag <;> decide
  have known : Flag.ofName? flag.name.toList = some flag := by cases flag <;> decide
  have nonempty : flag.name.toList ++ '=' :: text.toList ≠ [] :=
    fun none => nomatch (List.append_eq_nil_iff.mp none).2
  rw [spelled, ArgumentState.read] at done
  · split at done
    · cases done
    · unfold ArgumentState.readLong at done
      rw [Text.splitOnce_append text.toList unmarked] at done
      dsimp only at done
      rw [if_neg noHelp, if_neg noVersion, known] at done
      obtain ⟨settled, -, accepted⟩ := exists_of_bind_eq_ok done
      obtain ⟨_, tree, same, -, read, given⟩ := accept_cases accepted
      rw [← Option.some.inj same, String.ofList_toList] at read
      refine ⟨tree, read, ?_⟩
      rw [given, GivenFlags.find?, List.findSome?_cons]
      dsimp only
      rw [if_pos rfl]
  · exact nonempty

/-- A value in the arguments is given, however they go on. -/
theorem GivenFlags.find?_of_mem {arguments : List String} {given : GivenFlags} {flag : Flag}
    {value : String} (read : ofArguments arguments = .ok given)
    (listed : flag.argument value ∈ arguments) :
    ∃ tree, flag.domain.read value = .ok tree ∧ given.find? flag = some tree := by
  obtain ⟨before, after, rfl⟩ := List.append_of_mem listed
  obtain ⟨state, hstate, later⟩ := exists_of_bind_eq_ok read
  obtain ⟨settled, hsettled, done⟩ := exists_of_bind_eq_ok later
  cases done
  rw [List.foldlM_append] at hstate
  obtain ⟨early, -, hstate⟩ := exists_of_bind_eq_ok hstate
  rw [List.foldlM_cons] at hstate
  obtain ⟨next, hnext, hstate⟩ := exists_of_bind_eq_ok hstate
  obtain ⟨tree, valid, found⟩ := ArgumentState.find?_read_argument hnext
  exact ⟨tree, valid,
    ((ArgumentState.grows_foldlM hstate).trans (ArgumentState.grows_settle hsettled)).find? found⟩

/-! ## Texts -/

namespace Key

/-- The settings that are texts. -/
def texts : List Key := [.nodeName, .relayAddress, .runtimeEndpoint, .logLevel, .logFile]

/-- The text of a setting that is one, if it is set. -/
def text? (settings : NodeTelemetry.Settings) : Key → Option String
  | .nodeName => some settings.nodeName
  | .relayAddress => settings.relayAddress
  | .runtimeEndpoint => settings.runtimeEndpoint
  | .logLevel => some settings.log.level
  | .logFile => settings.log.file
  | _ => none

variable {key : Key} {flag : Flag} {value : String} {tree : Tree} {nodeName : String}
  {members : Tree.Members} {settings : NodeTelemetry.Settings}

theorem text?_of_orNull {text : Option String} (notNull : tree ≠ .null)
    (converted : orNull Tree.text? tree = some text) : tree.text? = text := by
  have read : tree.text?.map some = some text := by
    cases tree with
    | null => exact absurd rfl notNull
    | _ => exact converted
  obtain ⟨spelled, printed, rfl⟩ := Option.map_eq_some_iff.mp read
  exact printed

/-- A setting that is a text is what stands for it, as a text. -/
theorem text?_of_convert (isText : key ∈ texts) (notNull : tree ≠ .null)
    (converted : key.convert tree = some (key.get settings)) :
    key.text? settings = tree.text? := by
  cases key with
  | nodeName => exact converted.symm
  | relayAddress => exact (text?_of_orNull notNull converted).symm
  | runtimeEndpoint => exact (text?_of_orNull notNull converted).symm
  | logLevel => exact converted.symm
  | logFile => exact (text?_of_orNull notNull converted).symm
  | _ => exact absurd isText (by decide)

/-- The flag for a text does not change it. -/
theorem read_of_isText (isText : key ∈ texts) (hflag : key.flag? = some flag)
    (read : flag.domain.read value = .ok tree) : tree = .text value := by
  have verbatim : ∀ domain : Domain, domain = .text ∨ domain = .path →
      domain.read value = .ok tree → tree = .text value := by
    rintro domain (rfl | rfl) read
    · cases read
      rfl
    · unfold Domain.read at read
      dsimp only at read
      split at read <;> cases read
      rfl
  refine verbatim flag.domain ?_ read
  cases key with
  | nodeName => cases hflag; exact .inl rfl
  | relayAddress => cases hflag; exact .inl rfl
  | runtimeEndpoint => cases hflag; exact .inl rfl
  | logLevel => cases hflag; exact .inl rfl
  | logFile => cases hflag; exact .inr rfl
  | _ => exact absurd isText (by decide)

/-- If a table that holds settings has something under the path of a key, then the setting is
converted from that. -/
theorem convert_of_ofMembers? (read : ofMembers? nodeName members = some settings)
    (there : Tree.look key.path members = some tree) :
    key.convert tree = some (key.get settings) := by
  -- Something under a name of the log shows that the log is a table.
  have tabled : ∀ name, Tree.look ["log", name] members = some tree →
      Tree.Tabled "log" members := by
    intro name there log held
    change (members.find? "log").bind (fun tree => tree.members.find? name) = some tree at there
    rw [held, Option.bind_some] at there
    cases log with
    | table inner => exact ⟨inner, rfl⟩
    | _ => cases there
  have resolved : key.resolve nodeName (Tree.look key.path members) = some (key.get settings) := by
    simp only [ofMembers?, required?_eq_elim, optional?_eq_elim, Option.bind_eq_bind,
      Option.bind_eq_some_iff, Option.pure_def, Option.some_inj] at read
    obtain ⟨_, hnodeName, _, hapiPort, _, hrelayAddress, _, hmainLoopDuration, _,
      hbufferRetention, _, htopN, _, hruntimeEndpoint, _, hsourceTimeout, _, hallSandboxes, log,
      hlog, rfl⟩ := read
    cases key with
    | logLevel => exact ((log?_eq_some_iff (tabled _ there)).mp hlog).1
    | logFile => exact ((log?_eq_some_iff (tabled _ there)).mp hlog).2.1
    | logRotation => exact ((log?_eq_some_iff (tabled _ there)).mp hlog).2.2.1
    | logMaxFiles => exact ((log?_eq_some_iff (tabled _ there)).mp hlog).2.2.2
    | _ => assumption
  rwa [there] at resolved

end Key

section Loading

variable {grammars : Grammars} {look : String → Option String} {environment : Environment}
  {arguments : List String} {given : GivenFlags} {settings : NodeTelemetry.Settings} {key : Key}
  {tree : Tree} {value : String}

/-- Settings that were loaded are in the tree in which the environment and the flags were laid
over the file, if there is one. -/
theorem exists_base_of_load (read : GivenFlags.ofArguments arguments = .ok given)
    (loaded : load grammars look environment arguments = .ok settings) :
    ∃ base, ofMembers? ((environment.find? nodeVariable).getD unknownNode)
      (Tree.lay given.layer (Tree.lay environment.layer base)) = some settings := by
  obtain ⟨_, path, layers, same, -, laid, accepted⟩ := exists_layers_of_load loaded
  rw [read] at same
  cases same
  have held := (ofMembers?_of_ofLayers accepted).1
  unfold layers? at laid
  cases path with
  | none =>
      cases laid
      exact ⟨[], held⟩
  | some path =>
      obtain ⟨file, -, rfl⟩ := Option.map_eq_some_iff.mp laid
      exact ⟨Tree.lay file [], held⟩

/-- What is given for a text is kept as it is. -/
theorem text?_of_given (read : GivenFlags.ofArguments arguments = .ok given)
    (loaded : load grammars look environment arguments = .ok settings) (isText : key ∈ Key.texts)
    (sets : given.sets? key = some (.text value)) : key.text? settings = some value := by
  obtain ⟨base, held⟩ := exists_base_of_load read loaded
  have plain := GivenFlags.plain_of_ofArguments read
  have there : Tree.look key.path (Tree.lay given.layer (Tree.lay environment.layer base)) =
      some (.text value) := by
    rw [Tree.look_lay key.path_ne_nil (GivenFlags.fits_layer plain key), GivenFlags.said_layer,
      sets, Option.some_or]
  have notNull : Tree.text value ≠ .null := nofun
  exact Key.text?_of_convert isText notNull (Key.convert_of_ofMembers? held there)

/-- What a variable sets a text to is printed from what it is taken for. -/
theorem text?_of_sets (read : GivenFlags.ofArguments arguments = .ok given)
    (loaded : load grammars look environment arguments = .ok settings) (isText : key ∈ Key.texts)
    (unset : given.sets? key = none) (sets : environment.Sets key value) :
    key.text? settings = (Environment.guess value).text? := by
  obtain ⟨base, held⟩ := exists_base_of_load read loaded
  have plain := GivenFlags.plain_of_ofArguments read
  have there : Tree.look key.path (Tree.lay given.layer (Tree.lay environment.layer base)) =
      some (Environment.guess value) := by
    rw [Tree.look_lay key.path_ne_nil (GivenFlags.fits_layer plain key), GivenFlags.said_layer,
      unset, Option.none_or, Tree.look_lay key.path_ne_nil sets.fits_layer]
    have said := sets.sets?_eq
    unfold Environment.sets? at said
    rw [said, Option.some_or]
  exact Key.text?_of_convert isText (Environment.guess_ne_null value)
    (Key.convert_of_ofMembers? held there)

/-- What becomes of a text that a setting is given. -/
structure ReadsText (environment : Environment) (arguments : List String) (key : Key)
    (settings : NodeTelemetry.Settings) (value : String) : Prop where
  /-- By a flag, it is kept as it is. -/
  byFlag : ∀ flag, key.flag? = some flag → flag.argument value ∈ arguments →
    key.text? settings = some value
  /-- By a variable, it is printed from what it is taken for, and kept if it is spelled so. -/
  byVariable : ∀ given, GivenFlags.ofArguments arguments = .ok given → given.sets? key = none →
    environment.Sets key value →
    key.text? settings = (Environment.guess value).text? ∧
      (key.text? settings = some value ↔ Environment.Kept value)

/-- Every setting that is a text is read so. -/
theorem reads_text (loaded : load grammars look environment arguments = .ok settings)
    (isText : key ∈ Key.texts) (value : String) :
    ReadsText environment arguments key settings value where
  byFlag flag hflag listed := by
    obtain ⟨given, _, _, read, -⟩ := exists_layers_of_load loaded
    obtain ⟨tree, valid, found⟩ := GivenFlags.find?_of_mem read listed
    rw [Key.read_of_isText isText hflag valid] at found
    refine text?_of_given read loaded isText ?_
    rw [GivenFlags.sets?, hflag, Option.bind_some, found]
  byVariable given read unset sets := by
    have printed := text?_of_sets read loaded isText unset sets
    rw [printed]
    exact ⟨rfl, Environment.text?_guess_eq_iff⟩

end Loading

/-! ## Names of nodes -/

/-- An environment that names the node. -/
def naming (name : String) : Environment :=
  [("AGENT_RELAY_ADDRESS", "r:1"), ("AGENT_NODE_NAME", name)]

/-- Settings of a node. -/
def named (name : String) : NodeTelemetry.Settings :=
  { nodeName := name, relayAddress := some "r:1" }

theorem sets_naming (name : String) : (naming name).Sets .nodeName name where
  listed := List.mem_cons_of_mem _ (List.mem_singleton_self _)
  alone := by
    obtain ⟨relay, itself, leads⟩ := Environment.setting?_variableName .relayAddress "r:1"
    refine List.forall_mem_cons.mpr ⟨.inr fun name tree said => ?_,
      List.forall_mem_singleton.mpr (.inl rfl)⟩
    obtain ⟨rfl, -⟩ := Prod.mk.inj (Option.some.inj (itself.symm.trans said))
    rw [leads, Key.map_fold_path]
    exact Key.apart_path (by decide)

/-- A name with letters is kept. -/
theorem reads_text_lettered :
    load .standard (fun _ => none) (naming "node-7") ["--log-level=info"] =
        .ok (named "node-7") ∧
      Key.nodeName ∈ Key.texts ∧
      ReadsText (naming "node-7") ["--log-level=info"] .nodeName (named "node-7") "node-7" ∧
      Environment.Kept "node-7" := by
  have loaded : load .standard (fun _ => none) (naming "node-7") ["--log-level=info"] =
      .ok (named "node-7") := eq_ok_of_toOption (by decide +kernel)
  have isText : Key.nodeName ∈ Key.texts := by decide
  have reads := reads_text loaded isText "node-7"
  obtain ⟨-, kept⟩ := reads.byVariable [(.logLevel, .text "info")] rfl rfl (sets_naming "node-7")
  exact ⟨loaded, isText, reads, kept.mp rfl⟩

/-- A name of digits is kept if a flag gives it. A variable is taken for a number, and its
zeros are lost. -/
theorem numbered_node_renamed :
    load .standard (fun _ => none) [("AGENT_RELAY_ADDRESS", "r:1")] ["--node-name=007"] =
        .ok (named "007") ∧
      (naming "007").Sets .nodeName "007" ∧
      load .standard (fun _ => none) (naming "007") [] = .ok (named "7") ∧
      Key.text? (named "7") .nodeName ≠ some "007" :=
  ⟨eq_ok_of_toOption (by decide +kernel), sets_naming "007",
    eq_ok_of_toOption (by decide +kernel), by decide⟩

end NodeTelemetry.Settings
