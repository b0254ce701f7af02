/-
# Overriding

Each setting is decided on its own: by its flag, if that is given, else by the latest
variable for it, else by the latest entry for it in the file, and else it has its standard
value. What the layers below say about it, and whether that could be converted, does not
matter; nor does what any layer says about other settings.

The file and the environment are taken to be about settings as they are: nothing in them
replaces the table of the log by a value or a setting by a table. Apart from that they may
say anything, also about names that mean nothing, and more than once. It does not matter how
files and log filters are written: all this holds for every choice of grammars.
-/

import NodeTelemetry.Proofs.Settings.Given

namespace NodeTelemetry.Settings

/-! ## Variables -/

/-- The variable that sets a setting. -/
def Key.variableName : Key → String
  | .nodeName => "AGENT_NODE_NAME"
  | .apiPort => "AGENT_API_PORT"
  | .relayAddress => "AGENT_RELAY_ADDRESS"
  | .mainLoopDuration => "AGENT_MAIN_LOOP_DURATION"
  | .bufferRetention => "AGENT_BUFFER_RETENTION"
  | .topN => "AGENT_TOP_N"
  | .runtimeEndpoint => "AGENT_RUNTIME_ENDPOINT"
  | .sourceTimeout => "AGENT_SOURCE_TIMEOUT"
  | .allSandboxes => "AGENT_ALL_SANDBOXES"
  | .logLevel => "AGENT_LOG__LEVEL"
  | .logFile => "AGENT_LOG__FILE"
  | .logRotation => "AGENT_LOG__ROTATION"
  | .logMaxFiles => "AGENT_LOG__MAX_FILES"

namespace Environment

variable (environment : Environment)

/-- What the environment says about a key. -/
def sets? (key : Key) : Option Tree := (Tree.spread environment.layer).said key.path

/-- A variable that is called like one of a key leads to the path of the key. -/
theorem setting?_variableName (key : Key) (value : String) :
    ∃ name, setting? key.variableName value = some (name, guess value) ∧
      Tree.pathOf name = key.path := by
  have leads : ∀ name : String,
      leadingText.toList.isPrefixOf (Tree.fold key.variableName).toList = true →
      dotted ((Tree.fold key.variableName).toList.drop leadingText.length) = name.toList →
      Tree.pathOf name = key.path → ∃ name,
        setting? key.variableName value = some (name, guess value) ∧
          Tree.pathOf name = key.path := by
    intro name begins rest path
    refine ⟨name, ?_, path⟩
    unfold setting?
    simp only [begins, if_true, rest, String.ofList_toList]
  cases key with
  | nodeName => exact leads "node_name" (by decide) (by decide) (by decide)
  | apiPort => exact leads "api_port" (by decide) (by decide) (by decide)
  | relayAddress => exact leads "relay_address" (by decide) (by decide) (by decide)
  | mainLoopDuration => exact leads "main_loop_duration" (by decide) (by decide) (by decide)
  | bufferRetention => exact leads "buffer_retention" (by decide) (by decide) (by decide)
  | topN => exact leads "top_n" (by decide) (by decide) (by decide)
  | runtimeEndpoint => exact leads "runtime_endpoint" (by decide) (by decide) (by decide)
  | sourceTimeout => exact leads "source_timeout" (by decide) (by decide) (by decide)
  | allSandboxes => exact leads "all_sandboxes" (by decide) (by decide) (by decide)
  | logLevel => exact leads "log.level" (by decide) (by decide) (by decide)
  | logFile => exact leads "log.file" (by decide) (by decide) (by decide)
  | logRotation => exact leads "log.rotation" (by decide) (by decide) (by decide)
  | logMaxFiles => exact leads "log.max_files" (by decide) (by decide) (by decide)

/-- A variable sets the key that it is named for, and no other one. -/
theorem sets?_concat (key other : Key) (value : String) :
    sets? (environment ++ [(key.variableName, value)]) other =
      if key = other then some (guess value) else environment.sets? other := by
  obtain ⟨name, sets, hpath⟩ := setting?_variableName key value
  have extended : layer (environment ++ [(key.variableName, value)]) =
      environment.layer ++ [(name, guess value)] := by
    simp [layer, List.filterMap_append, sets]
  unfold Environment.sets?
  rw [extended, Tree.said_spread other.path_ne_nil, List.reverse_append,
    List.findSome?_append, List.reverse_singleton, List.findSome?_singleton, hpath,
    Key.said_nest, ← Tree.said_spread other.path_ne_nil]
  by_cases same : key = other
  · rw [if_pos same, if_pos same, Option.some_or]
  · rw [if_neg same, if_neg same, Option.none_or]

/-- The variables of settings do not name the node in the place of a setting. -/
theorem find?_concat (key : Key) (value : String) :
    Environment.find? (environment ++ [(key.variableName, value)]) nodeVariable =
      environment.find? nodeVariable := by
  have apart : key.variableName ≠ nodeVariable := by cases key <;> decide
  simp [Environment.find?, List.foldl_append, apart]

end Environment

/-! ## Sources -/

/-- What settings are loaded from. -/
structure Sources where
  /-- The file's settings; there are none without a file. -/
  file : Tree.Members := []
  environment : Environment := []
  given : GivenFlags := []

namespace Sources

variable (sources : Sources)

/-- What counts for a key, if anything is said about it: the flag, then the environment,
then the file. -/
def winner? (key : Key) : Option Tree :=
  (sources.given.sets? key).or <|
    (sources.environment.sets? key).or <| (Tree.spread sources.file).said key.path

/-- The name of a node that is named by no setting. -/
def nodeName : String := (sources.environment.find? nodeVariable).getD unknownNode

/-- The value of a key, unless what counts for it cannot be converted. -/
def value? (key : Key) : Option key.Kind := key.resolve sources.nodeName (sources.winner? key)

/-- One more flag. -/
def withFlag (flag : Flag) (value : Tree) : Sources :=
  { sources with given := (flag, value) :: sources.given }

/-- One more variable for a key. -/
def withVariable (key : Key) (value : String) : Sources :=
  { sources with environment := sources.environment ++ [(key.variableName, value)] }

theorem value?_withFlag (flag : Flag) (value : Tree) (key : Key) :
    (sources.withFlag flag value).value? key =
      if key.flag? = some flag then key.convert value else sources.value? key := by
  have given : ∀ other, GivenFlags.find? ((flag, value) :: sources.given) other =
      if flag = other then some value else sources.given.find? other := by
    intro other
    unfold GivenFlags.find?
    rw [List.findSome?_cons]
    by_cases same : flag = other <;> simp [same]
  unfold value? winner? withFlag GivenFlags.sets?
  cases hflag : key.flag? with
  | none => rfl
  | some other =>
      simp only [Option.bind_some, given]
      by_cases same : flag = other
      · subst same
        simp [Key.resolve]
      · have apart : (some other : Option Flag) ≠ some flag :=
          fun equal => same (Option.some.inj equal).symm
        rw [if_neg same, if_neg apart]
        rfl

theorem value?_withVariable {key : Key} (unflagged : sources.given.sets? key = none)
    (value : String) :
    (sources.withVariable key value).value? key = key.convert (Environment.guess value) := by
  unfold value? winner? withVariable
  rw [unflagged, Environment.sets?_concat, if_pos rfl]
  rfl

theorem value?_withVariable_other {key other : Key} (different : other ≠ key) (value : String) :
    (sources.withVariable other value).value? key = sources.value? key := by
  unfold value? winner? nodeName withVariable
  rw [Environment.sets?_concat, if_neg different, Environment.find?_concat]

/-- The tree that the layers come to. -/
def members : Tree.Members :=
  [sources.file, sources.environment.layer, sources.given.layer].foldl
    (fun members layer => Tree.lay layer members) []

/-- Loading with some arguments uses these sources, and they fit the paths of all keys. -/
structure Found (grammars : Grammars) (look : String → Option String)
    (arguments : List String) : Prop where
  given : GivenFlags.ofArguments arguments = .ok sources.given
  file : (filePath sources.environment sources.given = .ok none ∧ sources.file = []) ∨
    ∃ path, filePath sources.environment sources.given = .ok (some path) ∧
      fileLayer? grammars.read? look path = some sources.file
  fits : ∀ key : Key, (Tree.spread sources.file).fits key.path
  fitsEnvironment : ∀ key : Key, (Tree.spread sources.environment.layer).fits key.path

variable {sources} {grammars : Grammars} {look : String → Option String}
  {arguments : List String} {settings : NodeTelemetry.Settings}

namespace Found

/-- In the tree, the path of a key leads to what counts for it. -/
theorem look_members (found : sources.Found grammars look arguments) (key : Key) :
    Tree.look key.path sources.members = sources.winner? key := by
  have plain := GivenFlags.plain_of_ofArguments found.given
  unfold members winner? Environment.sets?
  rw [List.foldl_cons, List.foldl_cons, List.foldl_cons, List.foldl_nil,
    Tree.look_lay key.path_ne_nil (GivenFlags.fits_layer plain key),
    Tree.look_lay key.path_ne_nil (found.fitsEnvironment key),
    Tree.look_lay key.path_ne_nil (found.fits key), Tree.look_nil, Option.or_none,
    GivenFlags.said_layer]

/-- The log stays a table, if there is one. -/
theorem tabled_members (found : sources.Found grammars look arguments) :
    Tree.Tabled "log" sources.members := by
  have plain := GivenFlags.plain_of_ofArguments found.given
  have empty : Tree.Tabled "log" [] := fun tree there => by cases there
  exact ((empty.lay (found.fits .logLevel)).lay (found.fitsEnvironment .logLevel)).lay
    (GivenFlags.fits_layer plain .logLevel)

theorem load_eq (found : sources.Found grammars look arguments) :
    load grammars look sources.environment arguments =
      (match ofMembers? sources.nodeName sources.members with
        | none => .error .invalid
        | some settings => settings.check grammars.isFilter :
          Except SettingsFault _).mapError .settings := by
  rcases found.file with ⟨unnamed, noFile⟩ | ⟨path, named, read⟩
  · have laid : layers? grammars look sources.environment sources.given none =
        some [sources.environment.layer, sources.given.layer] := rfl
    rw [load_of_layers found.given unnamed laid]
    unfold ofLayers members
    rw [noFile]
    rfl
  · have laid : layers? grammars look sources.environment sources.given (some path) =
        some [sources.file, sources.environment.layer, sources.given.layer] := by
      simp [layers?, read]
    rw [load_of_layers found.given named laid]
    rfl

theorem ofMembers?_eq_some_iff (found : sources.Found grammars look arguments) :
    ofMembers? sources.nodeName sources.members = some settings ↔
      ∀ key : Key, sources.value? key = some (key.get settings) := by
  rw [Settings.ofMembers?_eq_some_iff found.tabled_members]
  simp only [found.look_members]
  rfl

theorem ofMembers?_eq_none_iff (found : sources.Found grammars look arguments) :
    ofMembers? sources.nodeName sources.members = none ↔
      ∃ key : Key, sources.value? key = none := by
  rw [Settings.ofMembers?_eq_none_iff found.tabled_members]
  simp only [found.look_members]
  rfl

theorem load_eq_ok_iff (found : sources.Found grammars look arguments) :
    load grammars look sources.environment arguments = .ok settings ↔
      (∀ key : Key, sources.value? key = some (key.get settings)) ∧
        settings.Acceptable grammars.isFilter := by
  rw [found.load_eq, mapError_eq_ok, ← found.ofMembers?_eq_some_iff]
  cases ofMembers? sources.nodeName sources.members with
  | none => simp
  | some read =>
      rw [check_eq_ok_iff, Option.some_inj, eq_comm]
      constructor
      · rintro ⟨rfl, acceptable⟩
        exact ⟨rfl, acceptable⟩
      · rintro ⟨rfl, acceptable⟩
        exact ⟨rfl, acceptable⟩

/-- A failure is that of a key or of a check. -/
theorem load_eq_error_cases (found : sources.Found grammars look arguments) {fault : LoadFault}
    (failed : load grammars look sources.environment arguments = .error fault) :
    (fault = .settings .invalid ∧ ∃ key : Key, sources.value? key = none) ∨
      ∃ settings cause, fault = .settings cause ∧ settings.Violates grammars.isFilter cause ∧
        ∀ key : Key, sources.value? key = some (key.get settings) := by
  rw [found.load_eq] at failed
  cases read : ofMembers? sources.nodeName sources.members with
  | none =>
      rw [read] at failed
      cases failed
      exact .inl ⟨rfl, found.ofMembers?_eq_none_iff.mp read⟩
  | some settings =>
      rw [read] at failed
      dsimp only at failed
      cases checked : settings.check grammars.isFilter with
      | ok accepted =>
          rw [checked] at failed
          cases failed
      | error cause =>
          rw [checked] at failed
          cases failed
          exact .inr ⟨settings, cause, rfl, violates_of_check checked,
            found.ofMembers?_eq_some_iff.mp read⟩

theorem load_eq_invalid_iff (found : sources.Found grammars look arguments) :
    load grammars look sources.environment arguments = .error (.settings .invalid) ↔
      ∃ key : Key, sources.value? key = none := by
  constructor
  · intro failed
    rcases found.load_eq_error_cases failed with ⟨-, unresolved⟩ | ⟨_, _, same, violates, -⟩
    · exact unresolved
    · cases same
      exact violates.elim
  · intro unresolved
    rw [found.load_eq, found.ofMembers?_eq_none_iff.mpr unresolved]
    rfl

end Found

/-- What is promised of loading from given sources. -/
structure OverridesKeyByKey (sources : Sources) (isFilter : String → Bool)
    (outcome : Except LoadFault NodeTelemetry.Settings) : Prop where
  /-- Settings are loaded if every key has its value in them and they are acceptable. -/
  loaded : ∀ settings, outcome = .ok settings ↔
    (∀ key : Key, sources.value? key = some (key.get settings)) ∧ settings.Acceptable isFilter
  /-- Settings are invalid if what counts for some key cannot be converted. -/
  invalid : outcome = .error (.settings .invalid) ↔ ∃ key : Key, sources.value? key = none
  /-- Any other failure is a violation by the values that count. -/
  refused : ∀ fault, outcome = .error fault → fault ≠ .settings .invalid →
    ∃ settings cause, fault = .settings cause ∧ settings.Violates isFilter cause ∧
      ∀ key : Key, sources.value? key = some (key.get settings)
  /-- One more flag decides the key that it is for, and leaves all others alone. -/
  oneFlag : ∀ flag value (key : Key), (sources.withFlag flag value).value? key =
    if key.flag? = some flag then key.convert value else sources.value? key
  /-- One more variable decides its key unless a flag does, and leaves all others alone. -/
  oneVariable : ∀ (key : Key) value,
    (sources.given.sets? key = none →
      (sources.withVariable key value).value? key = key.convert (Environment.guess value)) ∧
    ∀ other : Key, other ≠ key →
      (sources.withVariable key value).value? other = sources.value? other

/-- Layers override each other key by key. -/
theorem overrides_key_by_key (found : sources.Found grammars look arguments) :
    sources.OverridesKeyByKey grammars.isFilter
      (load grammars look sources.environment arguments) where
  loaded _ := found.load_eq_ok_iff
  invalid := found.load_eq_invalid_iff
  refused fault failed notInvalid := by
    rcases found.load_eq_error_cases failed with ⟨invalid, -⟩ | violated
    · exact absurd invalid notInvalid
    · exact violated
  oneFlag := sources.value?_withFlag
  oneVariable key value :=
    ⟨fun unflagged => sources.value?_withVariable unflagged value,
      fun _ apart => sources.value?_withVariable_other apart.symm value⟩

/-! ## All layers at once -/

/-- A file with a number that is none. -/
def layeredFiles (name : String) : Option String :=
  if name = "agent.toml" then
    some "relay_address = \"r:1\"\ntop_n = \"many\"\n[log]\nlevel = \"trace\"\nmax_files = 7\n"
  else none

def layeredArguments : List String := ["--config", "agent.toml", "--log-level=debug"]

/-- What the file comes to. -/
@[irreducible]
def layeredFile : Tree.Members := (fileLayer? Format.read? layeredFiles "agent.toml").getD []

/-- The environment and the flag override what the file says about two of its keys. -/
def layered : Sources where
  file := layeredFile
  environment := [("AGENT_TOP_N", "3"), ("AGENT_LOG__LEVEL", "warn")]
  given := [(.logLevel, .text "debug"), (.config, .text "agent.toml")]

theorem read_layeredFile :
    fileLayer? Format.read? layeredFiles "agent.toml" = some layeredFile := by
  have readable : (fileLayer? Format.read? layeredFiles "agent.toml").isSome := by
    decide +kernel
  obtain ⟨file, read⟩ := Option.isSome_iff_exists.mp readable
  rw [layeredFile, read, Option.getD_some]

theorem found_layered : layered.Found .standard layeredFiles layeredArguments := by
  have fits : ∀ key ∈ Key.all, (Tree.spread layered.file).fits key.path := by decide +kernel
  have fitsEnvironment : ∀ key ∈ Key.all,
      (Tree.spread layered.environment.layer).fits key.path := by
    decide +kernel
  exact {
    given := rfl
    file := .inr ⟨"agent.toml", rfl, read_layeredFile⟩
    fits := fun key => fits key key.mem_all
    fitsEnvironment := fun key => fitsEnvironment key key.mem_all }

/-- The number that is none does not matter, and the flag for the level of the log leaves
the number of files as it is in the file. -/
theorem overrides_key_by_key_layered :
    layered.Found .standard layeredFiles layeredArguments ∧
      layered.OverridesKeyByKey Grammars.standard.isFilter
        (load .standard layeredFiles layered.environment layeredArguments) ∧
      ((Tree.spread layeredFile).said Key.topN.path).bind (Key.convert .topN) = none ∧
      load .standard layeredFiles layered.environment layeredArguments =
        .ok { nodeName := unknownNode, relayAddress := some "r:1", topN := 3,
              log := { level := "debug", maxFiles := 7 } } :=
  ⟨found_layered, overrides_key_by_key found_layered, by decide +kernel,
    eq_ok_of_toOption (by decide +kernel)⟩

end Sources

end NodeTelemetry.Settings
