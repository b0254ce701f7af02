/-
# Stages of loading

Loading reads the arguments, finds the file, lays the layers and checks what they come
to. Settings are loaded when every stage succeeds, and then they are what the layers come
to; that is all that later proofs need to know about the stages before.
-/

import NodeTelemetry.Settings.Load
import NodeTelemetry.Proofs.Folding

namespace NodeTelemetry.Settings

variable {grammars : Grammars} {look : String → Option String} {environment : Environment}
  {arguments : List String} {given : GivenFlags} {path : Option String}
  {layers : List Tree.Members} {settings : NodeTelemetry.Settings} {isFilter : String → Bool}

/-- Loading comes to what its layers come to. -/
theorem load_of_layers (read : GivenFlags.ofArguments arguments = .ok given)
    (named : filePath environment given = .ok path)
    (laid : layers? grammars look environment given path = some layers) :
    load grammars look environment arguments =
      (ofLayers grammars environment layers).mapError .settings := by
  have readOn : ∀ {next : GivenFlags → Except LoadFault NodeTelemetry.Settings},
      ((GivenFlags.ofArguments arguments).mapError LoadFault.arguments >>= next) = next given := by
    rw [read]
    exact rfl
  have namedOn : ∀ {next : Option String → Except LoadFault NodeTelemetry.Settings},
      ((filePath environment given).mapError LoadFault.arguments >>= next) = next path := by
    rw [named]
    exact rfl
  unfold load
  rw [readOn, namedOn, laid]

/-- Settings that were loaded went through every stage. -/
theorem exists_layers_of_load
    (loaded : load grammars look environment arguments = .ok settings) :
    ∃ given path layers, GivenFlags.ofArguments arguments = .ok given ∧
      filePath environment given = .ok path ∧
      layers? grammars look environment given path = some layers ∧
      ofLayers grammars environment layers = .ok settings := by
  obtain ⟨given, read, named⟩ := exists_of_bind_eq_ok loaded
  obtain ⟨path, named, laid⟩ := exists_of_bind_eq_ok named
  cases known : layers? grammars look environment given path with
  | none =>
      rw [known] at laid
      cases laid
  | some layers =>
      rw [known] at laid
      exact ⟨given, path, layers, mapError_eq_ok.mp read, mapError_eq_ok.mp named, known,
        mapError_eq_ok.mp laid⟩

/-- What is asked of settings. -/
structure Acceptable (isFilter : String → Bool) (settings : NodeTelemetry.Settings) : Prop where
  relay : settings.hasRelay = true
  interval : settings.mainLoopDuration ≠ 0
  level : isFilter settings.log.level = true
  files : settings.log.file.isSome → settings.log.maxFiles ≠ 0

/-- What a fault says about the settings that it is found in. -/
def Violates (isFilter : String → Bool) (settings : NodeTelemetry.Settings) :
    SettingsFault → Prop
  | .relayMissing => settings.hasRelay = false
  | .zeroInterval => settings.mainLoopDuration = 0
  | .badLogLevel level => level = settings.log.level ∧ isFilter level = false
  | .zeroLogFiles => settings.log.file.isSome = true ∧ settings.log.maxFiles = 0
  | .unreadable | .invalid => False

theorem Acceptable.not_violates (acceptable : settings.Acceptable isFilter)
    (fault : SettingsFault) : ¬settings.Violates isFilter fault := by
  intro violates
  cases fault with
  | relayMissing =>
      have noRelay : settings.hasRelay = false := violates
      exact Bool.false_ne_true (noRelay.symm.trans acceptable.relay)
  | zeroInterval => exact acceptable.interval violates
  | badLogLevel level =>
      obtain ⟨rfl, bad⟩ := violates
      exact Bool.false_ne_true (bad.symm.trans acceptable.level)
  | zeroLogFiles => exact acceptable.files violates.1 violates.2
  | unreadable => exact violates
  | invalid => exact violates

/-- A check accepts the settings as they are, or it finds a fault that is there. -/
theorem check_cases (isFilter : String → Bool) (settings : NodeTelemetry.Settings) :
    settings.check isFilter = .ok settings ∧ settings.Acceptable isFilter ∨
      ∃ fault, settings.check isFilter = .error fault ∧ settings.Violates isFilter fault := by
  unfold check
  split
  · next relay => exact .inr ⟨_, rfl, by simpa [Violates] using relay⟩
  · next relay =>
      split
      · next interval => exact .inr ⟨_, rfl, interval⟩
      · next interval =>
          split
          · next level => exact .inr ⟨_, rfl, rfl, by simpa using level⟩
          · next level =>
              split
              · next files => exact .inr ⟨_, rfl, by simpa [Violates] using files⟩
              · next files =>
                  exact .inl ⟨rfl, by simpa using relay, interval, by simpa using level,
                    by simpa using files⟩

theorem check_eq_ok_iff {accepted : NodeTelemetry.Settings} :
    settings.check isFilter = .ok accepted ↔
      accepted = settings ∧ settings.Acceptable isFilter := by
  rcases check_cases isFilter settings with ⟨passes, acceptable⟩ | ⟨fault, refused, violates⟩
  · rw [passes, Except.ok.injEq, eq_comm]
    exact ⟨fun same => ⟨same, acceptable⟩, And.left⟩
  · rw [refused]
    exact ⟨nofun, fun ⟨_, acceptable⟩ => absurd violates (acceptable.not_violates fault)⟩

theorem violates_of_check {fault : SettingsFault}
    (refused : settings.check isFilter = .error fault) : settings.Violates isFilter fault := by
  rcases check_cases isFilter settings with ⟨passes, -⟩ | ⟨found, finds, violates⟩
  · rw [passes] at refused
    cases refused
  · rw [finds] at refused
    cases refused
    exact violates

/-- Settings in layers are what the layers come to when they are laid over each other. -/
theorem ofMembers?_of_ofLayers (accepted : ofLayers grammars environment layers = .ok settings) :
    ofMembers? ((environment.find? nodeVariable).getD unknownNode)
        (layers.foldl (fun members layer => Tree.lay layer members) []) = some settings ∧
      settings.Acceptable grammars.isFilter := by
  unfold ofLayers at accepted
  dsimp only at accepted
  split at accepted
  · cases accepted
  · next held =>
      obtain ⟨rfl, acceptable⟩ := check_eq_ok_iff.mp accepted
      exact ⟨held, acceptable⟩

/-- Loaded settings are acceptable. -/
theorem acceptable_of_load (loaded : load grammars look environment arguments = .ok settings) :
    settings.Acceptable grammars.isFilter := by
  obtain ⟨given, path, layers, -, -, -, accepted⟩ := exists_layers_of_load loaded
  exact (ofMembers?_of_ofLayers accepted).2

end NodeTelemetry.Settings
