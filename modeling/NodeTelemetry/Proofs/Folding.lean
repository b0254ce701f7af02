/-
# Items taken in one after another

Items are taken in from the left, and the first one that fails ends it. If whether an item
fails does not depend on the items before it, then the outcome is known without following the
steps: it is the first fault, or, of each thing that items set, the last setting.

Before that come the few facts about outcomes that reading relies on everywhere: what a stage
that succeeded says about the stages in it.
-/

namespace NodeTelemetry

section Outcomes

variable {ε δ α β : Type} {f : α → β} {read : Except ε α} {y : β} {fault : ε}

theorem map_eq_ok_iff : read.map f = .ok y ↔ ∃ x, read = .ok x ∧ f x = y := by
  cases read with
  | error fault => exact ⟨nofun, fun ⟨_, reads, _⟩ => nomatch reads⟩
  | ok x => exact ⟨fun same => ⟨x, rfl, Except.ok.inj same⟩, fun ⟨_, rfl, same⟩ => congrArg _ same⟩

theorem map_eq_error_iff : read.map f = .error fault ↔ read = .error fault := by
  cases read with
  | error found => exact ⟨fun same => congrArg _ (Except.error.inj same),
      fun same => congrArg _ (Except.error.inj same)⟩
  | ok x => exact ⟨nofun, nofun⟩

theorem exists_of_bind_eq_ok {first : Except ε α} {next : α → Except ε β} {result : β}
    (done : (first >>= next) = .ok result) :
    ∃ value, first = .ok value ∧ next value = .ok result := by
  cases first with
  | error fault => cases done
  | ok value => exact ⟨value, rfl, done⟩

theorem mapError_eq_ok {outcome : Except ε α} {change : ε → δ} {result : α} :
    outcome.mapError change = .ok result ↔ outcome = .ok result := by
  cases outcome with
  | error fault => exact ⟨nofun, nofun⟩
  | ok value => exact ⟨fun same => congrArg _ (Except.ok.inj same),
      fun same => congrArg _ (Except.ok.inj same)⟩

theorem eq_ok_of_toOption {outcome : Except ε α} {result : α}
    (done : outcome.toOption = some result) : outcome = .ok result := by
  cases outcome with
  | error fault => cases done
  | ok value => exact congrArg _ (Option.some.inj done)

end Outcomes

section Folding

variable {σ ι ε α : Type} {Fine : ι → Prop} {Fails : ι → ε → Prop} {Sets : ι → Prop}
  {SetsTo : ι → α → Prop} {step : σ → ι → Except ε σ} {start final : σ} {first second last : α}
  {item : ι} {items others : List ι} {fault : ε}

/-- The fault of the first of some items that is not fine. -/
inductive FirstFault (Fine : ι → Prop) (Fails : ι → ε → Prop) : List ι → ε → Prop where
  | here {item : ι} {rest : List ι} {fault : ε} (fails : Fails item fault) :
      FirstFault Fine Fails (item :: rest) fault
  | later {item : ι} {rest : List ι} {fault : ε} (fine : Fine item)
      (isFirst : FirstFault Fine Fails rest fault) : FirstFault Fine Fails (item :: rest) fault

/-- What the last of some items that sets a thing sets it to. If none of them sets it, then
it stays what it was. -/
inductive LastSetting (Sets : ι → Prop) (SetsTo : ι → α → Prop) (start : α) :
    List ι → α → Prop where
  | unset {items : List ι} (silent : ∀ item ∈ items, ¬Sets item) :
      LastSetting Sets SetsTo start items start
  | set {before after : List ι} {item : ι} {value : α} (sets : Sets item)
      (setsTo : SetsTo item value) (silent : ∀ later ∈ after, ¬Sets later) :
      LastSetting Sets SetsTo start (before ++ item :: after) value

theorem FirstFault.exists_fails (isFirst : FirstFault Fine Fails items fault) :
    ∃ item, Fails item fault := by
  induction isFirst with
  | here fails => exact ⟨_, fails⟩
  | later _ _ ih => exact ih

theorem LastSetting.single (sets : Sets item) (setsTo : SetsTo item last) :
    LastSetting Sets SetsTo first [item] last :=
  @LastSetting.set _ _ _ _ first [] [] item last sets setsTo (List.forall_mem_nil _)

theorem LastSetting.skip (silent : ¬Sets item) : LastSetting Sets SetsTo first [item] first :=
  .unset (List.forall_mem_singleton.mpr silent)

theorem LastSetting.append (early : LastSetting Sets SetsTo first items second)
    (late : LastSetting Sets SetsTo second others last) :
    LastSetting Sets SetsTo first (items ++ others) last := by
  cases late with
  | set sets setsTo silent =>
      rw [← List.append_assoc]
      exact .set sets setsTo silent
  | unset silent =>
      cases early with
      | unset silentEarly => exact .unset (List.forall_mem_append.mpr ⟨silentEarly, silent⟩)
      | set sets setsTo silentEarly =>
          rw [List.append_assoc, List.cons_append]
          exact .set sets setsTo (List.forall_mem_append.mpr ⟨silentEarly, silent⟩)

/-- Items that are taken in one after another, and that fail whatever was taken in before
them, fail with the first fault. -/
theorem foldlM_eq_error_iff
    (fails : ∀ {state item fault}, step state item = .error fault ↔ Fails item fault)
    (fine : ∀ {item}, Fine item ↔ ∀ fault, ¬Fails item fault) :
    items.foldlM step start = .error fault ↔ FirstFault Fine Fails items fault := by
  induction items generalizing start with
  | nil => exact ⟨nofun, nofun⟩
  | cons item rest ih =>
      rw [List.foldlM_cons]
      cases taken : step start item with
      | error found =>
          have failed := fails.mp taken
          refine ⟨fun same => ?_, fun isFirst => ?_⟩
          · cases same
            exact .here failed
          · cases isFirst with
            | here other =>
                have same : step start item = _ := fails.mpr other
                rw [taken] at same
                exact same
            | later isFine _ => exact absurd failed (fine.mp isFine found)
      | ok next =>
          have isFine : ∀ fault, ¬Fails item fault := fun fault failed => by
            rw [fails.mpr failed] at taken
            cases taken
          refine ⟨fun failed => .later (fine.mpr isFine) (ih.mp failed), fun isFirst => ?_⟩
          cases isFirst with
          | here other => exact absurd other (isFine _)
          | later _ isFirst => exact ih.mpr isFirst

/-- All items are fine if there is no first fault. -/
theorem forall_fine_iff (fine : ∀ {item}, Fine item ↔ ∀ fault, ¬Fails item fault) :
    (∀ item ∈ items, Fine item) ↔ ∀ fault, ¬FirstFault Fine Fails items fault := by
  induction items with
  | nil => exact ⟨fun _ _ => nofun, fun _ => List.forall_mem_nil _⟩
  | cons item rest ih =>
      rw [List.forall_mem_cons, ih]
      constructor
      · rintro ⟨isFine, others⟩ fault isFirst
        cases isFirst with
        | here failed => exact fine.mp isFine fault failed
        | later _ isFirst => exact others fault isFirst
      · intro faultless
        have isFine : Fine item := fine.mpr fun fault failed => faultless fault (.here failed)
        exact ⟨isFine, fun fault isFirst => faultless fault (.later isFine isFirst)⟩

theorem foldlM_eq_ok_iff
    (fails : ∀ {state item fault}, step state item = .error fault ↔ Fails item fault)
    (fine : ∀ {item}, Fine item ↔ ∀ fault, ¬Fails item fault) :
    (∃ final, items.foldlM step start = .ok final) ↔ ∀ item ∈ items, Fine item := by
  have failed : ∀ fault, items.foldlM step start = .error fault ↔ _ := fun fault =>
    foldlM_eq_error_iff fails fine
  rw [forall_fine_iff fine]
  cases read : items.foldlM step start with
  | ok final =>
      refine ⟨fun _ fault isFirst => ?_, fun _ => ⟨final, rfl⟩⟩
      rw [(failed fault).mpr isFirst] at read
      cases read
  | error fault => exact ⟨nofun, fun faultless => absurd ((failed fault).mp read) (faultless fault)⟩

/-- What each step sets, if at all, is in the end what the last step that sets it left. -/
theorem lastSetting_of_foldlM {part : σ → α}
    (sets : ∀ {state item next}, step state item = .ok next →
      LastSetting Sets SetsTo (part state) [item] (part next))
    (read : items.foldlM step start = .ok final) :
    LastSetting Sets SetsTo (part start) items (part final) := by
  induction items generalizing start with
  | nil =>
      cases read
      exact .unset (List.forall_mem_nil _)
  | cons item rest ih =>
      rw [List.foldlM_cons] at read
      cases taken : step start item with
      | error found =>
          rw [taken] at read
          cases read
      | ok next =>
          rw [taken] at read
          exact (sets taken).append (ih read)

end Folding

end NodeTelemetry
