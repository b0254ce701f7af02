/-
# Trees that say the same

A record says the same in whatever order its members stand. An absent value is null, and it
may as well be left out; what else a record holds is nothing to it. A writer and a reader are
faithful to a value if each tree that conveys what was written is read as that value, and if what
was written is not null, so that the value is told from an absent one.

Faithful readers of parts make faithful readers of lists and records, one field at a time.
-/

import Mathlib.Data.List.Forall2
import Mathlib.Data.List.Nodup
import NodeTelemetry.Json.Value

namespace NodeTelemetry.Json

/-! ## Saying the same -/

/-- The second tree says what the first does: its records have the same members, in any order,
besides others; only null members may be missing, and none is repeated. -/
inductive Conveys : Json → Json → Prop where
  | same (json : Json) : Conveys json json
  | list {items others : List Json} (each : List.Forall₂ Conveys items others) :
      Conveys (.list items) (.list others)
  | object {written given : List (String × Json)} (once : ∀ name, occurrences name given ≤ 1)
      (told : ∀ name value other, member? name written = some value →
        member? name given = some other → Conveys value other)
      (left : ∀ name value, member? name written = some value → member? name given = none →
        value = .null) : Conveys (.object written) (.object given)

/-- The field of a record says a value. -/
inductive Told (value : Json) : Option Json → Prop where
  | given {other : Json} (conveys : Conveys value other) : Told value (some other)
  | left (isNull : value = .null) : Told value none

theorem Conveys.list_eq {items : List Json} {json : Json} (conveys : Conveys (.list items) json) :
    ∃ others, json = .list others ∧ List.Forall₂ Conveys items others := by
  cases conveys with
  | same => exact ⟨items, rfl, List.forall₂_same.mpr fun item _ => .same item⟩
  | list each => exact ⟨_, rfl, each⟩

theorem Conveys.ne_null {value other : Json} (conveys : Conveys value other)
    (known : value ≠ .null) : other ≠ .null := by
  cases conveys with
  | same => exact known
  | list each => exact nofun
  | object once told left => exact nofun

theorem occurrences_zip_le (name : String) (names : List String) (values : List Json) :
    occurrences name (names.zip values) ≤ names.count name := by
  unfold occurrences
  induction names generalizing values with
  | nil => exact Nat.le_refl 0
  | cons other names ih =>
      cases values with
      | nil => exact Nat.zero_le _
      | cons value values =>
          rw [List.zip_cons_cons, List.countP_cons, List.count_cons]
          exact Nat.add_le_add_right (ih values) _

/-- What the fields of a record are read from, if a tree says what the record does. -/
theorem Conveys.fields {names : List String} {values : List Json} {json : Json}
    (conveys : Conveys (.record names values) json) (distinct : names.Nodup) :
    ∃ given, json.slots? names = some (names.map fun name => member? name given) ∧
      ∀ name value, member? name (names.zip values) = some value →
        Told value (member? name given) := by
  have slots : ∀ given, (∀ name, occurrences name given ≤ 1) →
      (Json.object given).slots? names = some (names.map fun name => member? name given) := by
    intro given once
    refine if_pos ?_
    rw [List.all_eq_true]
    exact fun name _ => decide_eq_true (once name)
  unfold record at conveys
  cases conveys with
  | same =>
      refine ⟨_, slots _ fun name => ?_, fun name value found => ?_⟩
      · exact Nat.le_trans (occurrences_zip_le name names values)
          (List.nodup_iff_count_le_one.mp distinct name)
      · rw [found]
        exact .given (.same value)
  | @object _ given once told left =>
      refine ⟨given, slots given once, fun name value found => ?_⟩
      cases shown : member? name given with
      | none => exact .left (left name value found shown)
      | some other => exact .given (told name value other found shown)

/-! ## Faithful readers -/

section Faithful

variable {α : Type} {write : α → Json} {read : Json → Option α}

/-- Each tree that conveys what is written for a value is read as the value. -/
structure Faithful (write : α → Json) (read : Json → Option α) (value : α) : Prop where
  ne_null : write value ≠ .null
  reads : ∀ json, Conveys (write value) json → read json = some value

/-- A field that has to be there. -/
theorem Told.required {value : α} {slot : Option Json} (told : Told (write value) slot)
    (faithful : Faithful write read value) : required? read slot = some value := by
  cases told with
  | given conveys => exact faithful.reads _ conveys
  | left isNull => exact absurd isNull faithful.ne_null

/-- A field that may be absent. -/
theorem Told.optional {value : Option α} {slot : Option Json}
    (told : Told (ofOption write value) slot)
    (faithful : ∀ present ∈ value, Faithful write read present) :
    optional? read slot = some value := by
  cases value with
  | none =>
      cases told with
      | left => rfl
      | given conveys =>
          cases conveys
          rfl
  | some present =>
      have known := faithful present rfl
      cases told with
      | left isNull => exact absurd isNull known.ne_null
      | @given other conveys =>
          have shown := conveys.ne_null known.ne_null
          have reads := known.reads other conveys
          cases other with
          | null => exact absurd rfl shown
          | _ => exact congrArg (Option.map some) reads

theorem mapM_eq_some {values : List α} {others : List Json}
    (faithful : ∀ value ∈ values, Faithful write read value)
    (each : List.Forall₂ Conveys (values.map write) others) : others.mapM read = some values := by
  induction values generalizing others with
  | nil =>
      cases each
      rfl
  | cons value values ih =>
      obtain ⟨first, rest⟩ := List.forall_mem_cons.mp faithful
      cases each with
      | @cons _ other _ others conveys each =>
          rw [List.mapM_cons, first.reads other conveys, ih rest each]
          rfl

theorem faithful_list {values : List α}
    (faithful : ∀ value ∈ values, Faithful write read value) :
    Faithful (ofList write) (list? read) values where
  ne_null := nofun
  reads := by
    intro json conveys
    obtain ⟨others, rfl, each⟩ := Conveys.list_eq conveys
    exact mapM_eq_some faithful each

/-- A record is faithful if it is put together from its fields whenever they say what was
written. -/
theorem Faithful.of_fields {value : α} {names : List String} {values : List Json}
    {assemble : List (Option Json) → Option α} (isRecord : write value = .record names values)
    (isRead : ∀ json, read json = (json.slots? names).bind assemble) (distinct : names.Nodup)
    (assembles : ∀ given, (∀ name field, member? name (names.zip values) = some field →
      Told field (member? name given)) →
        assemble (names.map fun name => member? name given) = some value) :
    Faithful write read value where
  ne_null := by
    rw [isRecord]
    exact nofun
  reads := by
    intro json conveys
    rw [isRecord] at conveys
    obtain ⟨given, slots, told⟩ := conveys.fields distinct
    rw [isRead, slots, Option.bind_some, assembles given told]

end Faithful

/-! ## Scalars -/

theorem wholeWithin?_whole {least most n : Int} (atLeast : least ≤ n) (atMost : n ≤ most) :
    wholeWithin? least most (.whole n) = some n :=
  if_pos ⟨atLeast, atMost⟩

theorem faithful_text (text : String) : Faithful Json.text text? text where
  ne_null := nofun
  reads := by
    rintro json ⟨⟩
    rfl

theorem faithful_uint64 (n : UInt64) : Faithful ofUInt64 uint64? n where
  ne_null := nofun
  reads := by
    rintro json ⟨⟩
    have small := n.toNat_lt
    unfold uint64?
    rw [ofUInt64, wholeWithin?_whole (Int.natCast_nonneg _) (by omega), Option.map_some,
      Int.toNat_natCast, UInt64.ofNat_toNat]

theorem faithful_uint32 (n : UInt32) : Faithful ofUInt32 uint32? n where
  ne_null := nofun
  reads := by
    rintro json ⟨⟩
    have small := n.toNat_lt
    unfold uint32?
    rw [ofUInt32, wholeWithin?_whole (Int.natCast_nonneg _) (by omega), Option.map_some,
      Int.toNat_natCast, UInt32.ofNat_toNat]

theorem faithful_int64 (n : Int64) : Faithful ofInt64 int64? n where
  ne_null := nofun
  reads := by
    rintro json ⟨⟩
    have atLeast := n.le_toInt
    have atMost := n.toInt_lt
    unfold int64?
    rw [ofInt64, wholeWithin?_whole (by omega) (by omega), Option.map_some, Int64.ofInt_toInt]

/-- A double that is not finite has no form of its own. -/
theorem faithful_binary64 {x : Binary64} (finite : x.isFinite = true) :
    Faithful ofBinary64 binary64? x := by
  have form : ofBinary64 x = .real x := if_pos finite
  constructor
  · rw [form]
    exact nofun
  · rw [form]
    rintro json ⟨⟩
    rfl

end NodeTelemetry.Json
