/-
# Layers of settings

A layer is laid over what is already there name by name, and a table is merged into the
table of its name. What a path leads to afterwards is decided by this layer alone if it
says anything about the path: then it is what its latest entry for the path says, and
otherwise it is what it was.

This holds for paths that end in a setting. A layer fits such a path if none of its
entries puts a table in the setting's place, a setting in the place of one of the tables
on the way, or anything below the setting.
-/

import NodeTelemetry.Settings.Tree

namespace NodeTelemetry.Settings

namespace Tree

/-- What a path of names leads to, through tables. -/
def look : List String → Members → Option Tree
  | [], _ => none
  | [name], members => members.find? name
  | name :: rest, members => (members.find? name).bind fun tree => look rest tree.members

/-- What a tree says about a path: what the latest of its entries that lead there say. -/
def said : List String → Tree → Option Tree
  | [], tree => some tree
  | name :: rest, .table members =>
    members.reverse.findSome? fun entry =>
      if fold entry.1 = name then said rest entry.2 else none
  | _ :: _, _ => none

/-- Whether a tree has nothing but tables on a path and no table at its end. -/
def fits : List String → Tree → Bool
  | [], .table _ => false
  | [], _ => true
  | name :: rest, .table members =>
    members.all fun entry => fold entry.1 ≠ name || fits rest entry.2
  | _ :: _, _ => false

/-- A tree behind a path. -/
def nest : List String → Tree → Tree
  | [], tree => tree
  | name :: rest, tree => .table [(name, nest rest tree)]

/-- An entry with a dotted name as one of a table in a table. -/
def spreadEntry (entry : String × Tree) : String × Tree :=
  match pathOf entry.1 with
  | [] => entry
  | name :: rest => (name, nest rest entry.2)

/-- A layer of dotted names as a tree. -/
def spread (layer : Members) : Tree := .table (layer.map spreadEntry)

/-- Whether two paths part from each other before either of them ends. -/
def apart : List String → List String → Bool
  | name :: rest, other :: path => name ≠ other || apart rest path
  | _, _ => false

/-- Whatever a name stands for is a table. -/
def Tabled (name : String) (members : Members) : Prop :=
  ∀ tree, members.find? name = some tree → ∃ inner, tree = .table inner

variable {name head next : String} {rest path : List String} {value : Tree}
  {members incoming layer : Members}

/-! ## Names -/

theorem find?_put (name : String) (value : Tree) (members : Members) (other : String) :
    (members.put name value).find? other =
      if name = other then some value else members.find? other := by
  induction members with
  | nil => by_cases same : name = other <;> simp [Members.put, Members.find?, same]
  | cons entry members ih =>
      obtain ⟨first, old⟩ := entry
      unfold Members.find? at ih ⊢
      unfold Members.put
      by_cases here : first = name
      · subst here
        by_cases same : first = other <;> simp [same]
      · rw [if_neg here, List.findSome?_cons, List.findSome?_cons, ih]
        by_cases found : first = other
        · have apart : name ≠ other := fun same => here (found.trans same.symm)
          simp [found, apart]
        · simp [found]

theorem look_nil (path : List String) : look path [] = none := by
  cases path with
  | nil => rfl
  | cons name rest => cases rest <;> rfl

theorem look_put_other (apart : name ≠ head) (value : Tree) (members : Members) :
    look (head :: rest) (members.put name value) = look (head :: rest) members := by
  cases rest with
  | nil => rw [look, look, find?_put, if_neg apart]
  | cons next rest => rw [look, look, find?_put, if_neg apart] <;> exact nofun

theorem look_put_end (value : Tree) (members : Members) :
    look [name] (members.put name value) = some value := by
  rw [look, find?_put, if_pos rfl]

theorem look_put_on (value : Tree) (members : Members) :
    look (name :: next :: rest) (members.put name value) = look (next :: rest) value.members := by
  rw [look, find?_put, if_pos rfl, Option.bind_some]
  exact nofun

/-! ## Placing and merging -/

/-- Whatever is placed is put under one name. -/
theorem exists_place_eq_put (name : String) (value : Tree) (members : Members) :
    ∃ tree, place name value members = members.put (fold name) tree := by
  cases value <;> exact ⟨_, by rw [place]⟩

theorem look_place_other (apart : fold name ≠ head) (value : Tree) (members : Members) :
    look (head :: rest) (place name value members) = look (head :: rest) members := by
  obtain ⟨tree, placed⟩ := exists_place_eq_put name value members
  rw [placed, look_put_other apart]

theorem fits_table_iff :
    fits (next :: rest) (.table incoming) ↔
      ∀ entry ∈ incoming, fold entry.1 = next → entry.2.fits rest := by
  simp only [fits, List.all_eq_true, Bool.or_eq_true, decide_eq_true_eq, ne_eq,
    Decidable.imp_iff_not_or]

/-- What a table says about a path takes precedence over what it is merged into, if that
is so of everything that the table holds for the rest of the path. -/
theorem look_merge_of_place
    (placed : ∀ (name : String) (value : Tree) (members : Members), value.fits rest →
      look (fold name :: rest) (place name value members) =
        (value.said rest).or (look (fold name :: rest) members))
    (fitting : fits (next :: rest) (.table incoming)) (target : Tree) :
    look (next :: rest) (merge incoming target).members =
      (said (next :: rest) (.table incoming)).or (look (next :: rest) target.members) := by
  rw [fits_table_iff] at fitting
  rw [said]
  induction incoming generalizing target with
  | nil =>
      rw [merge]
      rfl
  | cons entry incoming ih =>
      obtain ⟨name, value⟩ := entry
      have later := ih fun other hother => fitting other (List.mem_cons_of_mem _ hother)
      rw [merge, later, List.reverse_cons, List.findSome?_append, Option.or_assoc,
        List.findSome?_singleton]
      congr 1
      change look (next :: rest) (place name value target.members) = _
      by_cases here : fold name = next
      · subst here
        rw [if_pos rfl]
        exact placed name value target.members (fitting _ List.mem_cons_self rfl)
      · rw [if_neg here]
        exact look_place_other here value target.members

/-- What a tree says about a path takes precedence over what is there. -/
theorem look_place (rest : List String) (name : String) (value : Tree) (members : Members)
    (fitting : value.fits rest) :
    look (fold name :: rest) (place name value members) =
      (value.said rest).or (look (fold name :: rest) members) := by
  induction rest generalizing name value members with
  | nil =>
      cases value with
      | table incoming => cases fitting
      | _ => rw [place, look_put_end, said, Option.some_or]
  | cons next rest ih =>
      cases value with
      | table incoming =>
          rw [place, look_put_on, look_merge_of_place ih fitting]
          congr 1
          cases held : members.find? (fold name) with
          | none => simp [look, held, look_nil, Tree.members]
          | some target => simp [look, held]
      | _ => cases fitting

theorem look_merge (fitting : fits (next :: rest) (.table incoming)) (target : Tree) :
    look (next :: rest) (merge incoming target).members =
      (said (next :: rest) (.table incoming)).or (look (next :: rest) target.members) :=
  look_merge_of_place (look_place rest) fitting target

/-! ## Tables stay tables -/

theorem exists_merge_eq_table (incoming members : Members) :
    ∃ merged, merge incoming (.table members) = .table merged := by
  induction incoming generalizing members with
  | nil => exact ⟨members, by rw [merge]⟩
  | cons entry incoming ih =>
      rw [merge]
      exact ih _

theorem Tabled.place (tabled : Tabled head members)
    (fitting : fold name = head → value.fits (next :: rest)) :
    Tabled head (place name value members) := by
  by_cases here : fold name = head
  · subst here
    cases value with
    | table incoming =>
        intro tree found
        rw [Tree.place, find?_put, if_pos rfl, Option.some_inj] at found
        rw [← found]
        cases held : members.find? (fold name) with
        | none => exact exists_merge_eq_table incoming []
        | some target =>
            obtain ⟨inner, rfl⟩ := tabled target held
            exact exists_merge_eq_table incoming inner
    | _ => cases fitting rfl
  · obtain ⟨tree, placed⟩ := exists_place_eq_put name value members
    unfold Tabled
    rw [placed, find?_put, if_neg here]
    exact tabled

/-- A table on a path stays a table when something that fits the path is merged. -/
theorem Tabled.merge (tabled : Tabled head members)
    (fitting : fits (head :: next :: rest) (.table incoming)) :
    Tabled head (merge incoming (.table members)).members := by
  rw [fits_table_iff] at fitting
  induction incoming generalizing members with
  | nil =>
      rw [Tree.merge]
      exact tabled
  | cons entry incoming ih =>
      rw [Tree.merge]
      exact ih (tabled.place (fitting entry List.mem_cons_self)) fun other hother =>
        fitting other (List.mem_cons_of_mem _ hother)

/-! ## Layers -/

/-- To place something behind a path is to place it with its tables. -/
theorem placeAt_eq_place (name : String) (rest : List String) (value : Tree) (members : Members) :
    placeAt (name :: rest) value members = place name (nest rest value) members := by
  induction rest generalizing name members with
  | nil => rfl
  | cons next rest ih =>
      rw [placeAt, ih, nest, place, merge, merge]
      · congr 3
        cases members.find? (fold name) <;> rfl
      · exact nofun

theorem pathOf_ne_nil (name : String) : pathOf name ≠ [] := by
  unfold pathOf
  dsimp only
  split
  · exact fun none => Text.splitWhere_ne_nil _ _ (List.map_eq_nil_iff.mp none)
  · exact List.cons_ne_nil _ _

/-- To lay a layer is to merge its tree. -/
theorem lay_eq_merge (layer members : Members) :
    lay layer members = (merge (layer.map spreadEntry) (.table members)).members := by
  induction layer generalizing members with
  | nil =>
      rw [List.map_nil, merge]
      rfl
  | cons entry layer ih =>
      obtain ⟨name, value⟩ := entry
      have placed : placeAt (pathOf name) value members =
          place (spreadEntry (name, value)).1 (spreadEntry (name, value)).2 members := by
        unfold spreadEntry
        cases hpath : pathOf name with
        | nil => exact absurd hpath (pathOf_ne_nil name)
        | cons first rest => exact placeAt_eq_place first rest value members
      rw [List.map_cons, merge]
      change lay layer (placeAt (pathOf name) value members) = _
      rw [ih, placed]
      rfl

theorem look_lay (nonempty : path ≠ []) (fitting : (spread layer).fits path)
    (members : Members) :
    look path (lay layer members) = ((spread layer).said path).or (look path members) := by
  cases path with
  | nil => exact absurd rfl nonempty
  | cons head rest =>
      rw [lay_eq_merge]
      exact look_merge fitting (.table members)

theorem Tabled.lay (tabled : Tabled head members)
    (fitting : (spread layer).fits (head :: next :: rest)) : Tabled head (lay layer members) := by
  rw [lay_eq_merge]
  exact tabled.merge fitting

/-! ## Single entries -/

theorem nest_pathOf (entry : String × Tree) :
    nest (pathOf entry.1) entry.2 = .table [spreadEntry entry] := by
  unfold spreadEntry
  cases hpath : pathOf entry.1 with
  | nil => exact absurd hpath (pathOf_ne_nil entry.1)
  | cons first rest => rfl

/-- What a layer says is what the latest of its entries says on its own. -/
theorem said_spread (nonempty : path ≠ []) (layer : Members) :
    (spread layer).said path =
      layer.reverse.findSome? fun entry => (nest (pathOf entry.1) entry.2).said path := by
  cases path with
  | nil => exact absurd rfl nonempty
  | cons head rest =>
      rw [spread, said, ← List.map_reverse, List.findSome?_map]
      refine congrArg (layer.reverse.findSome? ·) (funext fun entry => ?_)
      rw [nest_pathOf, said, List.reverse_singleton, List.findSome?_singleton,
        Function.comp_apply]

/-- A layer fits a path if all of its entries do. -/
theorem fits_spread (nonempty : path ≠ []) (layer : Members) :
    (spread layer).fits path ↔
      ∀ entry ∈ layer, (nest (pathOf entry.1) entry.2).fits path := by
  cases path with
  | nil => exact absurd rfl nonempty
  | cons head rest =>
      rw [spread, fits_table_iff, List.forall_mem_map]
      refine forall₂_congr fun entry _ => ?_
      rw [nest_pathOf, fits_table_iff, List.forall_mem_singleton]

theorem said_nest (path : List String) (value : Tree) :
    said (path.map fold) (nest path value) = some value := by
  induction path with
  | nil => rfl
  | cons name rest ih =>
      rw [nest, List.map_cons, said, List.reverse_singleton, List.findSome?_singleton,
        if_pos rfl, ih]

theorem fits_nest (path : List String) (value : Tree) :
    fits (path.map fold) (nest path value) = fits [] value := by
  induction path with
  | nil => rfl
  | cons name rest ih => simp [nest, fits, ih]

/-- A tree says nothing about paths that part from its own. -/
theorem said_nest_apart {other : List String} (parts : apart (path.map fold) other)
    (value : Tree) : said other (nest path value) = none := by
  induction path generalizing other with
  | nil => cases parts
  | cons name rest ih =>
      cases other with
      | nil => cases parts
      | cons head tail =>
          rw [nest, said, List.reverse_singleton, List.findSome?_singleton]
          by_cases here : fold name = head
          · rw [if_pos here]
            refine ih ?_
            simpa [apart, here] using parts
          · rw [if_neg here]

theorem fits_nest_apart {other : List String} (parts : apart (path.map fold) other)
    (value : Tree) : fits other (nest path value) := by
  induction path generalizing other with
  | nil => cases parts
  | cons name rest ih =>
      cases other with
      | nil => cases parts
      | cons head tail =>
          rw [nest, fits_table_iff, List.forall_mem_singleton]
          intro here
          refine ih ?_
          simpa [apart, here] using parts

end Tree

end NodeTelemetry.Settings
