/-
# Which URLs with a host can be dialled

A URL that is read with a host has a host and a port already that may stand in an authority;
all that can be wrong with them is a character that has to be written otherwise. Brackets
may be used once in an authority, so who asks must not have used them where an address
follows. Everything else that is wrong is in the scheme, in who asks, in the path or in the
query.
-/

import Mathlib.Data.List.Induction
import NodeTelemetry.Proofs.Url.Reading

namespace NodeTelemetry.Url

section Runs

variable {before text : List Char}

/-- What was written since an at sign or a closing bracket grows with what has neither. -/
theorem recent_append (noReset : ∀ c ∈ text, c ≠ '@' ∧ c ≠ ']') :
    recent (before ++ text) = text.reverse ++ recent before := by
  induction text using List.reverseRecOn with
  | nil => simp
  | append_singleton front c ih =>
      obtain ⟨early, last⟩ := List.forall_mem_append.mp noReset
      obtain ⟨atSign, closing⟩ := last c (List.mem_singleton_self c)
      rw [← List.append_assoc, recent_concat, if_neg (not_or.mpr ⟨atSign, closing⟩), ih early,
        List.reverse_concat]
      rfl

/-- Nothing counts at the beginning of an authority or behind an at sign. -/
theorem recent_of_getLast? {user : List Char} (ended : ∀ c ∈ user.getLast?, c = '@') :
    recent user = [] := by
  obtain rfl | ⟨name, rfl⟩ := eq_nil_or_append_atSign ended
  · rfl
  · rw [recent_concat, if_pos (.inl rfl)]

/-- A character that means nothing, or a colon. -/
def IsFree (c : Char) : Prop := isPlain c = true ∨ c = ':'

theorem IsFree.ne_of_mem {c mark : Char} (free : IsFree c) (listed : mark ∈ ['[', ']', '@', '%']) :
    c ≠ mark := by
  have bound : ∀ mark ∈ ['[', ']', '@', '%'], ¬(isPlain mark = true ∨ mark = ':') :=
    List.all_iff_forall_prop.mp (by decide)
  rintro rfl
  exact bound c listed free

theorem recent_append_of_isFree (chars : ∀ c ∈ text, IsFree c) :
    recent (before ++ text) = text.reverse ++ recent before :=
  recent_append fun c found =>
    ⟨(chars c found).ne_of_mem (by decide), (chars c found).ne_of_mem (by decide)⟩

/-- As long as there are few colons, nothing is out of place. -/
theorem orderly_of_isFree (chars : ∀ c ∈ text, IsFree c)
    (few : (recent before).count ':' + text.count ':' ≤ Seen.mostColons) : Orderly before text := by
  induction text generalizing before with
  | nil => trivial
  | cons c rest ih =>
      obtain ⟨first, others⟩ := List.forall_mem_cons.mp chars
      have grown : recent (before ++ [c]) = [c] ++ recent before :=
        recent_append_of_isFree (List.forall_mem_singleton.mpr first)
      rw [List.count_cons] at few
      refine ⟨?_, ih others ?_⟩
      · obtain plain | rfl := first
        · exact .plain plain
        · exact .colon (by simp at few; omega)
      · rw [grown, List.count_append, List.count_singleton]
        omega

end Runs

/-! ## Sites -/

/-- Hexadecimal digits are letters and digits. -/
theorem isAlphanum_of_isSome_hexDigit? {c : Char} (digit : (Text.hexDigit? c).isSome) :
    c.isAlphanum = true := by
  unfold Text.hexDigit? at digit
  simp only [Char.le_def, UInt32.le_iff_toNat_le, Char.reduceVal, UInt32.reduceToNat,
    Char.toNat_val, Bool.and_eq_true, decide_eq_true_eq] at digit
  rw [isAlphanum_iff]
  split at digit
  · omega
  · split at digit
    · omega
    · split at digit
      · omega
      · cases digit

/-- Addresses in brackets are free. -/
theorem IsAddressCharacter.isFree {c : Char} (isCharacter : IsAddressCharacter c) : IsFree c := by
  obtain digit | rfl | rfl := isCharacter
  · exact .inl (isPlain_of_isAlphanum (isAlphanum_of_isSome_hexDigit? digit))
  · exact .inr rfl
  · exact .inl (by decide)

/-- A port is free, and it has one colon at most. -/
theorem isFree_portText {port : Option (List Char)}
    (digits : ∀ text ∈ port, ∀ c ∈ text, c.isDigit = true) :
    (∀ c ∈ portText port, IsFree c) ∧ (portText port).count ':' ≤ 1 := by
  cases port with
  | none => exact ⟨nofun, Nat.zero_le 1⟩
  | some text =>
      have digits := digits text rfl
      constructor
      · refine List.forall_mem_cons.mpr ⟨.inr rfl, fun c found => .inl (isPlain_of_isAlphanum ?_)⟩
        exact Bool.or_eq_true_iff.mpr (.inr (digits c found))
      · have noColon : ':' ∉ text := fun found => by cases digits ':' found
        rw [portText, List.count_cons_self, List.count_eq_zero.mpr noColon]

/-! ## Authorities of sites -/

/-- Nothing is wrong with a site behind who asks: no character of it has to be written otherwise,
and brackets are neither left open nor used again. -/
structure Closed (user site : List Char) : Prop where
  spelled : ∀ c ∈ site, isPlain c = true ∨ c ∈ [':', '[', ']']
  paired : '[' ∈ user ↔ ']' ∈ user
  once : '[' ∈ user → '[' ∉ site

section Sites

variable {user site host address tail : List Char}

/-- Where nothing in a site means anything, it is in its place, unless brackets are left open. -/
theorem placed_iff_of_isFree (ended : ∀ c ∈ user.getLast?, c = '@')
    (free : ∀ c ∈ site, IsFree c) (few : site.count ':' ≤ 1) :
    Orderly user site ∧ MayEnd (user ++ site) ↔ Closed user site := by
  have start := recent_of_getLast? ended
  have grown : recent (user ++ site) = site.reverse ++ recent user := recent_append_of_isFree free
  have absent {mark : Char} (listed : mark ∈ ['[', ']', '@', '%']) : mark ∉ site :=
    fun found => (free mark found).ne_of_mem listed rfl
  have opening : '[' ∉ site := absent (by decide)
  have closing : ']' ∉ site := absent (by decide)
  have paired : ('[' ∈ user ++ site ↔ ']' ∈ user ++ site) ↔ ('[' ∈ user ↔ ']' ∈ user) := by
    simp [opening, closing]
  rw [start, List.append_nil] at grown
  constructor
  · rintro ⟨-, ending⟩
    refine ⟨fun c found => ?_, paired.mp ending.brackets, fun _ => opening⟩
    exact (free c found).imp_right fun colon => List.mem_cons.mpr (.inl colon)
  · intro closed
    refine ⟨orderly_of_isFree free ?_, paired.mpr closed.paired, ?_, ?_⟩
    · rw [start]
      exact Nat.le_trans (Nat.add_le_add_left few 0) (by decide)
    · rwa [grown, List.count_reverse]
    · rw [grown, List.mem_reverse]
      exact absent (by decide)

/-- A name and a port are in their place if and only if nothing in them means anything. -/
theorem placed_iff_of_name (ended : ∀ c ∈ user.getLast?, c = '@')
    (unmarked : ∀ mark ∈ [':', '[', ']', '@'], mark ∉ host)
    (free : ∀ c ∈ tail, IsFree c) (few : tail.count ':' ≤ 1) :
    Orderly user (host ++ tail) ∧ MayEnd (user ++ (host ++ tail)) ↔ Closed user (host ++ tail) := by
  have apart {c mark : Char} (found : c ∈ host) (listed : mark ∈ [':', '[', ']', '@']) : c ≠ mark :=
    fun same => unmarked mark listed (same ▸ found)
  have count : (host ++ tail).count ':' ≤ 1 := by
    rwa [List.count_append, List.count_eq_zero.mpr (unmarked ':' (by decide)), Nat.zero_add]
  have placed_iff (plain : ∀ c ∈ host, isPlain c = true) :
      Orderly user (host ++ tail) ∧ MayEnd (user ++ (host ++ tail)) ↔
        Closed user (host ++ tail) :=
    placed_iff_of_isFree ended
      (List.forall_mem_append.mpr ⟨fun c found => .inl (plain c found), free⟩) count
  constructor
  · rintro ⟨orderly, ending⟩
    -- Whatever else a name could hold is a percent sign, which may not stand last.
    have grown : recent (user ++ (host ++ tail)) = (host ++ tail).reverse ++ recent user := by
      refine recent_append (List.forall_mem_append.mpr ⟨fun c found => ?_, fun c found => ?_⟩)
      · exact ⟨apart found (by decide), apart found (by decide)⟩
      · exact ⟨(free c found).ne_of_mem (by decide), (free c found).ne_of_mem (by decide)⟩
    have unescaped : '%' ∉ host := by
      intro found
      refine ending.percent ?_
      rw [grown]
      simp [found]
    refine (placed_iff fun c found => ?_).mp ⟨orderly, ending⟩
    obtain plain | mark := orderly.mayOccur c (List.mem_append_left tail found)
    · exact plain
    · have listed : c ∈ [':', '[', ']', '@'] ∨ c = '%' := by simpa [marks, or_assoc] using mark
      obtain listed | rfl := listed
      · exact absurd rfl (apart found listed)
      · exact absurd found unescaped
  · intro closed
    refine (placed_iff fun c found => ?_).mpr closed
    obtain plain | mark := closed.spelled c (List.mem_append_left tail found)
    · exact plain
    · exact absurd rfl (apart found (List.mem_append_left ['@'] mark))

/-- An address in brackets and a port are in their place if and only if who asks uses none. -/
theorem placed_iff_of_address (ended : ∀ c ∈ user.getLast?, c = '@')
    (chars : ∀ c ∈ address, IsFree c) (colons : address.count ':' ≤ 8)
    (free : ∀ c ∈ tail, IsFree c) (few : tail.count ':' ≤ 1) :
    Orderly user ('[' :: (address ++ [']']) ++ tail) ∧
        MayEnd (user ++ ('[' :: (address ++ [']']) ++ tail)) ↔
      Closed user ('[' :: (address ++ [']']) ++ tail) := by
  have whole : user ++ ('[' :: (address ++ [']']) ++ tail) =
      user ++ ['['] ++ address ++ [']'] ++ tail := by simp
  have orderly_iff : Orderly user ('[' :: (address ++ [']']) ++ tail) ↔
      MayFollow user '[' ∧ Orderly (user ++ ['[']) address ∧
        MayFollow (user ++ ['['] ++ address) ']' ∧
        Orderly (user ++ ['['] ++ address ++ [']']) tail := by
    rw [List.cons_append, Orderly, orderly_append, orderly_append, Orderly, Orderly, and_true,
      and_assoc, List.append_assoc _ address]
  rw [whole, orderly_iff]
  constructor
  · rintro ⟨⟨opening, -, closing, -⟩, -⟩
    have unopened := (mayFollow_opening_iff.mp opening).2
    have unclosed : ']' ∉ user := fun found =>
      (mayFollow_closing_iff.mp closing).2 (by simp [found])
    refine ⟨?_, iff_of_false unopened unclosed, fun opened => absurd opened unopened⟩
    have spelled {c : Char} (free : IsFree c) : isPlain c = true ∨ c ∈ [':', '[', ']'] :=
      free.imp_right fun colon => List.mem_cons.mpr (.inl colon)
    simp only [List.forall_mem_append, List.forall_mem_cons]
    exact ⟨⟨.inr (by decide), fun c found => spelled (chars c found), .inr (by decide),
      List.forall_mem_nil _⟩,
      fun c found => spelled (free c found)⟩
  · intro closed
    have unopened : '[' ∉ user := fun opened => closed.once opened (by simp)
    have unclosed : ']' ∉ user := fun found => unopened (closed.paired.mpr found)
    have closing : ']' ∉ address := fun found => (chars _ found).ne_of_mem (by decide) rfl
    have start : recent (user ++ ['[']) = ['['] := by
      rw [recent_concat, recent_of_getLast? ended]
      rfl
    have restart : recent (user ++ ['['] ++ address ++ [']']) = [] := by
      rw [recent_concat]
      rfl
    have grown : recent (user ++ ['['] ++ address ++ [']'] ++ tail) = tail.reverse := by
      rw [recent_append_of_isFree free, restart, List.append_nil]
    refine ⟨⟨.opening ?_ unopened, orderly_of_isFree chars ?_, .closing ?_ ?_,
      orderly_of_isFree free ?_⟩, ?_, ?_, ?_⟩
    · rw [recent_of_getLast? ended]
      exact List.not_mem_nil
    · rw [start]
      exact Nat.le_trans (Nat.add_le_add_left colons 0) (by decide)
    · simp
    · simp [unclosed, closing]
    · rw [restart]
      exact Nat.le_trans (Nat.add_le_add_left few 0) (by decide)
    · simp
    · rwa [grown, List.count_reverse]
    · rw [grown, List.mem_reverse]
      exact fun found => (free _ found).ne_of_mem (by decide) rfl

theorem placed_iff (ended : ∀ c ∈ user.getLast?, c = '@') (isSite : IsSite site) :
    Orderly user site ∧ MayEnd (user ++ site) ↔ Closed user site := by
  obtain ⟨isHost, digits⟩ := isSite
  obtain ⟨free, few⟩ := isFree_portText digits
  cases isHost with
  | named unmarked => exact placed_iff_of_name ended unmarked free few
  | bracketed colons chars =>
      exact placed_iff_of_address ended (fun c found => (chars c found).isFree) colons free few

end Sites

/-! ## URLs -/

/-- Everything in a URL is spelled in characters that may stand where they are. -/
structure Layout.Strict (layout : Layout) : Prop extends layout.Spelled where
  user : Orderly [] layout.user
  site_ne_nil : layout.site ≠ []
  site : Closed layout.user layout.site

theorem isStrictAuthority_iff_of_fits {layout : Layout} (fits : layout.Fits) :
    isStrictAuthority layout.authority = true ↔
      layout.site ≠ [] ∧ Orderly [] layout.user ∧ Orderly layout.user layout.site ∧
        MayEnd (layout.user ++ layout.site) := by
  rw [isStrictAuthority_iff, Layout.authority, orderly_append, List.nil_append]
  constructor
  · rintro ⟨some, last, ⟨user, site⟩, ending⟩
    refine ⟨?_, user, site, ending⟩
    intro none
    rw [none, List.append_nil] at some last
    have isLast := List.getLast?_eq_some_getLast some
    exact last (isLast.trans (congrArg _ (fits.user _ isLast)))
  · rintro ⟨some, user, site, ending⟩
    refine ⟨List.append_ne_nil_of_right_ne_nil _ some, ?_, ⟨user, site⟩, ending⟩
    rw [List.getLast?_append_of_ne_nil _ some]
    exact fun last => fits.site (List.mem_of_getLast? last)

/-- A URL that is read with a host can be dialled if and only if it is written strictly. -/
theorem isDialable_iff_strict {text : String} {url : Url} (reads : read text = .ok url)
    (hosted : url.host.isSome) :
    isDialable text = true ↔ text.utf8ByteSize ≤ longestUrl ∧
      ∃ layout : Layout, text.toList = layout.text ∧ layout.Fits ∧ layout.Strict := by
  rw [isDialable_iff]
  refine and_congr_right fun _ => exists_congr fun layout => and_congr_right fun written =>
    and_congr_right fun fits => ?_
  rw [isStrictAuthority_iff_of_fits fits]
  have isSite (spelled : layout.Spelled) (some : layout.site ≠ []) (user : Orderly [] layout.user)
      (site : ∀ c ∈ layout.site, MayOccur c) : IsSite layout.site :=
    isSite_of_read written fits spelled.scheme (List.forall_mem_append.mpr ⟨user.mayOccur, site⟩)
      (List.append_ne_nil_of_right_ne_nil _ some) reads hosted
  constructor
  · rintro ⟨spelled, some, user, site, ending⟩
    have isSite := isSite spelled some user site.mayOccur
    exact ⟨spelled, user, some, (placed_iff fits.user isSite).mp ⟨site, ending⟩⟩
  · rintro ⟨spelled, user, some, closed⟩
    have usual : ∀ mark ∈ [':', '[', ']'], mark ∈ marks := List.all_iff_forall_prop.mp (by decide)
    have occurs : ∀ c ∈ layout.site, MayOccur c := fun c found =>
      (closed.spelled c found).imp_right (usual c)
    have isSite := isSite spelled some user occurs
    exact ⟨spelled, some, user, (placed_iff fits.user isSite).mpr closed⟩

end NodeTelemetry.Url
