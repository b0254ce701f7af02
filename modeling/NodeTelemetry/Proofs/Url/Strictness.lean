/-
# How strictly a URL has to be written

Whether a URL can be dialled is decided character by character, with a few counts and flags
kept on the way. Here it is said of the text itself. A text that can be dialled falls into
parts, each of which ends where the next one begins, and every part is spelled in characters
of its own. In an authority it also matters where a character stands: what counts there is
what was written since the latest at sign or closing bracket.
-/

import Mathlib.Data.Bool.AllAny
import Mathlib.Data.List.Basic
import Mathlib.Data.List.TakeWhile
import NodeTelemetry.Url.Dialable

namespace NodeTelemetry

/-! ## Cutting -/

namespace Text

variable {p : Char → Bool} {front rest : List Char}

/-- A text that is cut where a property ends falls into the two parts that it was made of. -/
theorem cut_append (all : ∀ c ∈ front, p c = true) (ends : ∀ c ∈ rest.head?, p c = false) :
    (front ++ rest).takeWhile p = front ∧ (front ++ rest).dropWhile p = rest := by
  have stops : rest.takeWhile p = [] ∧ rest.dropWhile p = rest := by
    cases rest with
    | nil => exact ⟨rfl, rfl⟩
    | cons c tail => simp [ends c rfl]
  rw [List.takeWhile_append_of_pos all, List.dropWhile_append_of_pos all, stops.1, stops.2,
    List.append_nil]
  exact ⟨rfl, rfl⟩

/-- Where a property ends, the rest of a text begins without it. -/
theorem not_of_mem_head?_dropWhile {text : List Char} {c : Char}
    (first : c ∈ (text.dropWhile p).head?) : p c = false := by
  have stops := List.head?_dropWhile_not p text
  rw [Option.mem_def.mp first] at stops
  simpa using stops

end Text

namespace Url

/-! ## Authorities -/

/-- Letters and digits as ranges of code points. -/
theorem isAlphanum_iff {c : Char} :
    c.isAlphanum = true ↔ 65 ≤ c.toNat ∧ c.toNat ≤ 90 ∨ 97 ≤ c.toNat ∧ c.toNat ≤ 122 ∨
      48 ≤ c.toNat ∧ c.toNat ≤ 57 := by
  change (decide ('A'.val ≤ c.val ∧ c.val ≤ 'Z'.val) ||
    (decide ('a'.val ≤ c.val) && decide (c.val ≤ 'z'.val)) ||
    (decide ('0'.val ≤ c.val) && decide (c.val ≤ '9'.val))) = true ↔ _
  simp only [Bool.or_eq_true, Bool.and_eq_true, decide_eq_true_eq, UInt32.le_iff_toNat_le,
    Char.reduceVal, UInt32.reduceToNat, Char.toNat_val, or_assoc]

theorem isPlain_of_isAlphanum {c : Char} (alphanumeric : c.isAlphanum = true) :
    isPlain c = true :=
  Bool.or_eq_true_iff.mpr (.inl alphanumeric)

/-- The characters since the latest at sign or closing bracket, the latest one first. -/
def recent (text : List Char) : List Char :=
  text.reverse.takeWhile fun c => !(c == '@' || c == ']')

/-- What may be written behind the characters of an authority. -/
inductive MayFollow (before : List Char) : Char → Prop where
  | plain {c : Char} (isPlain : isPlain c = true) : MayFollow before c
  | atSign : MayFollow before '@'
  | percent : MayFollow before '%'
  | colon (few : (recent before).count ':' < Seen.mostColons) : MayFollow before ':'
  | opening (noPercent : '%' ∉ recent before) (first : '[' ∉ before) : MayFollow before '['
  | closing (opened : '[' ∈ before) (first : ']' ∉ before) : MayFollow before ']'

/-- Each character of a text may be written where it is, behind what comes before the text. -/
def Orderly (before : List Char) : List Char → Prop
  | [] => True
  | c :: rest => MayFollow before c ∧ Orderly (before ++ [c]) rest

/-- An authority may end behind a text. -/
structure MayEnd (text : List Char) : Prop where
  brackets : '[' ∈ text ↔ ']' ∈ text
  colons : (recent text).count ':' ≤ 1
  percent : '%' ∉ recent text

theorem orderly_append {before first second : List Char} :
    Orderly before (first ++ second) ↔ Orderly before first ∧ Orderly (before ++ first) second := by
  induction first generalizing before with
  | nil => simp [Orderly]
  | cons c rest ih =>
      have onward : before ++ [c] ++ rest = before ++ (c :: rest) := List.append_assoc ..
      rw [List.cons_append, Orderly, Orderly, ih, onward, and_assoc]

theorem recent_concat (text : List Char) (c : Char) :
    recent (text ++ [c]) = if c = '@' ∨ c = ']' then [] else c :: recent text := by
  unfold recent
  rw [List.reverse_append, List.reverse_singleton, List.singleton_append, List.takeWhile_cons]
  split <;> simp_all

/-- The characters that mean something in an authority. -/
def marks : List Char := ":[]@%".toList

/-- Characters that occur in authorities. -/
def MayOccur (c : Char) : Prop := isPlain c = true ∨ c ∈ marks

theorem MayFollow.mayOccur {before : List Char} {c : Char} (may : MayFollow before c) :
    MayOccur c := by
  cases may with
  | plain isPlain => exact .inl isPlain
  | atSign | percent | colon | opening | closing => exact .inr (by decide)

theorem Orderly.mayOccur {before text : List Char} (orderly : Orderly before text) :
    ∀ c ∈ text, MayOccur c := by
  induction text generalizing before with
  | nil => exact nofun
  | cons c rest ih => exact List.forall_mem_cons.mpr ⟨orderly.1.mayOccur, ih orderly.2⟩

theorem isPlain_eq_false_of_mem_marks : ∀ c ∈ marks, isPlain c = false :=
  List.all_iff_forall_prop.mp (by decide)

theorem mayFollow_iff_isPlain {before : List Char} {c : Char} (unmarked : c ∉ marks) :
    MayFollow before c ↔ isPlain c = true := by
  constructor
  · rintro ⟨⟩ <;> first | assumption | exact absurd (by decide) unmarked
  · exact .plain

theorem mayFollow_colon_iff {before : List Char} :
    MayFollow before ':' ↔ (recent before).count ':' < Seen.mostColons := by
  constructor
  · intro may
    cases may with
    | plain unplain => cases unplain
    | colon few => exact few
  · exact .colon

theorem mayFollow_opening_iff {before : List Char} :
    MayFollow before '[' ↔ '%' ∉ recent before ∧ '[' ∉ before := by
  constructor
  · intro may
    cases may with
    | plain unplain => cases unplain
    | opening noPercent first => exact ⟨noPercent, first⟩
  · exact fun may => .opening may.1 may.2

theorem mayFollow_closing_iff {before : List Char} :
    MayFollow before ']' ↔ '[' ∈ before ∧ ']' ∉ before := by
  constructor
  · intro may
    cases may with
    | plain unplain => cases unplain
    | closing opened first => exact ⟨opened, first⟩
  · exact fun may => .closing may.1 may.2

namespace Seen

/-- What has been seen of a text. -/
def of (text : List Char) : Seen where
  colons := (recent text).count ':'
  percent := (recent text).contains '%'
  opened := text.contains '['
  closed := text.contains ']'

theorem next?_of_not_mem_marks (seen : Seen) {c : Char} (unmarked : c ∉ marks) :
    seen.next? c = if isPlain c then some seen else none := by
  unfold next?
  split
  case h_6 => rfl
  all_goals exact absurd (by decide) unmarked

theorem of_concat_of_not_mem_marks (before : List Char) {c : Char} (unmarked : c ∉ marks) :
    of (before ++ [c]) = of before := by
  have apart : ∀ mark ∈ marks, c ≠ mark := by
    rintro mark listed rfl
    exact unmarked listed
  have colon := apart ':' (by decide)
  have opening := apart '[' (by decide)
  have closing := apart ']' (by decide)
  have atSign := apart '@' (by decide)
  have percent := apart '%' (by decide)
  unfold of
  rw [recent_concat, if_neg (not_or.mpr ⟨atSign, closing⟩)]
  simp [colon, opening.symm, closing.symm, percent.symm]

/-- What is seen after the next character is what is seen of the longer text. -/
theorem next?_of_iff (before : List Char) (c : Char) (seen : Seen) :
    (of before).next? c = some seen ↔ MayFollow before c ∧ of (before ++ [c]) = seen := by
  by_cases marked : c ∈ marks
  · have unplain := isPlain_eq_false_of_mem_marks c marked
    have listed : c = ':' ∨ c = '[' ∨ c = ']' ∨ c = '@' ∨ c = '%' := by simpa [marks] using marked
    rcases listed with rfl | rfl | rfl | rfl | rfl
    · rw [mayFollow_colon_iff]
      simp [next?, of, recent_concat]
    · rw [mayFollow_opening_iff]
      simp [next?, of, recent_concat]
    · rw [mayFollow_closing_iff]
      simp [next?, of, recent_concat]
    · simp [next?, of, recent_concat, MayFollow.atSign]
    · simp [next?, of, recent_concat, MayFollow.percent]
  · rw [next?_of_not_mem_marks _ marked, mayFollow_iff_isPlain marked,
      of_concat_of_not_mem_marks _ marked]
    split <;> simp_all

theorem foldlM_next?_of_iff (before text : List Char) (seen : Seen) :
    text.foldlM next? (of before) = some seen ↔
      Orderly before text ∧ of (before ++ text) = seen := by
  induction text generalizing before with
  | nil => simp [Orderly]
  | cons c rest ih =>
      rw [List.foldlM_cons, Option.bind_eq_bind, Option.bind_eq_some_iff]
      simp only [next?_of_iff, Orderly]
      constructor
      · rintro ⟨_, ⟨may, rfl⟩, later⟩
        rw [ih, List.append_assoc] at later
        exact ⟨⟨may, later.1⟩, later.2⟩
      · rintro ⟨⟨may, orderly⟩, rfl⟩
        refine ⟨_, ⟨may, rfl⟩, (ih _).mpr ⟨orderly, ?_⟩⟩
        rw [List.append_assoc]
        rfl

theorem mayEnd_of_iff (text : List Char) : (of text).mayEnd = true ↔ MayEnd text := by
  have brackets : (text.contains '[' == text.contains ']') = true ↔ ('[' ∈ text ↔ ']' ∈ text) := by
    rw [beq_iff_eq, Bool.eq_iff_iff, List.contains_iff_mem, List.contains_iff_mem]
  have percent : (!(recent text).contains '%') = true ↔ '%' ∉ recent text := by simp
  unfold mayEnd of
  rw [Bool.and_eq_true, Bool.and_eq_true, brackets, percent, decide_eq_true_iff]
  exact ⟨fun ends => ⟨ends.1.1, ends.1.2, ends.2⟩, fun ends => ⟨⟨ends.1, ends.2⟩, ends.3⟩⟩

end Seen

theorem isStrictAuthority_iff (text : List Char) :
    isStrictAuthority text = true ↔
      text ≠ [] ∧ text.getLast? ≠ some '@' ∧ Orderly [] text ∧ MayEnd text := by
  have start : ({} : Seen) = Seen.of [] := rfl
  unfold isStrictAuthority
  rw [start, Bool.and_eq_true, Bool.and_eq_true, Option.any_eq_true, and_assoc]
  refine and_congr (by simp) (and_congr (by simp) ?_)
  constructor
  · rintro ⟨seen, passed, ends⟩
    obtain ⟨orderly, rfl⟩ := (Seen.foldlM_next?_of_iff [] text seen).mp passed
    exact ⟨orderly, (Seen.mayEnd_of_iff text).mp ends⟩
  · rintro ⟨orderly, ends⟩
    exact ⟨_, (Seen.foldlM_next?_of_iff [] text _).mpr ⟨orderly, rfl⟩,
      (Seen.mayEnd_of_iff text).mpr ends⟩

/-! ## Layouts -/

/-- Characters of a scheme. -/
def IsSchemeCharacter (c : Char) : Prop := c.isAlphanum = true ∨ c ∈ ['+', '-', '.']

/-- The parts of a URL, in the order in which they are written. -/
structure Layout where
  scheme : List Char
  /-- Who asks, with the at sign. -/
  user : List Char
  /-- The host and the port. -/
  site : List Char
  path : List Char
  /-- The query with its question mark. -/
  query : List Char
  /-- The fragment with its number sign. -/
  fragment : List Char

/-- Characters that end an authority. -/
def ends : List Char := ['/', '?', '#']

/-- Whether an authority goes on with a character. -/
def goesOn (c : Char) : Bool := !(c == '/' || c == '?' || c == '#')

theorem goesOn_iff {c : Char} : goesOn c = true ↔ c ∉ ends := by
  simp [goesOn, ends, and_assoc]

namespace Layout

variable (layout : Layout)

def authority : List Char := layout.user ++ layout.site

/-- What stands behind the authority. -/
def rest : List Char := layout.path ++ (layout.query ++ layout.fragment)

/-- The URL that is made of parts. -/
def text : List Char :=
  layout.scheme ++ ':' :: '/' :: '/' :: (layout.authority ++ layout.rest)

/-- Each part ends where the next one begins. -/
structure Fits : Prop where
  scheme : ':' ∉ layout.scheme
  user : ∀ c ∈ layout.user.getLast?, c = '@'
  site : '@' ∉ layout.site
  authority : ∀ c ∈ layout.authority, c ∉ ends
  path : ∀ c ∈ layout.path.head?, c = '/'
  path_chars : '?' ∉ layout.path ∧ '#' ∉ layout.path
  query : ∀ c ∈ layout.query.head?, c = '?'
  query_chars : '#' ∉ layout.query
  fragment : ∀ c ∈ layout.fragment.head?, c = '#'

/-- Scheme, path and query are spelled in characters that may stand there. -/
structure Spelled : Prop where
  scheme : ∀ c ∈ layout.scheme, IsSchemeCharacter c
  scheme_length : layout.scheme.length ≤ longestScheme
  path : ∀ c ∈ layout.path, isPathCharacter c
  query : ∀ c ∈ layout.query, isQueryCharacter c

end Layout

/-- Who asks ends with the at sign, if anybody does. -/
theorem eq_nil_or_append_atSign {user : List Char} (ended : ∀ c ∈ user.getLast?, c = '@') :
    user = [] ∨ ∃ name, user = name ++ ['@'] := by
  rcases List.eq_nil_or_concat' user with none | ⟨name, last, rfl⟩
  · exact .inl none
  · have atSign : last = '@' := ended last (by rw [List.getLast?_concat]; rfl)
    exact .inr ⟨name, by rw [atSign]⟩

/-- An authority is made of who asks and of a site. -/
theorem exists_user_site (text : List Char) :
    ∃ user site, text = user ++ site ∧ (∀ c ∈ user.getLast?, c = '@') ∧ '@' ∉ site := by
  let p (c : Char) : Bool := c != '@'
  refine ⟨(text.reverse.dropWhile p).reverse, (text.reverse.takeWhile p).reverse, ?_, ?_, ?_⟩
  · rw [← List.reverse_append, List.takeWhile_append_dropWhile, List.reverse_reverse]
  · intro c last
    rw [List.getLast?_reverse] at last
    simpa [p] using Text.not_of_mem_head?_dropWhile last
  · intro found
    simpa [p] using List.mem_takeWhile_imp (List.mem_reverse.mp found)

/-- What stands behind the authority is made of a path, a query and a fragment. -/
theorem exists_path_query_fragment (text : List Char) (begins : ∀ c ∈ text.head?, c ∈ ends) :
    ∃ path query fragment, text = path ++ (query ++ fragment) ∧
      (∀ c ∈ path.head?, c = '/') ∧ ('?' ∉ path ∧ '#' ∉ path) ∧
      (∀ c ∈ query.head?, c = '?') ∧ '#' ∉ query ∧ (∀ c ∈ fragment.head?, c = '#') := by
  let noMark (c : Char) : Bool := c != '#'
  let inPath (c : Char) : Bool := c != '?'
  let checked := text.takeWhile noMark
  have unmarked : '#' ∉ checked := fun found => by simpa [noMark] using List.mem_takeWhile_imp found
  refine ⟨checked.takeWhile inPath, checked.dropWhile inPath, text.dropWhile noMark,
    ?_, ?_, ⟨?_, ?_⟩, ?_, ?_, ?_⟩
  · rw [← List.append_assoc, List.takeWhile_append_dropWhile, List.takeWhile_append_dropWhile]
  · intro c first
    have known : c ∈ text.head? ∧ noMark c ∧ inPath c := by
      simpa [checked, List.head?_takeWhile, Option.filter_eq_some_iff] using first
    have listed := begins c known.1
    simp_all [ends, noMark, inPath]
  · exact fun found => by simpa [inPath] using List.mem_takeWhile_imp found
  · exact fun found => unmarked ((List.takeWhile_prefix inPath).subset found)
  · intro c first
    simpa [inPath] using Text.not_of_mem_head?_dropWhile first
  · exact fun found => unmarked ((List.dropWhile_suffix inPath).subset found)
  · intro c first
    simpa [noMark] using Text.not_of_mem_head?_dropWhile first

theorem splitStrictly?_eq_some_iff {text rest : List Char} :
    splitStrictly? text = some rest ↔
      ∃ scheme, text = scheme ++ ':' :: '/' :: '/' :: rest ∧ ':' ∉ scheme ∧
        (∀ c ∈ scheme, IsSchemeCharacter c) ∧ scheme.length ≤ longestScheme := by
  have parts_iff (scheme : List Char) :
      (scheme.all fun c => c.isAlphanum || c == '+' || c == '-' || c == '.') = true ↔
        ∀ c ∈ scheme, IsSchemeCharacter c := by
    simp [IsSchemeCharacter, or_assoc]
  unfold splitStrictly?
  simp only [Option.bind_eq_bind, Option.bind_eq_some_iff, Prod.exists]
  constructor
  · rintro ⟨scheme, behind, split, found⟩
    obtain ⟨rfl, absent⟩ := Text.splitOnce_eq_some_iff.mp split
    split at found
    · split at found
      · rename_i fine
        cases found
        rw [Bool.and_eq_true, parts_iff, decide_eq_true_iff] at fine
        exact ⟨scheme, rfl, absent, fine⟩
      · cases found
    · cases found
  · rintro ⟨scheme, rfl, absent, fine⟩
    refine ⟨scheme, '/' :: '/' :: rest, Text.splitOnce_append _ absent, if_pos ?_⟩
    rw [Bool.and_eq_true, parts_iff, decide_eq_true_iff]
    exact fine

namespace Layout

variable {layout : Layout}

theorem Fits.head?_rest (fits : layout.Fits) : ∀ c ∈ layout.rest.head?, c ∈ ends := by
  intro c first
  unfold rest at first
  rw [List.head?_append, List.head?_append, Option.mem_def, Option.or_eq_some_iff,
    Option.or_eq_some_iff] at first
  obtain path | ⟨-, query | ⟨-, fragment⟩⟩ := first
  · exact fits.path c path ▸ by decide
  · exact fits.query c query ▸ by decide
  · exact fits.fragment c fragment ▸ by decide

/-- A question mark may stand in a query, so the one that begins it counts for nothing. -/
theorem Fits.query_iff (fits : layout.Fits) :
    (∀ c ∈ layout.query.drop 1, isQueryCharacter c) ↔ ∀ c ∈ layout.query, isQueryCharacter c := by
  have first := fits.query
  cases written : layout.query with
  | nil => rfl
  | cons c query =>
      have begins : isQueryCharacter c = true := by
        rw [first c (by rw [written]; rfl)]
        decide
      rw [List.forall_mem_cons]
      exact (and_iff_right begins).symm

theorem isStrictRest_rest_iff (fits : layout.Fits) :
    isStrictRest layout.rest = true ↔
      (∀ c ∈ layout.path, isPathCharacter c) ∧ ∀ c ∈ layout.query, isQueryCharacter c := by
  have apart {mark : Char} {text : List Char} (absent : mark ∉ text) : ∀ c ∈ text, (c != mark) := by
    rintro c found
    exact bne_iff_ne.mpr fun same => absent (same ▸ found)
  have checked : layout.rest.takeWhile (· != '#') = layout.path ++ layout.query := by
    rw [rest, ← List.append_assoc]
    refine (Text.cut_append (List.forall_mem_append.mpr ⟨?_, ?_⟩) ?_).1
    · exact apart fits.path_chars.2
    · exact apart fits.query_chars
    · exact fun c first => by simpa using fits.fragment c first
  have path : (layout.path ++ layout.query).takeWhile (· != '?') = layout.path := by
    refine (Text.cut_append (apart fits.path_chars.1) ?_).1
    exact fun c first => by simpa using fits.query c first
  simp only [isStrictRest, checked, path, List.drop_left, Bool.and_eq_true, List.all_eq_true,
    fits.query_iff]

/-- The authority of a layout is found again where it ends. -/
theorem Fits.cut (fits : layout.Fits) :
    (layout.authority ++ layout.rest).takeWhile goesOn = layout.authority ∧
      (layout.authority ++ layout.rest).dropWhile goesOn = layout.rest := by
  refine Text.cut_append (fun c found => goesOn_iff.mpr (fits.authority c found)) ?_
  intro c first
  exact eq_false_of_ne_true fun goes => goesOn_iff.mp goes (fits.head?_rest c first)

end Layout

/-- What stands behind a scheme and two slashes has parts. -/
theorem exists_layout {scheme : List Char} (noColon : ':' ∉ scheme) (text : List Char) :
    ∃ layout : Layout, layout.scheme = scheme ∧ layout.authority ++ layout.rest = text ∧
      layout.Fits := by
  obtain ⟨user, site, authority, atSign, noAtSign⟩ := exists_user_site (text.takeWhile goesOn)
  have begins : ∀ c ∈ (text.dropWhile goesOn).head?, c ∈ ends := by
    intro c first
    refine Decidable.not_not.mp fun inside => ?_
    have stops := Text.not_of_mem_head?_dropWhile first
    rw [goesOn_iff.mpr inside] at stops
    cases stops
  obtain ⟨path, query, fragment, behind, pathBegins, pathChars, queryBegins, queryChars,
    fragmentBegins⟩ := exists_path_query_fragment (text.dropWhile goesOn) begins
  refine ⟨⟨scheme, user, site, path, query, fragment⟩, rfl, ?_, noColon, atSign, noAtSign, ?_,
    pathBegins, pathChars, queryBegins, queryChars, fragmentBegins⟩
  · unfold Layout.authority Layout.rest
    rw [← authority, ← behind, List.takeWhile_append_dropWhile]
  · intro c found
    unfold Layout.authority at found
    rw [← authority] at found
    exact goesOn_iff.mp (List.mem_takeWhile_imp found)

theorem isDialable_iff_of_splitStrictly? (text : String) :
    isDialable text = true ↔ text.utf8ByteSize ≤ longestUrl ∧
      ∃ rest, splitStrictly? text.toList = some rest ∧
        isStrictAuthority (rest.takeWhile goesOn) = true ∧
        isStrictRest (rest.dropWhile goesOn) = true := by
  unfold isDialable
  rw [Bool.and_eq_true, decide_eq_true_iff]
  refine and_congr_right fun _ => ?_
  cases splitStrictly? text.toList with
  | none => exact ⟨nofun, nofun⟩
  | some rest =>
      simp only [Option.some.injEq, exists_eq_left', Bool.and_eq_true]
      rfl

/-- A text can be dialled if and only if it has parts in which everything is in its place. -/
theorem isDialable_iff (text : String) :
    isDialable text = true ↔
      text.utf8ByteSize ≤ longestUrl ∧ ∃ layout : Layout, text.toList = layout.text ∧
        layout.Fits ∧ layout.Spelled ∧ isStrictAuthority layout.authority = true := by
  rw [isDialable_iff_of_splitStrictly?]
  refine and_congr_right fun _ => ?_
  constructor
  · rintro ⟨rest, split, strict, strictRest⟩
    obtain ⟨scheme, written, noColon, parts, short⟩ := splitStrictly?_eq_some_iff.mp split
    obtain ⟨layout, rfl, rfl, fits⟩ := exists_layout noColon rest
    rw [fits.cut.1] at strict
    rw [fits.cut.2, Layout.isStrictRest_rest_iff fits] at strictRest
    exact ⟨layout, written, fits, ⟨parts, short, strictRest.1, strictRest.2⟩, strict⟩
  · rintro ⟨layout, written, fits, spelled, strict⟩
    refine ⟨layout.authority ++ layout.rest, ?_, ?_, ?_⟩
    · exact splitStrictly?_eq_some_iff.mpr
        ⟨layout.scheme, written, fits.scheme, spelled.scheme, spelled.scheme_length⟩
    · rwa [fits.cut.1]
    · rw [fits.cut.2, Layout.isStrictRest_rest_iff fits]
      exact ⟨spelled.path, spelled.query⟩

end Url

end NodeTelemetry
