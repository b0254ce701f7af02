/-
# Totals of the block devices

Each total is the sum of a column of the table, in the unit of the column, and the largest
64-bit word if the sum is larger. Products and sums stop at that word all along the way, but
what is added up never shrinks, so it is enough to stop once, in the end. The order of the
lines does not matter then, and two tables can be read one by one and added up afterwards.
-/

import Mathlib.Algebra.BigOperators.Group.List.Basic
import Mathlib.Algebra.GroupWithZero.Nat
import NodeTelemetry.Kernel.Disks
import NodeTelemetry.Proofs.Number.Literals

namespace NodeTelemetry

/-! ## Lines and words -/

namespace Text

/-- Where a text is cut, one piece ends and another begins. -/
theorem splitWhere_append {cut : Char → Bool} {c : Char} (cuts : cut c = true)
    (before after : List Char) :
    splitWhere cut (before ++ c :: after) = splitWhere cut before ++ splitWhere cut after := by
  induction before with
  | nil =>
      obtain ⟨piece, pieces, found⟩ := List.exists_cons_of_ne_nil (splitWhere_ne_nil cut after)
      simp [splitWhere, found, cuts]
  | cons d rest ih =>
      obtain ⟨piece, pieces, found⟩ := List.exists_cons_of_ne_nil (splitWhere_ne_nil cut rest)
      rw [List.cons_append, splitWhere, ih, splitWhere, found]
      by_cases cutsHere : cut d = true
      · simp [cutsHere]
      · simp [cutsHere]

theorem words_append {c : Char} (blank : isBlank c = true) (before after : List Char) :
    words (before ++ c :: after) = words before ++ words after := by
  unfold words
  rw [splitWhere_append blank, List.filter_append]

/-- A carriage return is blank, so it makes no difference to the words of its line. -/
theorem words_dropReturn (line : List Char) : words (dropReturn line) = words line := by
  unfold dropReturn
  split
  · next before reversed =>
      have ended : line = before.reverse ++ ['\r'] := by
        rw [← List.reverse_cons, ← reversed, List.reverse_reverse]
      rw [ended, words_append (by decide) before.reverse []]
      exact (List.append_nil _).symm
  · rfl

/-- What stands between the line feeds of a text. -/
def cuts (text : List Char) : List (List Char) := splitWhere (· == '\n') text

theorem cuts_append (text after : List Char) :
    cuts (text ++ '\n' :: after) = cuts text ++ cuts after :=
  splitWhere_append rfl text after

end Text

namespace Kernel

/-! ## Columns -/

/-- A line counts if it has at least ten fields and its device, in the third of them, is
neither a loop device nor a memory disk. -/
def Counts (fields : List (List Char)) : Prop :=
  10 ≤ fields.length ∧
    ∀ device, fields[2]? = some device →
      ¬"loop".toList <+: device ∧ ¬"ram".toList <+: device

theorem countsTowardsTotals_iff {fields : List (List Char)} :
    countsTowardsTotals fields = true ↔ Counts fields := by
  unfold countsTowardsTotals Counts leastFields isVirtualDevice Text.startsWith
  rw [Bool.and_eq_true, decide_eq_true_iff, Bool.not_eq_true', Bool.or_eq_false_iff]
  refine and_congr_right fun enough => ?_
  have third : fields[2]? = some (fields.getD 2 []) := by
    rw [List.getD_eq_getElem?_getD, List.getElem?_eq_getElem (by omega)]
    rfl
  simp only [third, Option.some.injEq, forall_eq', Bool.eq_false_iff, ne_eq,
    List.isPrefixOf_iff_prefix]

instance : DecidablePred Counts := fun _ => decidable_of_iff _ countsTowardsTotals_iff

/-- The fields of the lines that count. -/
def counted (lines : List (List Char)) : List (List (List Char)) :=
  (lines.map Text.words).filter fun fields => decide (Counts fields)

/-- What a field is worth: its number, if it is one of 64 bits, and else nothing. -/
inductive IsWorth (field : List Char) : Nat → Prop where
  | number {n : Nat} (isWhole : Literal.IsWhole field n) (fits : n ≤ Literal.mostUInt64) :
      IsWorth field n
  | nothing (isNone : ∀ n, Literal.IsWhole field n → Literal.mostUInt64 < n) : IsWorth field 0

/-- What the totals are about. -/
inductive DiskCounter where
  | readOps
  | readBytes
  | writeOps
  | writeBytes

/-- Where a line has its part of a total, from zero. -/
def DiskCounter.position : DiskCounter → Nat
  | .readOps => 3
  | .readBytes => 5
  | .writeOps => 7
  | .writeBytes => 9

/-- Operations count once, and what is read or written is given in sectors of 512 bytes. -/
def DiskCounter.unit : DiskCounter → Nat
  | .readOps => 1
  | .readBytes => 512
  | .writeOps => 1
  | .writeBytes => 512

end Kernel

/-- The total of a counter. -/
def DiskTotals.count (totals : DiskTotals) : Kernel.DiskCounter → UInt64
  | .readOps => totals.readOps
  | .readBytes => totals.readBytes
  | .writeOps => totals.writeOps
  | .writeBytes => totals.writeBytes

theorem DiskTotals.eq_of_counts {totals others : DiskTotals}
    (same : ∀ counter, (totals.count counter).toNat = (others.count counter).toNat) :
    totals = others := by
  have counts : ∀ counter, totals.count counter = others.count counter := fun counter =>
    UInt64.toNat_inj.mp (same counter)
  obtain ⟨readBytes, writeBytes, readOps, writeOps⟩ := totals
  rw [DiskTotals.mk.injEq]
  exact ⟨counts .readBytes, counts .writeBytes, counts .readOps, counts .writeOps⟩

namespace Kernel

/-- The numbers in the column of a counter, from the lines that count. -/
def IsColumn (counter : DiskCounter) (lines : List (List Char)) (numbers : List Nat) : Prop :=
  List.Forall₂ (fun fields => IsWorth (fields.getD counter.position [])) (counted lines) numbers

/-- The column as it is read. -/
def column (counter : DiskCounter) (lines : List (List Char)) : List Nat :=
  (counted lines).map fun fields => (counterField fields counter.position).toNat

theorem isWorth_counterField (fields : List (List Char)) (position : Nat) :
    IsWorth (fields.getD position []) (counterField fields position).toNat := by
  unfold counterField
  cases reads : Literal.readWhole Literal.mostUInt64 (fields.getD position []) with
  | ok n =>
      obtain ⟨isWhole, fits⟩ := Literal.readWhole_eq_ok_iff.mp reads
      have small : n < 2 ^ 64 := Nat.lt_of_le_pred (by decide) fits
      change IsWorth _ (UInt64.ofNat n).toNat
      rw [UInt64.toNat_ofNat_of_lt' small]
      exact .number isWhole fits
  | error fault =>
      refine .nothing fun n isWhole => Nat.lt_of_not_le fun fits => ?_
      rw [Literal.readWhole_eq_ok_iff.mpr ⟨isWhole, fits⟩] at reads
      cases reads

theorem isColumn_column (counter : DiskCounter) (lines : List (List Char)) :
    IsColumn counter lines (column counter lines) := by
  unfold IsColumn column
  rw [List.forall₂_map_right_iff, List.forall₂_same]
  exact fun fields _ => isWorth_counterField fields counter.position

/-- The lines of a text and what stands between its line feeds differ in carriage returns, and
in one empty line in the end; neither of them counts. -/
theorem counted_lines (text : List Char) :
    counted (Text.lines text) = counted (Text.cuts text) := by
  have terminated : ∀ pieces, counted (Text.terminateLines pieces) = counted pieces := by
    intro pieces
    fun_induction Text.terminateLines pieces with
    | case1 => rfl
    | case2 last empty =>
        rw [List.isEmpty_iff.mp empty]
        decide
    | case3 last => rfl
    | case4 line rest _ ih =>
        unfold counted at ih ⊢
        rw [List.map_cons, List.map_cons, Text.words_dropReturn, List.filter_cons,
          List.filter_cons, ih]
  exact terminated _

theorem column_perm (counter : DiskCounter) {lines others : List (List Char)}
    (perm : lines.Perm others) : (column counter lines).Perm (column counter others) :=
  ((perm.map _).filter _).map _

theorem column_append (counter : DiskCounter) (lines others : List (List Char)) :
    column counter (lines ++ others) = column counter lines ++ column counter others := by
  simp [column, counted]

/-! ## Sums -/

theorem toNat_saturate (n : Nat) : (saturate n).toNat = min Literal.mostUInt64 n := by
  have small : min n Literal.mostUInt64 < UInt64.size :=
    Nat.lt_of_le_pred (by decide) (Nat.min_le_right n Literal.mostUInt64)
  unfold saturate
  rw [UInt64.toNat_ofNat_of_lt' small, Nat.min_comm]

theorem toNat_le_most (word : UInt64) : word.toNat ≤ Literal.mostUInt64 :=
  Nat.le_pred_of_lt word.toNat_lt

/-- A line that counts adds to every total, and others to none. -/
theorem count_addDiskLine (totals : DiskTotals) (line : List Char) (counter : DiskCounter) :
    ((addDiskLine totals line).count counter).toNat =
      min Literal.mostUInt64
        ((totals.count counter).toNat + counter.unit * (column counter [line]).sum) := by
  unfold addDiskLine column counted
  rw [List.map_singleton, List.filter_singleton]
  by_cases counts : Counts (Text.words line)
  · rw [if_pos (countsTowardsTotals_iff.mpr counts), decide_eq_true counts]
    have most := toNat_le_most (counterField (Text.words line) counter.position)
    cases counter <;>
      simp only [DiskTotals.count, DiskCounter.position, DiskCounter.unit, saturatingAdd,
        saturatingMul, sectorBytes, toNat_saturate, cond_true, List.map_singleton,
        List.sum_singleton] at most ⊢ <;>
      omega
  · rw [if_neg (mt countsTowardsTotals_iff.mp counts), decide_eq_false counts]
    exact (Nat.min_eq_right (toNat_le_most _)).symm

/-- Stopping at the largest word after every line is no different from stopping once. -/
theorem count_foldl (lines : List (List Char)) (totals : DiskTotals) (counter : DiskCounter) :
    ((lines.foldl addDiskLine totals).count counter).toNat =
      min Literal.mostUInt64
        ((totals.count counter).toNat + counter.unit * (column counter lines).sum) := by
  induction lines generalizing totals with
  | nil => exact (Nat.min_eq_right (toNat_le_most _)).symm
  | cons line rest ih =>
      have split : (column counter (line :: rest)).sum =
          (column counter [line]).sum + (column counter rest).sum := by
        rw [← List.sum_append, ← column_append]
        rfl
      rw [List.foldl_cons, ih, count_addDiskLine, split, Nat.mul_add]
      omega

theorem count_readDiskTotals (text : List Char) (counter : DiskCounter) :
    ((readDiskTotals text).count counter).toNat =
      min Literal.mostUInt64 (counter.unit * (column counter (Text.lines text)).sum) := by
  have none : ((({} : DiskTotals).count counter)).toNat = 0 := by cases counter <;> rfl
  unfold readDiskTotals
  rw [count_foldl, none, Nat.zero_add]

theorem count_eq_of_cuts (text : List Char) (counter : DiskCounter) :
    ((readDiskTotals text).count counter).toNat =
      min Literal.mostUInt64 (counter.unit * (column counter (Text.cuts text)).sum) := by
  rw [count_readDiskTotals]
  unfold column
  rw [counted_lines]

/-- How the totals of a table come about. -/
structure SumsUp (text : List Char) : Prop where
  /-- Each is the sum of its column, as far as a word goes. -/
  summed : ∀ counter, ∃ numbers, IsColumn counter (Text.lines text) numbers ∧
    ((readDiskTotals text).count counter).toNat =
      min Literal.mostUInt64 (counter.unit * numbers.sum)
  /-- Lines may be in any order, with what ends them or without it. -/
  reordered : ∀ other,
    (Text.lines other).Perm (Text.lines text) ∨ (Text.cuts other).Perm (Text.cuts text) →
      readDiskTotals other = readDiskTotals text
  /-- The totals of a table that is followed by another are those of both, added up as far as
  a word goes. -/
  followed : ∀ after counter,
    ((readDiskTotals (text ++ '\n' :: after)).count counter).toNat =
      min Literal.mostUInt64
        (((readDiskTotals text).count counter).toNat +
          ((readDiskTotals after).count counter).toNat)

/-- The totals are exact up to the largest word, in whatever order and in how many parts the
table is read. -/
theorem sums_up (text : List Char) : SumsUp text where
  summed := fun counter =>
    ⟨_, isColumn_column counter (Text.lines text), count_readDiskTotals text counter⟩
  reordered := by
    rintro other (perm | perm) <;> refine DiskTotals.eq_of_counts fun counter => ?_
    · rw [count_readDiskTotals, count_readDiskTotals, (column_perm counter perm).sum_eq]
    · rw [count_eq_of_cuts, count_eq_of_cuts, (column_perm counter perm).sum_eq]
  followed := by
    intro after counter
    rw [count_eq_of_cuts, count_eq_of_cuts, count_eq_of_cuts, Text.cuts_append, column_append,
      List.sum_append, Nat.mul_add]
    omega

/-- A device that has come to the end of its counters does not set the totals back. -/
example :
    readDiskTotals ("8 0 sda 18446744073709551615 0 1 0 +2 0 x 0\n" ++
        "8 16 sdb 5 0 3 0 1 0 2 0\n7 0 loop0 1 1 1 1 1 1 1").toList =
      { readOps := 18446744073709551615, readBytes := 2048, writeOps := 3, writeBytes := 1024 } := by
  decide +kernel

end Kernel

end NodeTelemetry
