/-
# Blank characters, words and lines

Texts read from the kernel, from settings and from addresses are cut at blanks
and at line ends. A blank is a character with the Unicode property
`White_Space`, a set larger than the ASCII blanks. A line ends at a line feed;
one carriage return directly before that line feed belongs to the line end, and
a carriage return at the end of an unterminated last line does not.
-/

namespace NodeTelemetry.Text

/-- The characters with the Unicode property `White_Space`. -/
def isBlank (c : Char) : Bool :=
  let n := c.toNat
  (0x09 ≤ n && n ≤ 0x0D) || n == 0x20 || n == 0x85 || n == 0xA0 || n == 0x1680 ||
    (0x2000 ≤ n && n ≤ 0x200A) || n == 0x2028 || n == 0x2029 || n == 0x202F ||
    n == 0x205F || n == 0x3000

/-- Drop the blanks at the front. -/
def trimStart (text : List Char) : List Char :=
  text.dropWhile isBlank

/-- Drop the blanks at the end. -/
def trimEnd (text : List Char) : List Char :=
  (text.reverse.dropWhile isBlank).reverse

/-- Drop the blanks at both ends. -/
def trim (text : List Char) : List Char :=
  trimEnd (trimStart text)

/-- Maximal runs of characters for which `cut` is false; empty runs are kept, so
`n` cuts give `n + 1` pieces. -/
def splitWhere (cut : Char → Bool) : List Char → List (List Char)
  | [] => [[]]
  | c :: rest =>
    match splitWhere cut rest with
    | [] => [[c]]
    | piece :: pieces => if cut c then [] :: piece :: pieces else (c :: piece) :: pieces

/-- The nonempty pieces between blanks. -/
def words (text : List Char) : List (List Char) :=
  (splitWhere isBlank text).filter fun word => !word.isEmpty

/-- Split at the first occurrence of `mark`, which belongs to neither side. -/
def splitOnce (mark : Char) : List Char → Option (List Char × List Char)
  | [] => none
  | c :: rest =>
    if c = mark then some ([], rest)
    else (splitOnce mark rest).map fun (before, after) => (c :: before, after)

/-- The number of bytes of a text in UTF-8. -/
def byteLength (text : List Char) : Nat := text.foldl (fun count c => count + c.utf8Size) 0

/-- Split before the first character that does not begin within the first `count` bytes. -/
def splitAtByte (count : Nat) : List Char → List Char × List Char
  | [] => ([], [])
  | c :: rest =>
    if count = 0 then ([], c :: rest)
    else
      let (before, after) := splitAtByte (count - c.utf8Size) rest
      (c :: before, after)

/-- One carriage return before a line feed belongs to the line end. -/
def dropReturn (line : List Char) : List Char :=
  match line.reverse with
  | '\r' :: before => before.reverse
  | _ => line

/-- Line ends in front of which a carriage return has to go: every piece but the last. -/
def terminateLines : List (List Char) → List (List Char)
  | [] => []
  | [last] => if last.isEmpty then [] else [last]
  | line :: rest => dropReturn line :: terminateLines rest

/-- The lines of a text. Text after the last line feed is a line unless it is empty. -/
def lines (text : List Char) : List (List Char) :=
  terminateLines (splitWhere (· == '\n') text)

/-- ASCII letters in lower case, every other character unchanged. -/
def lowerAscii (text : List Char) : List Char :=
  text.map Char.toLower

/-- Equality that ignores the case of ASCII letters. -/
def sameIgnoringAsciiCase (first second : List Char) : Bool :=
  lowerAscii first == lowerAscii second

/-- `lead` followed by anything. -/
def startsWith (lead text : List Char) : Bool :=
  lead.isPrefixOf text

theorem splitWhere_ne_nil (cut : Char → Bool) (text : List Char) : splitWhere cut text ≠ [] := by
  cases text with
  | nil => simp [splitWhere]
  | cons c rest =>
    simp only [splitWhere]
    split <;> try split
    all_goals simp

@[simp] theorem splitOnce_nil (mark : Char) : splitOnce mark [] = none := rfl

theorem splitOnce_eq_none_iff {mark : Char} {text : List Char} :
    splitOnce mark text = none ↔ mark ∉ text := by
  induction text with
  | nil => simp [splitOnce]
  | cons c rest ih =>
    by_cases h : c = mark
    · simp [splitOnce, h]
    · simp [splitOnce, h, ih, Ne.symm h]

theorem splitOnce_append {mark : Char} {before : List Char} (after : List Char)
    (absent : mark ∉ before) : splitOnce mark (before ++ mark :: after) = some (before, after) := by
  induction before with
  | nil => simp [splitOnce]
  | cons c rest ih =>
    simp only [List.mem_cons, not_or] at absent
    simp [splitOnce, Ne.symm absent.1, ih absent.2]

theorem splitOnce_eq_some_iff {mark : Char} {text before after : List Char} :
    splitOnce mark text = some (before, after) ↔
      text = before ++ mark :: after ∧ mark ∉ before := by
  constructor
  · intro split
    have marked : mark ∈ text := by
      refine Decidable.not_not.mp fun absent => ?_
      rw [splitOnce_eq_none_iff.mpr absent] at split
      cases split
    obtain ⟨first, rest, rfl, absent⟩ := List.eq_append_cons_of_mem marked
    rw [splitOnce_append rest absent] at split
    cases split
    exact ⟨rfl, absent⟩
  · rintro ⟨rfl, absent⟩
    exact splitOnce_append after absent

end NodeTelemetry.Text
