/-
# How hosts are written

A host that can be read is written in one of two ways. Either it is an address in brackets,
which has hexadecimal digits, points and at most eight colons, or it is a name in which no
bracket, no colon and no at sign occurs. Nothing is made of these marks on the way: they
stay as they are where percent signs are resolved, and a domain is refused for any of them.
-/

import Mathlib.Data.Bool.AllAny
import Mathlib.Data.List.Basic
import NodeTelemetry.Url.Host

namespace NodeTelemetry

/-! ## Pieces -/

namespace Text

variable {cut : Char → Bool}

theorem splitWhere_cons (c : Char) (rest : List Char) :
    splitWhere cut (c :: rest) =
      if cut c then [] :: splitWhere cut rest else (splitWhere cut rest).modifyHead (c :: ·) := by
  obtain ⟨piece, pieces, found⟩ := List.exists_cons_of_ne_nil (splitWhere_ne_nil cut rest)
  rw [splitWhere, found]
  rfl

theorem length_splitWhere (text : List Char) :
    (splitWhere cut text).length = text.countP cut + 1 := by
  induction text with
  | nil => rfl
  | cons c rest ih =>
      rw [splitWhere_cons, List.countP_cons]
      split
      · rw [List.length_cons, ih]
      · rw [List.length_modifyHead, ih, Nat.add_zero]

/-- What is true of the cuts and of all pieces is true of the whole text. -/
theorem forall_of_forall_splitWhere {P : Char → Prop} {text : List Char}
    (cuts : ∀ c, cut c = true → P c) (kept : ∀ piece ∈ splitWhere cut text, ∀ c ∈ piece, P c) :
    ∀ c ∈ text, P c := by
  induction text with
  | nil => exact nofun
  | cons c rest ih =>
      obtain ⟨piece, pieces, written⟩ := List.exists_cons_of_ne_nil (splitWhere_ne_nil cut rest)
      rw [splitWhere_cons] at kept
      split at kept
      · rename_i isCut
        exact List.forall_mem_cons.mpr ⟨cuts c isCut, ih (List.forall_mem_cons.mp kept).2⟩
      · rw [written] at ih kept
        obtain ⟨first, others⟩ := List.forall_mem_cons.mp kept
        obtain ⟨here, later⟩ := List.forall_mem_cons.mp first
        exact List.forall_mem_cons.mpr ⟨here, ih (List.forall_mem_cons.mpr ⟨later, others⟩)⟩

end Text

/-- Where all items are read, each one of them is. -/
theorem exists_of_mapM_eq_some {α β : Type} {f : α → Option β} {items : List α} {read : List β}
    (all : items.mapM f = some read) :
    read.length = items.length ∧ ∀ item ∈ items, ∃ value ∈ read, f item = some value := by
  induction items generalizing read with
  | nil =>
      cases all
      exact ⟨rfl, nofun⟩
  | cons item items ih =>
      simp only [List.mapM_cons, Option.bind_eq_bind, Option.bind_eq_some_iff] at all
      obtain ⟨value, first, values, others, same⟩ := all
      cases same
      obtain ⟨length, each⟩ := ih others
      refine ⟨congrArg (· + 1) length, List.forall_mem_cons.mpr ⟨?_, ?_⟩⟩
      · exact ⟨value, List.mem_cons_self, first⟩
      · intro other listed
        obtain ⟨known, here, reads⟩ := each other listed
        exact ⟨known, List.mem_cons_of_mem _ here, reads⟩

namespace Url

/-! ## Percent signs -/

/-- An ASCII character is a byte of its own, and no other character has that byte. -/
theorem mem_utf8EncodeChar_iff {c other : Char} (ascii : c.toNat < 128) :
    UInt8.ofNat c.toNat ∈ String.utf8EncodeChar other ↔ other = c := by
  have codes : other = c ↔ other.val.toNat = c.toNat := by
    rw [Char.ext_iff, ← UInt32.toNat_inj]
    rfl
  have bytes {n : Nat} (low : n < 256) : UInt8.ofNat c.toNat = UInt8.ofNat n ↔ n = c.toNat := by
    rw [← UInt8.toNat_inj, UInt8.toNat_ofNat', UInt8.toNat_ofNat']
    omega
  rw [codes]
  unfold String.utf8EncodeChar
  generalize other.val.toNat = code
  dsimp only
  split
  · rw [List.mem_singleton, bytes (by omega)]
  · -- The bytes of a longer form are all 128 or more.
    split
    · simp (disch := omega) only [List.mem_cons, List.not_mem_nil, bytes, or_false]
      omega
    · split
      · simp (disch := omega) only [List.mem_cons, List.not_mem_nil, bytes, or_false]
        omega
      · simp (disch := omega) only [List.mem_cons, List.not_mem_nil, bytes, or_false]
        omega

/-- A mark that no byte in digits could be part of keeps its byte. -/
theorem mem_bytesOf {text : List Char} {c : Char} (ascii : c.toNat < 128) (unescaped : c ≠ '%')
    (noDigit : Text.hexDigit? c = none) (found : c ∈ text) :
    UInt8.ofNat c.toNat ∈ bytesOf text := by
  fun_induction bytesOf text with
  | case1 high low rest first second lowIs highIs ih =>
      have later : c ∈ rest := by
        obtain rfl | rfl | rfl | later := by simpa using found
        · exact absurd rfl unescaped
        · rw [noDigit] at highIs
          cases highIs
        · rw [noDigit] at lowIs
          cases lowIs
        · exact later
      exact List.mem_cons_of_mem _ (ih later)
  | case2 high low rest noByte ih =>
      obtain rfl | later := List.mem_cons.mp found
      · exact absurd rfl unescaped
      · exact List.mem_cons_of_mem _ (ih later)
  | case3 first rest noEscape ih =>
      rw [List.mem_append]
      obtain rfl | later := List.mem_cons.mp found
      · exact .inl ((mem_utf8EncodeChar_iff ascii).mpr rfl)
      · exact .inr (ih later)
  | case4 => cases found

theorem mem_of_percentDecode?_eq_some {text decoded : List Char} {c : Char}
    (decodes : percentDecode? text = some decoded) (ascii : c.toNat < 128) (unescaped : c ≠ '%')
    (noDigit : Text.hexDigit? c = none) (found : c ∈ text) : c ∈ decoded := by
  unfold percentDecode? at decodes
  split at decodes
  · obtain ⟨string, read, rfl⟩ := Option.map_eq_some_iff.mp decodes
    have bytes : bytesOf text = string.toList.flatMap String.utf8EncodeChar := by
      have encoded : string.toByteArray = string.toList.utf8Encode := by
        rw [← String.toByteArray_ofList, String.ofList_toList]
      have held : string.toByteArray = ⟨(bytesOf text).toArray⟩ := by
        unfold String.fromUTF8? at read
        split at read <;> cases read
        rfl
      have data := congrArg (fun bytes => bytes.data.toList) (held.symm.trans encoded)
      simpa [List.utf8Encode, List.data_toByteArray] using data
    have byte := mem_bytesOf ascii unescaped noDigit found
    rw [bytes, List.mem_flatMap] at byte
    obtain ⟨other, listed, encoded⟩ := byte
    rwa [← (mem_utf8EncodeChar_iff ascii).mp encoded]
  · cases decodes
    exact found

/-! ## Domains -/

/-- A domain is refused for the ASCII characters that no domain may hold. -/
theorem isForbidden_toLower_of_domain? {text name : List Char} {c : Char}
    (reads : Idna.domain? text = some name) (found : c ∈ text) (ascii : Idna.isAscii c = true) :
    Idna.isForbidden c.toLower = false := by
  obtain ⟨labels, read, -⟩ := Option.map_eq_some_iff.mp reads
  unfold Idna.labels? at read
  simp only [Option.bind_eq_bind, Option.bind_eq_some_iff] at read
  obtain ⟨replaced, replaces, allowed⟩ := read
  split at allowed
  · cases allowed
  · rename_i noneForbidden
    obtain ⟨written, listed, replacement⟩ := (exists_of_mapM_eq_some replaces).2 c found
    unfold Idna.replace? at replacement
    rw [if_pos ascii] at replacement
    cases replacement
    rw [Bool.not_eq_true, List.any_eq_false] at noneForbidden
    exact eq_false_of_ne_true
      (noneForbidden _ (List.mem_flatten.mpr ⟨_, listed, List.mem_singleton_self _⟩))

/-! ## Addresses in brackets -/

/-- Characters of an address in brackets. -/
def IsAddressCharacter (c : Char) : Prop :=
  (Text.hexDigit? c).isSome ∨ c = ':' ∨ c = '.'

namespace Ipv6

theorem isSome_hexDigit?_of_isDigit {c : Char} (digit : c.isDigit = true) :
    (Text.hexDigit? c).isSome := by
  have first : ('0' ≤ c && c ≤ '9') = true := by
    simpa [Char.isDigit, Char.le_def] using digit
  unfold Text.hexDigit?
  rw [if_pos first]
  rfl

theorem isSome_hexDigit?_of_piece? {text : List Char} {n : Nat} (reads : piece? text = some n) :
    ∀ c ∈ text, (Text.hexDigit? c).isSome := by
  unfold piece? at reads
  split at reads
  · cases reads
  · rename_i shaped
    clear shaped
    generalize 0 = start at reads
    induction text generalizing start with
    | nil => exact nofun
    | cons c rest ih =>
        rw [List.foldlM_cons, Option.bind_eq_bind, Option.bind_eq_some_iff] at reads
        obtain ⟨next, first, later⟩ := reads
        obtain ⟨digit, isDigit, -⟩ := Option.map_eq_some_iff.mp first
        exact List.forall_mem_cons.mpr ⟨Option.isSome_of_eq_some isDigit, ih next later⟩

theorem isDigit_of_byte? {text : List Char} {n : Nat} (reads : byte? text = some n) :
    ∀ c ∈ text, c.isDigit = true := by
  unfold byte? at reads
  split at reads
  · cases reads
  · rename_i shaped
    simp only [Bool.or_eq_true, not_or, Bool.not_eq_true, Bool.not_eq_false'] at shaped
    exact List.all_eq_true.mp shaped.2

theorem written_of_dotted? {text : List Char} {pieces : List Nat}
    (reads : dotted? text = some pieces) :
    pieces.length = 2 ∧ ∀ c ∈ text, IsAddressCharacter c := by
  unfold dotted? at reads
  simp only [Option.bind_eq_bind, Option.bind_eq_some_iff] at reads
  obtain ⟨bytes, each, made⟩ := reads
  split at made
  · cases made
    refine ⟨rfl, Text.forall_of_forall_splitWhere
      (fun c isPoint => .inr (.inr (eq_of_beq isPoint))) fun piece listed c holds => ?_⟩
    obtain ⟨byte, -, read⟩ := (exists_of_mapM_eq_some each).2 piece listed
    exact .inl (isSome_hexDigit?_of_isDigit (isDigit_of_byte? read c holds))
  · cases made

/-- What stands last is a piece or, where the address ends, dotted. -/
theorem written_of_last {atEnd : Bool} {text : List Char} {pieces : List Nat}
    {goOn : List Nat → Option (List Nat)}
    (reads : (if (atEnd && text.contains '.') = true then (dotted? text).bind goOn
      else ((piece? text).map ([·])).bind goOn) = some pieces) :
    ∃ last, goOn last = some pieces ∧ 0 < last.length ∧ ∀ c ∈ text, IsAddressCharacter c := by
  split at reads
  · obtain ⟨last, read, whole⟩ := Option.bind_eq_some_iff.mp reads
    obtain ⟨two, chars⟩ := written_of_dotted? read
    exact ⟨last, whole, by omega, chars⟩
  · obtain ⟨last, read, whole⟩ := Option.bind_eq_some_iff.mp reads
    obtain ⟨piece, isPiece, rfl⟩ := Option.map_eq_some_iff.mp read
    exact ⟨[piece], whole, Nat.zero_lt_one,
      fun c found => .inl (isSome_hexDigit?_of_piece? isPiece c found)⟩

/-- There is one piece more than there are colons. -/
theorem written_of_pieces? {atEnd : Bool} {text : List Char} {pieces : List Nat}
    (reads : pieces? atEnd text = some pieces) :
    text.count ':' ≤ pieces.length - 1 ∧ ∀ c ∈ text, IsAddressCharacter c := by
  unfold pieces? at reads
  split at reads
  · rename_i isEmpty
    rw [List.isEmpty_iff.mp isEmpty]
    exact ⟨Nat.zero_le _, nofun⟩
  · extract_lets parts at reads
    have many : parts.length = text.count ':' + 1 := Text.length_splitWhere text
    split at reads
    · cases reads
    · rename_i final isLast
      obtain ⟨start, readStart, reads⟩ := Option.bind_eq_some_iff.mp reads
      obtain ⟨last, whole, someLast, lastChars⟩ := written_of_last reads
      obtain ⟨length, each⟩ := exists_of_mapM_eq_some readStart
      cases whole
      constructor
      · rw [List.length_append, length, List.length_dropLast]
        omega
      · refine Text.forall_of_forall_splitWhere
          (fun c isColon => .inr (.inl (eq_of_beq isColon))) fun part listed c holds => ?_
        change part ∈ parts at listed
        rw [← List.dropLast_append_getLast? final isLast, List.mem_append, List.mem_singleton]
          at listed
        obtain early | rfl := listed
        · obtain ⟨piece, -, read⟩ := each part early
          exact .inl (isSome_hexDigit?_of_piece? read c holds)
        · exact lastChars c holds

theorem eq_append_of_splitGap {text before after : List Char}
    (split : splitGap text = some (before, after)) : text = before ++ ':' :: ':' :: after := by
  fun_induction splitGap text generalizing before with
  | case1 rest =>
      cases split
      rfl
  | case2 c rest noGap ih =>
      obtain ⟨⟨shorter, behind⟩, found, same⟩ := Option.map_eq_some_iff.mp split
      cases same
      rw [ih found]
      rfl
  | case3 => cases split

/-- Colons stand between pieces, and two of them for missing pieces. -/
theorem written_of_read? {text : List Char} {pieces : List Nat}
    (reads : read? text = some pieces) :
    text.count ':' ≤ 8 ∧ ∀ c ∈ text, IsAddressCharacter c := by
  unfold read? at reads
  split at reads
  · simp only [Option.bind_eq_bind, Option.bind_eq_some_iff] at reads
    obtain ⟨all, read, eight⟩ := reads
    obtain ⟨colons, chars⟩ := written_of_pieces? read
    split at eight
    · exact ⟨by omega, chars⟩
    · cases eight
  · rename_i before after split
    simp only [Option.bind_eq_bind, Option.bind_eq_some_iff] at reads
    obtain ⟨first, readFirst, last, readLast, gap⟩ := reads
    obtain ⟨colonsBefore, charsBefore⟩ := written_of_pieces? readFirst
    obtain ⟨colonsAfter, charsAfter⟩ := written_of_pieces? readLast
    rw [eq_append_of_splitGap split]
    split at gap
    · constructor
      · rw [List.count_append, List.count_cons_self, List.count_cons_self]
        omega
      · have colon : IsAddressCharacter ':' := .inr (.inl rfl)
        exact List.forall_mem_append.mpr ⟨charsBefore,
          List.forall_mem_cons.mpr ⟨colon, List.forall_mem_cons.mpr ⟨colon, charsAfter⟩⟩⟩
    · cases gap

end Ipv6

/-! ## Hosts -/

/-- The two ways in which a host is written. -/
inductive IsHost : List Char → Prop where
  | named {name : List Char} (unmarked : ∀ mark ∈ [':', '[', ']', '@'], mark ∉ name) : IsHost name
  | bracketed {address : List Char} (colons : address.count ':' ≤ 8)
      (chars : ∀ c ∈ address, IsAddressCharacter c) : IsHost ('[' :: (address ++ [']']))

theorem IsHost.not_mem_atSign {text : List Char} (isHost : IsHost text) : '@' ∉ text := by
  cases isHost with
  | named unmarked => exact unmarked '@' (by decide)
  | bracketed colons chars =>
      have apart : ¬IsAddressCharacter '@' := by
        unfold IsAddressCharacter
        decide
      intro found
      simp at found
      exact apart (chars '@' found)

namespace Host

theorem isHost_of_ofBracketed {text : List Char} {host : Host}
    (reads : ofBracketed text = .ok host) : IsHost ('[' :: text) := by
  unfold ofBracketed at reads
  split at reads
  · rename_i address backward
    split at reads
    · rename_i pieces read
      obtain ⟨colons, chars⟩ := Ipv6.written_of_read? read
      have closed : text = address.reverse ++ [']'] := by
        rw [← List.reverse_cons, ← backward, List.reverse_reverse]
      rw [closed]
      exact .bracketed colons chars
    · cases reads
  · cases reads

theorem isHost_of_ofKnown {text : List Char} {host : Host} (reads : ofKnown text = .ok host) :
    IsHost text := by
  unfold ofKnown at reads
  split at reads
  · exact isHost_of_ofBracketed reads
  · split at reads
    · cases reads
    · rename_i name isName
      obtain ⟨decoded, decodes, domain⟩ := Option.bind_eq_some_iff.mp isName
      refine .named fun mark listed found => ?_
      have marks : ∀ mark ∈ [':', '[', ']', '@'], mark.toNat < 128 ∧ mark ≠ '%' ∧
          Text.hexDigit? mark = none ∧ Idna.isForbidden mark.toLower = true :=
        List.all_iff_forall_prop.mp (by decide)
      obtain ⟨ascii, unescaped, noDigit, forbidden⟩ := marks mark listed
      have kept := mem_of_percentDecode?_eq_some decodes ascii unescaped noDigit found
      have refused := isForbidden_toLower_of_domain? domain kept (decide_eq_true ascii)
      rw [forbidden] at refused
      cases refused

theorem isHost_of_ofUnknown {text : List Char} {host : Host} (reads : ofUnknown text = .ok host) :
    IsHost text := by
  unfold ofUnknown at reads
  split at reads
  · exact isHost_of_ofBracketed reads
  · split at reads
    · cases reads
    · rename_i allowed
      have forbidden : ∀ mark ∈ [':', '[', ']', '@'], isForbidden mark = true :=
        List.all_iff_forall_prop.mp (by decide)
      exact .named fun mark listed found =>
        allowed (List.any_eq_true.mpr ⟨mark, found, forbidden mark listed⟩)

end Host

end Url

end NodeTelemetry
