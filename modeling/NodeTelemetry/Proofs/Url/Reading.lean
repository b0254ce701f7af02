/-
# What a URL is read from

Where a URL is written in parts that fit, what is read is found in those parts: the scheme
in front of the first colon, the host and the port behind the latest at sign, however the
scheme counts. So a URL that is read with a host has a site: a host, and a port or none.
-/

import NodeTelemetry.Url.Basic
import NodeTelemetry.Proofs.Folding
import NodeTelemetry.Proofs.Url.Host
import NodeTelemetry.Proofs.Url.Strictness

namespace NodeTelemetry.Url

/-! ## Sites -/

/-- What is written of a port, if there is one. -/
def portText : Option (List Char) → List Char
  | none => []
  | some port => ':' :: port

/-- A host, and a port or none. -/
inductive IsSite : List Char → Prop where
  | intro {host : List Char} {port : Option (List Char)} (isHost : IsHost host)
      (digits : ∀ text ∈ port, ∀ c ∈ text, c.isDigit = true) : IsSite (host ++ portText port)

theorem eq_append_of_splitPort (inBrackets : Bool) (text : List Char) :
    text = (splitPort inBrackets text).1 ++ portText (splitPort inBrackets text).2 := by
  fun_induction splitPort inBrackets text with
  | case1 => rfl
  | case2 inBrackets c rest isMark =>
      rw [Bool.and_eq_true, beq_iff_eq] at isMark
      rw [isMark.1]
      rfl
  | case3 inBrackets c rest unmarked host port split ih =>
      rw [split] at ih
      exact congrArg (c :: ·) ih

theorem isDigit_of_readPort {text : List Char} {port : Option Nat}
    (reads : readPort text = .ok port) (noBackslash : '\\' ∉ text) :
    ∀ c ∈ text, c.isDigit = true := by
  have whole : text.takeWhile (· != '\\') = text := by
    refine List.takeWhile_eq_self_iff.mpr fun c found => ?_
    exact bne_iff_ne.mpr fun same => noBackslash (same ▸ found)
  unfold readPort at reads
  rw [whole] at reads
  extract_lets port at reads
  split at reads
  · cases reads
  · rename_i fine
    simp only [Bool.or_eq_true, not_or, Bool.not_eq_true, Bool.not_eq_false'] at fine
    exact List.all_eq_true.mp fine.1

theorem isSite_of_readHostAndPort {kind : Kind} {text : List Char} {host : Host}
    {port : Option Nat} (reads : readHostAndPort kind text = .ok (some host, port))
    (noBackslash : '\\' ∉ text) : IsSite text := by
  have written := eq_append_of_splitPort false text
  unfold readHostAndPort at reads
  generalize splitPort false text = parts at reads written
  obtain ⟨name, behind⟩ := parts
  dsimp only at reads written
  rw [written] at noBackslash ⊢
  split at reads
  · split at reads <;> cases reads
  · obtain ⟨isHost, port, read⟩ : IsHost name ∧ ∃ port, readPort (behind.getD []) = .ok port := by
      split at reads
      · obtain ⟨known, hostRead, reads⟩ := exists_of_bind_eq_ok reads
        obtain ⟨port, read, -⟩ := exists_of_bind_eq_ok reads
        exact ⟨Host.isHost_of_ofKnown hostRead, port, read⟩
      · obtain ⟨known, hostRead, reads⟩ := exists_of_bind_eq_ok reads
        obtain ⟨port, read, -⟩ := exists_of_bind_eq_ok reads
        exact ⟨Host.isHost_of_ofUnknown hostRead, port, read⟩
    refine .intro isHost fun text isPort => ?_
    obtain rfl := isPort
    exact isDigit_of_readPort read fun found =>
      noBackslash (List.mem_append_right name (List.mem_cons_of_mem ':' found))

/-! ## What is visible -/

/-- Whether a character is dropped at both ends. -/
def isIdle (c : Char) : Bool := c.toNat ≤ 32

/-- Whether a character inside a text is seen. -/
def isSeen (c : Char) : Bool := !(c == '\t' || c == '\n' || c == '\r')

section Visible

variable {text front : List Char}

theorem dropWhile_isIdle (begins : ∀ c ∈ text.head?, 32 < c.toNat) : text.dropWhile isIdle = text :=
  (@Text.cut_append isIdle [] text nofun fun c first =>
    decide_eq_false (Nat.not_le.mpr (begins c first))).2

/-- Nothing is dropped behind a visible character. -/
theorem dropWhile_isIdle_append (text : List Char) (begins : ∀ c ∈ front.head?, 32 < c.toNat) :
    (text ++ front).dropWhile isIdle = text.dropWhile isIdle ++ front := by
  induction text with
  | nil => exact dropWhile_isIdle begins
  | cons c rest ih =>
      rw [List.cons_append, List.dropWhile_cons, List.dropWhile_cons]
      split
      · exact ih
      · rfl

theorem filter_isSeen (shown : ∀ c ∈ text, 32 < c.toNat) : text.filter isSeen = text := by
  refine List.filter_eq_self.mpr fun c found => ?_
  have unseen : ∀ mark ∈ ['\t', '\n', '\r'], mark.toNat ≤ 32 :=
    List.all_iff_forall_prop.mp (by decide)
  have apart (mark : Char) (listed : mark ∈ ['\t', '\n', '\r']) : (c == mark) = false :=
    beq_eq_false_iff_ne.mpr fun same => Nat.not_le.mpr (shown c found) (same ▸ unseen mark listed)
  simp [isSeen, apart]

/-- Up to its last visible character, a text without controls and blanks is visible. -/
theorem visible_append (some : front ≠ []) (shown : ∀ c ∈ front, 32 < c.toNat) (rest : List Char) :
    visible (front ++ rest) = front ++ (rest.reverse.dropWhile isIdle).reverse.filter isSeen := by
  have started : (front ++ rest).dropWhile isIdle = front ++ rest := by
    refine dropWhile_isIdle fun c first => ?_
    rw [List.head?_append_of_ne_nil _ some] at first
    exact shown c (List.mem_of_head? first)
  have ended : (rest.reverse ++ front.reverse).dropWhile isIdle =
      rest.reverse.dropWhile isIdle ++ front.reverse := by
    refine dropWhile_isIdle_append _ fun c first => ?_
    exact shown c (List.mem_reverse.mp (List.mem_of_head? first))
  change (((front ++ rest).dropWhile isIdle).reverse.dropWhile isIdle).reverse.filter isSeen = _
  rw [started, List.reverse_append, ended, List.reverse_append, List.reverse_reverse,
    List.filter_append, filter_isSeen shown]

/-- What is visible behind such a text begins as the rest of the text does. -/
theorem exists_visible_append {rest : List Char} (some : front ≠ [])
    (shown : ∀ c ∈ front, 32 < c.toNat) (begins : ∀ c ∈ rest.head?, 32 < c.toNat) :
    ∃ behind, visible (front ++ rest) = front ++ behind ∧ behind.head? = rest.head? := by
  cases rest with
  | nil => exact ⟨[], visible_append some shown [], rfl⟩
  | cons c tail =>
      have longer : ∀ other ∈ front ++ [c], 32 < other.toNat :=
        List.forall_mem_append.mpr ⟨shown, List.forall_mem_singleton.mpr (begins c rfl)⟩
      have seen := visible_append (List.append_ne_nil_of_left_ne_nil some [c]) longer tail
      rw [List.append_assoc, List.append_assoc] at seen
      exact ⟨_, seen, rfl⟩

end Visible

/-! ## Authorities -/

/-- Characters that occur in authorities are visible, and none of them ends one. -/
theorem MayOccur.fine {c : Char} (occurs : MayOccur c) :
    32 < c.toNat ∧ c ∉ ['/', '\\', '?', '#'] := by
  obtain plain | mark := occurs
  · refine ⟨?_, fun listed => ?_⟩
    · unfold isPlain at plain
      obtain alphanumeric | listed := Bool.or_eq_true_iff.mp plain
      · rw [isAlphanum_iff] at alphanumeric
        omega
      · have visible : ∀ other ∈ "!$&'()*+,-.;=_~".toList, 32 < other.toNat :=
          List.all_iff_forall_prop.mp (by decide)
        exact visible c (List.contains_iff_mem.mp listed)
    · have unplain : ∀ other ∈ ['/', '\\', '?', '#'], isPlain other = false :=
        List.all_iff_forall_prop.mp (by decide)
      rw [unplain c listed] at plain
      cases plain
  · have fine : ∀ other ∈ marks, 32 < other.toNat ∧ other ∉ ['/', '\\', '?', '#'] :=
      List.all_iff_forall_prop.mp (by decide)
    exact fine c mark

theorem MayOccur.not_isSlash {c : Char} (occurs : MayOccur c) : isSlash c = false := by
  have fine := occurs.fine.2
  simp_all [isSlash]

theorem MayOccur.not_endsAuthority {c : Char} (occurs : MayOccur c) (kind : Kind) :
    endsAuthority kind c = false := by
  have fine := occurs.fine.2
  simp_all [endsAuthority]

theorem endsAuthority_of_mem_ends (kind : Kind) : ∀ c ∈ ends, endsAuthority kind c = true := by
  cases kind <;> exact List.all_eq_true.mp (by decide)

/-- What stands behind the latest at sign. -/
def behindAtSign (text : List Char) : List Char :=
  match splitLast? '@' text with
  | none => text
  | some (_, site) => site

theorem behindAtSign_append {user site : List Char} (ended : ∀ c ∈ user.getLast?, c = '@')
    (absent : '@' ∉ site) : behindAtSign (user ++ site) = site := by
  have unmarked : '@' ∉ site.reverse := fun found => absent (List.mem_reverse.mp found)
  unfold behindAtSign splitLast?
  obtain rfl | ⟨name, rfl⟩ := eq_nil_or_append_atSign ended
  · rw [List.nil_append, Text.splitOnce_eq_none_iff.mpr unmarked]
    rfl
  · rw [List.reverse_append, List.reverse_concat, Text.splitOnce_append _ unmarked]
    exact List.reverse_reverse site

/-- Who asks is not looked at where host and port are read. -/
theorem readHostAndPort_of_readAuthority {kind : Kind} {text : List Char}
    {result : Option Host × Option Nat} (reads : readAuthority kind text = .ok result) :
    readHostAndPort kind (behindAtSign (text.takeWhile fun c => !endsAuthority kind c)) =
      .ok result := by
  unfold readAuthority at reads
  unfold behindAtSign
  extract_lets authority goesOn at reads
  split at reads
  · rename_i unsplit
    rw [unsplit]
    exact reads
  · rename_i user site split
    rw [split]
    split at reads
    · cases reads
    · obtain ⟨read, done, ended⟩ := exists_of_bind_eq_ok reads
      split at ended
      split at ended
      · cases ended
      · cases ended
        exact done

section Authority

variable {layout : Layout} {kind : Kind} {host : Host} {behind : List Char}

/-- The authority ends where it does, whichever characters end it. -/
theorem takeWhile_authority (occurs : ∀ c ∈ layout.authority, MayOccur c)
    (begins : ∀ c ∈ behind.head?, c ∈ ends) (kind : Kind) :
    (layout.authority ++ behind).takeWhile (fun c => !endsAuthority kind c) = layout.authority := by
  refine (Text.cut_append (fun c found => ?_) fun c first => ?_).1
  · rw [(occurs c found).not_endsAuthority, Bool.not_false]
  · rw [endsAuthority_of_mem_ends kind c (begins c first), Bool.not_true]

theorem isSite_of_readAuthority {port : Option Nat} (fits : layout.Fits)
    (occurs : ∀ c ∈ layout.authority, MayOccur c) (begins : ∀ c ∈ behind.head?, c ∈ ends)
    (reads : readAuthority kind (layout.authority ++ behind) = .ok (some host, port)) :
    IsSite layout.site := by
  have noBackslash : '\\' ∉ layout.site := by
    intro found
    have slash := (occurs '\\' (List.mem_append_right layout.user found)).not_isSlash
    cases slash
  have read := readHostAndPort_of_readAuthority reads
  rw [takeWhile_authority occurs begins kind, Layout.authority,
    behindAtSign_append fits.user fits.site] at read
  exact isSite_of_readHostAndPort read noBackslash

/-- A file is not asked for by anybody, and it has no port. -/
theorem isSite_of_readFileHost (fits : layout.Fits)
    (occurs : ∀ c ∈ layout.authority, MayOccur c) (begins : ∀ c ∈ behind.head?, c ∈ ends)
    (reads : readFileHost (layout.authority ++ behind) = .ok (some host)) :
    IsSite layout.site := by
  have isHost : IsHost layout.authority := by
    unfold readFileHost at reads
    rw [takeWhile_authority occurs begins .file] at reads
    extract_lets path at reads
    split at reads
    · cases reads
    · obtain ⟨known, read, -⟩ := exists_of_bind_eq_ok reads
      exact Host.isHost_of_ofKnown read
  have nobody : layout.authority = layout.site := by
    obtain none | ⟨name, some⟩ := eq_nil_or_append_atSign fits.user
    · rw [Layout.authority, none, List.nil_append]
    · refine absurd ?_ isHost.not_mem_atSign
      rw [Layout.authority, some]
      simp
  rw [nobody] at isHost
  rw [← List.append_nil layout.site]
  exact @IsSite.intro _ none isHost nofun

end Authority

/-! ## Reading -/

theorem eq_of_splitScheme?_eq_some {scheme rest : List Char} {split : List Char × List Char}
    (noColon : ':' ∉ scheme) (splits : splitScheme? (scheme ++ ':' :: rest) = some split) :
    split = (scheme, rest) := by
  unfold splitScheme? at splits
  rw [Text.splitOnce_append rest noColon, Option.bind_eq_bind, Option.bind_some] at splits
  dsimp only at splits
  split at splits
  · exact (Option.some.inj splits).symm
  · cases splits

theorem IsSchemeCharacter.mayOccur {c : Char} (isCharacter : IsSchemeCharacter c) :
    MayOccur c := by
  have marks : ∀ other ∈ ['+', '-', '.'], isPlain other = true :=
    List.all_iff_forall_prop.mp (by decide)
  obtain alphanumeric | listed := isCharacter
  · exact .inl (isPlain_of_isAlphanum alphanumeric)
  · exact .inl (marks c listed)

/-- The parts of a URL up to its path are visible, and what follows begins as the path does. -/
theorem exists_visible_text {layout : Layout} (fits : layout.Fits)
    (scheme : ∀ c ∈ layout.scheme, IsSchemeCharacter c)
    (occurs : ∀ c ∈ layout.authority, MayOccur c) :
    ∃ behind, visible layout.text =
        layout.scheme ++ ':' :: '/' :: '/' :: (layout.authority ++ behind) ∧
      ∀ c ∈ behind.head?, c ∈ ends := by
  have shown : ∀ c ∈ layout.scheme ++ ':' :: '/' :: '/' :: layout.authority, 32 < c.toNat := by
    simp only [List.forall_mem_append, List.forall_mem_cons]
    exact ⟨fun c found => (scheme c found).mayOccur.fine.1, by decide, by decide, by decide,
      fun c found => (occurs c found).fine.1⟩
  have begins : ∀ c ∈ layout.rest.head?, 32 < c.toNat := by
    have visible : ∀ c ∈ ends, 32 < c.toNat := List.all_iff_forall_prop.mp (by decide)
    exact fun c first => visible c (fits.head?_rest c first)
  obtain ⟨behind, seen, sameHead⟩ := exists_visible_append (by simp) shown begins
  refine ⟨behind, ?_, fun c first => fits.head?_rest c (sameHead ▸ first)⟩
  simpa [Layout.text] using seen

/-- A URL that is read with a host has a site. -/
theorem isSite_of_read {text : String} {layout : Layout} {url : Url}
    (written : text.toList = layout.text) (fits : layout.Fits)
    (scheme : ∀ c ∈ layout.scheme, IsSchemeCharacter c)
    (occurs : ∀ c ∈ layout.authority, MayOccur c) (some : layout.authority ≠ [])
    (reads : read text = .ok url) (hosted : url.host.isSome) : IsSite layout.site := by
  obtain ⟨behind, seen, begins⟩ := exists_visible_text fits scheme occurs
  unfold read at reads
  rw [written, seen] at reads
  dsimp only at reads
  split at reads
  · rename_i split splits
    obtain rfl := eq_of_splitScheme?_eq_some fits.scheme splits
    obtain ⟨scheme, same, reads⟩ := exists_of_bind_eq_ok reads
    cases same
    have slashes : (['/', '/'] ++ (layout.authority ++ behind)).dropWhile isSlash =
        layout.authority ++ behind := by
      refine (Text.cut_append (List.all_eq_true.mp (by decide)) fun c first => ?_).2
      obtain ⟨d, tail, whole⟩ := List.exists_cons_of_ne_nil some
      rw [whole] at first
      cases first
      exact (occurs c (whole ▸ List.mem_cons_self)).not_isSlash
    dsimp only at reads
    split at reads
    · obtain ⟨⟨host, port⟩, read, ended⟩ := exists_of_bind_eq_ok reads
      cases ended
      obtain ⟨host, rfl⟩ := Option.isSome_iff_exists.mp hosted
      exact isSite_of_readAuthority fits occurs begins (slashes ▸ read)
    · rename_i rest same
      cases same
      obtain ⟨⟨host, port⟩, read, ended⟩ := exists_of_bind_eq_ok reads
      cases ended
      obtain ⟨host, rfl⟩ := Option.isSome_iff_exists.mp hosted
      exact isSite_of_readAuthority fits occurs begins read
    · rename_i first second rest same
      cases same
      obtain ⟨host, read, ended⟩ := exists_of_bind_eq_ok reads
      cases ended
      obtain ⟨host, rfl⟩ := Option.isSome_iff_exists.mp hosted
      exact isSite_of_readFileHost fits occurs begins read
    · cases reads
      cases hosted
  · cases reads

end NodeTelemetry.Url
