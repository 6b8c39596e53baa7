import PromptTemplate.Proofs.Outcome
import PromptTemplate.Url.Parser
/-!
# PromptTemplate — a path that has been read does not climb

Reading an address resolves its dot segments: a segment of two dots, in
whatever spelling, takes away the segment before it and is not kept.
`Level` says of segments that none of them is two dots. It holds of every
address that is read, if it does of the base (`isLevel_of_parse`): every
segment is kept by `appendSegments`, and encoding the characters of a
segment makes no dots where there were none (`isDoubleDot_percentEncode`).

So nothing about the way an address was written can be told from the
address that it joins to.
-/

namespace PromptTemplate

namespace Url

/-! ## Spelled dots -/

/-- The ways to write a dot, in lower case. -/
def spelledDots : List (List Char) := [['.'], ['%', '2', 'e']]

/-- A segment goes up exactly if it is two dots, each in one of the
spellings. -/
theorem isDoubleDot_iff {segment : List Char} :
    isDoubleDot segment = true ↔
      ∃ a ∈ spelledDots, ∃ b ∈ spelledDots, segment.map Char.toLower = a ++ b := by
  simp [isDoubleDot, dotSpellings, spelledDots, ← String.toList_inj, or_assoc]

/-- Every byte of a character that is encoded in a path is another one than
the dot. -/
theorem ne_dot_of_mem_utf8 {c : Char} (hc : encodedInPath c = true) {b : UInt8}
    (hb : b ∈ String.utf8EncodeChar c) : b.toNat ≠ 0x2e := by
  have hdot : c.val.toNat ≠ 0x2e := by
    intro h
    have : c = '.' := Char.toNat_inj.1 h
    subst this
    exact absurd hc (by decide)
  unfold String.utf8EncodeChar at hb
  dsimp only at hb
  split at hb
  · obtain rfl := List.mem_singleton.1 hb
    simp only [UInt8.toNat_ofNat']
    omega
  -- the bytes of other characters are no ASCII
  all_goals
    repeat' split at hb
    all_goals
      simp only [List.mem_cons, List.not_mem_nil, or_false] at hb
      rcases hb with rfl | rfl | rfl | rfl <;> simp only [UInt8.toNat_ofNat'] <;> omega

/-- The digits of another byte do not spell a dot. -/
theorem percentDigits_ne : ∀ n < 256, n ≠ 0x2e →
    [Hex.upper (n / 16), Hex.upper (n % 16)].map Char.toLower ≠ ['2', 'e'] := by
  decide +kernel

/-- An encoded text begins with a character of the text itself, unless it
begins with a percent sign that spells no dot. -/
theorem exists_cons_of_percentEncode {cs : List Char} {d : Char} {t : List Char}
    (h : (percentEncode encodedInPath cs).map Char.toLower = d :: t)
    (hspelled : d = '%' → ∃ t', t = '2' :: 'e' :: t') :
    ∃ c rest, cs = c :: rest ∧ c.toLower = d ∧
      (percentEncode encodedInPath rest).map Char.toLower = t := by
  cases cs with
  | nil => cases h
  | cons c rest =>
    rw [percentEncode, List.flatMap_cons] at h
    by_cases hc : encodedInPath c = true
    · obtain ⟨b, bytes, hbytes⟩ :=
        List.exists_cons_of_ne_nil (String.utf8EncodeChar_ne_nil (c := c))
      have hb : b.toNat ≠ 0x2e := ne_dot_of_mem_utf8 hc (by simp [hbytes])
      rw [if_pos hc, hbytes] at h
      simp only [List.flatMap_cons, percentByte, List.cons_append, List.nil_append,
        List.map_cons, List.cons.injEq] at h
      obtain ⟨hd, ht⟩ := h
      obtain ⟨t', rfl⟩ := hspelled hd.symm
      simp only [List.cons.injEq] at ht
      exact absurd (by simp [ht.1, ht.2.1]) (percentDigits_ne b.toNat b.toNat_lt hb)
    · rw [if_neg hc, List.singleton_append, List.map_cons, List.cons.injEq] at h
      exact ⟨c, rest, rfl, h.1, h.2⟩

/-- Dots that an encoded text spells are spelled by the text itself. -/
theorem toLower_eq_of_percentEncode {dots : List (List Char)}
    (hdots : ∀ dot ∈ dots, dot ∈ spelledDots) {cs : List Char}
    (h : (percentEncode encodedInPath cs).map Char.toLower = dots.flatten) :
    cs.map Char.toLower = dots.flatten := by
  induction dots generalizing cs with
  | nil =>
    cases cs with
    | nil => rfl
    | cons c rest =>
      have hnil : percentEncode encodedInPath (c :: rest) = [] := List.map_eq_nil_iff.1 h
      rw [percentEncode, List.flatMap_cons, List.append_eq_nil_iff] at hnil
      split at hnil
      · simp [percentByte, ← List.eq_nil_iff_forall_not_mem] at hnil
      · cases hnil.1
  | cons dot dots ih =>
    rw [List.forall_mem_cons] at hdots
    obtain ⟨hdot, hdots⟩ := hdots
    simp only [spelledDots, List.mem_cons, List.not_mem_nil, or_false] at hdot
    rcases hdot with rfl | rfl
    · obtain ⟨c, rest, rfl, hc, hrest⟩ := exists_cons_of_percentEncode h (by simp)
      simp [hc, ih hdots hrest]
    · obtain ⟨c, rest, rfl, hc, hrest⟩ := exists_cons_of_percentEncode h fun _ => ⟨_, rfl⟩
      obtain ⟨x, rest, rfl, hx, hrest⟩ := exists_cons_of_percentEncode hrest (by simp)
      obtain ⟨y, rest, rfl, hy, hrest⟩ := exists_cons_of_percentEncode hrest (by simp)
      simp [hc, hx, hy, ih hdots hrest]

/-- Encoding the characters of a segment makes no dots. -/
theorem isDoubleDot_percentEncode {segment : List Char} (h : isDoubleDot segment = false) :
    isDoubleDot (percentEncode encodedInPath segment) = false := by
  refine Bool.eq_false_iff.2 fun hup => Bool.eq_false_iff.1 h ?_
  obtain ⟨a, ha, b, hb, hab⟩ := isDoubleDot_iff.1 hup
  have hdots : ∀ dot ∈ [a, b], dot ∈ spelledDots := by simp [ha, hb]
  have hsegment := toLower_eq_of_percentEncode hdots (by simpa using hab)
  exact isDoubleDot_iff.2 ⟨a, ha, b, hb, by simpa using hsegment⟩

/-! ## Segments -/

/-- **No segment goes up.** -/
def Level (segments : List String) : Prop := ∀ s ∈ segments, isDoubleDot s.toList = false

theorem Level.append {segments more : List String} (h : Level segments) (hmore : Level more) :
    Level (segments ++ more) := by
  intro s hs
  rcases List.mem_append.1 hs with hs | hs
  · exact h s hs
  · exact hmore s hs

theorem Level.sublist {segments fewer : List String} (h : Level segments)
    (hfewer : fewer.Sublist segments) : Level fewer :=
  fun s hs => h s (hfewer.subset hs)

theorem level_nil : Level [] := by simp [Level]

/-- An empty segment does not go up. -/
theorem level_empty : Level [""] := by simp [Level]; decide

theorem Level.shortened {segments : List String} (h : Level segments) :
    Level (shortened segments) := by
  unfold Url.shortened
  split
  · split
    · exact h
    · exact h.sublist (List.dropLast_sublist _)
  · exact level_nil

/-- A segment that does not go up is kept as one that does not. -/
theorem isDoubleDot_keptSegment {kind : SchemeKind} {first : Bool} {segment : List Char}
    (h : isDoubleDot segment = false) :
    isDoubleDot (keptSegment kind first segment).toList = false := by
  unfold keptSegment
  split
  · rename_i c d
    split
    · -- a drive ends in a colon
      refine Bool.eq_false_iff.2 fun hup => ?_
      obtain ⟨a, ha, b, hb, hab⟩ := isDoubleDot_iff.1 hup
      simp only [spelledDots, List.mem_cons, List.not_mem_nil, or_false] at ha hb
      rcases ha with rfl | rfl <;> rcases hb with rfl | rfl <;> simp at hab
    · rw [String.toList_ofList]
      exact isDoubleDot_percentEncode h
  · rw [String.toList_ofList]
    exact isDoubleDot_percentEncode h

/-- **Segments put behind others** leave none that goes up. -/
theorem Level.appendSegments {kind : SchemeKind} {done : List String} (h : Level done)
    (rest : List (List Char)) : Level (appendSegments kind done rest) := by
  induction rest generalizing done with
  | nil => exact h
  | cons segment rest ih =>
    have hclose : ∀ segments, Level segments →
        Level (if rest.isEmpty then segments ++ [""] else segments) := by
      intro segments hsegments
      split
      · exact hsegments.append level_empty
      · exact hsegments
    unfold Url.appendSegments
    apply ih
    split
    · exact hclose _ h.shortened
    · split
      · exact hclose _ h
      · rename_i hup _
        have hkept : Level [keptSegment kind done.isEmpty segment] := by
          simp only [Level, List.mem_singleton, forall_eq]
          exact isDoubleDot_keptSegment (Bool.eq_false_iff.2 hup)
        exact h.append hkept

theorem Level.trimmedSegments {kind : SchemeKind} {segments : List String} (h : Level segments) :
    Level (trimmedSegments kind segments) := by
  unfold Url.trimmedSegments
  split
  · split
    · exact level_empty
    · exact h.sublist (List.dropWhile_sublist _)
  · exact h

/-! ## Addresses -/

variable {u base : Url} {cs : List Char}

/-- The path of an address has no segment that goes up. -/
def IsLevel (u : Url) : Prop := Level u.location.segmentList

/-- So if it has no segments at all. -/
theorem isLevel_of_nil (h : u.location = .segments []) : IsLevel u := by
  rw [IsLevel, h]
  exact level_nil

theorem IsLevel.withTail (h : IsLevel u) (cs : List Char) : IsLevel (u.withTail cs) := h

theorem isLevel_withPath {before : List String} (h : Level before) (cs : List Char) :
    IsLevel (u.withPath before cs) :=
  (h.appendSegments _).trimmedSegments

theorem IsLevel.withPathStart (h : IsLevel u) (cs : List Char) : IsLevel (u.withPathStart cs) := by
  unfold Url.withPathStart
  cases cs with
  | nil =>
    dsimp only
    split
    · exact isLevel_withPath level_nil _
    · exact h
  | cons c rest =>
    dsimp only
    split
    · exact isLevel_withPath level_nil _
    · split
      · exact h.withTail _
      · exact isLevel_withPath level_nil _

theorem isLevel_withAuthority {scheme : String} (h : withAuthority scheme cs = .ok u) :
    IsLevel u := by
  simp only [withAuthority, bind, Except.bind, pure, Except.pure, throw, throwThe,
    MonadExceptOf.throw] at h
  -- every way to succeed ends in reading the path
  repeat' split at h
  all_goals cases h
  all_goals exact (isLevel_of_nil rfl).withPathStart _

theorem isLevel_fileOn (host : Host) (cs : List Char) : IsLevel (fileOn host cs) := by
  unfold fileOn
  dsimp only
  split
  · exact (isLevel_of_nil rfl).withPathStart cs
  · exact (isLevel_of_nil rfl).withPathStart cs

theorem isLevel_fileHost (h : fileHost cs = .ok u) : IsLevel u := by
  unfold fileHost at h
  dsimp only at h
  split at h
  · cases h
    exact isLevel_fileOn _ _
  · obtain ⟨host, -, hu⟩ := Outcome.bind_eq_ok.1 h
    cases hu
    exact isLevel_fileOn _ _

theorem level_driveOf (hbase : IsLevel base) : Level (driveOf base) := by
  unfold driveOf
  unfold IsLevel at hbase
  split
  · rename_i s rest hs
    split
    · rw [hs] at hbase
      exact hbase.sublist (by simp)
    · exact level_nil
  · exact level_nil

theorem isLevel_fileFrom (hbase : IsLevel base) (h : fileFrom base cs = .ok u) : IsLevel u := by
  unfold fileFrom at h
  split at h
  · cases h
    exact hbase
  · cases h
    exact hbase
  · cases h
    exact hbase.withTail _
  · split at h
    · split at h
      · split at h
        · exact isLevel_fileHost h
        · split at h
          · cases h
            exact isLevel_fileOn _ _
          · cases h
            exact isLevel_withPath (level_driveOf hbase) _
      · cases h
        exact isLevel_withPath (level_driveOf hbase) _
    · split at h
      · cases h
        exact isLevel_fileOn _ _
      · cases h
        refine isLevel_withPath ?_ _
        split
        · exact hbase.shortened
        · exact hbase.sublist (List.dropLast_sublist _)

theorem isLevel_relativeTo (hbase : IsLevel base) (h : relativeTo base cs = .ok u) :
    IsLevel u := by
  unfold relativeTo at h
  split at h
  · cases h
    exact hbase
  · cases h
    exact hbase
  · cases h
    exact hbase.withTail _
  · split at h
    · split at h
      · split at h
        · exact isLevel_withAuthority h
        · split at h
          · exact isLevel_withAuthority h
          · cases h
            exact isLevel_withPath level_nil _
      · cases h
        exact isLevel_withPath level_nil _
    · cases h
      exact isLevel_withPath (hbase.sublist (List.dropLast_sublist _)) _

theorem isLevel_withoutScheme {base : Option Url} (hbase : ∀ b ∈ base, IsLevel b)
    (h : withoutScheme base cs = .ok u) : IsLevel u := by
  unfold withoutScheme at h
  cases base with
  | none => cases h
  | some base =>
    have hbase : IsLevel base := hbase base rfl
    dsimp only at h
    split at h
    · cases h
      exact hbase
    · cases h
    · split at h
      · exact isLevel_fileFrom hbase h
      · exact isLevel_relativeTo hbase h

theorem isLevel_behindScheme {base : Option Url} {scheme : String} (hbase : ∀ b ∈ base, IsLevel b)
    (h : behindScheme base scheme cs = .ok u) : IsLevel u := by
  have hsame : ∀ b ∈ base.filter (·.scheme == scheme), IsLevel b :=
    fun b hb => hbase b (Option.mem_filter_iff.1 hb).1
  unfold behindScheme at h
  dsimp only at h
  split at h
  · refine isLevel_fileFrom ?_ h
    cases hb : base.filter (·.scheme == scheme) with
    | none => exact level_empty
    | some b => exact hsame b hb
  · split at h
    · rename_i b hb
      split at h
      · exact isLevel_relativeTo (hsame b hb) h
      · exact isLevel_withAuthority h
    · exact isLevel_withAuthority h
  · split at h
    · exact isLevel_withAuthority h
    · cases h
      exact isLevel_withPath level_nil _
    · cases h
      exact level_nil

/-- **An address that is read** has no segment that goes up, if its base has
none. -/
theorem isLevel_of_parse {base : Option Url} {text : String} (hbase : ∀ b ∈ base, IsLevel b)
    (h : parse base text = .ok u) : IsLevel u := by
  unfold parse at h
  dsimp only at h
  split at h
  · exact isLevel_behindScheme hbase h
  · exact isLevel_withoutScheme hbase h

/-! ## Joined addresses -/

/-- The address that a text is joined to under a base, if there is a base
and both can be read. -/
def joined? (base : Option String) (text : String) : Option Url := do
  let b ← base
  let b ← (parse none b).toOption
  (parse (some b) text).toOption

/-- A text is taken as the address that it is joined to, or as it stands. -/
theorem resolved_eq (base : Option String) (text : String) :
    resolved base text = ((joined? base text).map Url.text).getD text := by
  cases base with
  | none => rfl
  | some b =>
    unfold resolved joined?
    dsimp only
    cases hb : parse none b with
    | error defect => simp [hb, Except.toOption]
    | ok base => cases hu : parse (some base) text <;> simp [hb, hu, Except.toOption]

/-- **A joined address** has no segment that goes up. -/
theorem isLevel_of_joined? {base : Option String} {text : String}
    (h : joined? base text = some u) : IsLevel u := by
  simp only [joined?, Option.bind_eq_bind, Option.bind_eq_some_iff,
    Outcome.toOption_eq_some] at h
  obtain ⟨b, -, base, hbase, hu⟩ := h
  have hlevel : IsLevel base := isLevel_of_parse (by simp) hbase
  exact isLevel_of_parse (by simpa using hlevel) hu

end Url

end PromptTemplate
