import PromptTemplate.Pattern.Basic
/-!
# PromptTemplate — what a pattern matches

The search lists the places where a match may end. `Pattern.Spans` says
what it looks for instead: which characters a pattern matches, between a
neighbour on either side, of which only word boundaries take notice. The
two agree (`mem_ends`), so a pattern occurs in a text exactly if the text
is some characters in front, a match and some characters behind
(`occurs_iff`).
-/

namespace PromptTemplate

namespace Pattern

/-- A pattern matches these characters, and all of them, between a neighbour
in front and one behind. -/
inductive Spans : Pattern → List Char → Option Char → Option Char → Prop
  | empty {l r : Option Char} : Spans .empty [] l r
  | boundary {l r : Option Char} (h : l.any Text.isWord ≠ r.any Text.isWord) :
      Spans .boundary [] l r
  | repeated {k : CharClass} {least : Nat} {greatest : Option Nat} {m : List Char}
      {l r : Option Char} (holds : ∀ c ∈ m, k.holds c = true) (atLeast : least ≤ m.length)
      (atMost : ∀ g ∈ greatest, m.length ≤ g) : Spans (.repeated k least greatest) m l r
  | sequence {p q : Pattern} {m n : List Char} {l r : Option Char}
      (first : Spans p m l (n.head?.or r)) (second : Spans q n (m.getLast?.or l) r) :
      Spans (.sequence p q) (m ++ n) l r
  | choiceFirst {p q : Pattern} {m : List Char} {l r : Option Char} (h : Spans p m l r) :
      Spans (.choice p q) m l r
  | choiceSecond {p q : Pattern} {m : List Char} {l r : Option Char} (h : Spans q m l r) :
      Spans (.choice p q) m l r

/-- The last of some characters with one in front of them. -/
theorem getLast?_cons_or (c : Char) (m : List Char) (before : Option Char) :
    (c :: m).getLast?.or before = m.getLast?.or (some c) := by
  cases m <;> simp [List.getLast?_cons]

/-- A place stands behind some characters that lie between it and another. -/
def Behind (m : List Char) (before : Option Char) (after : List Char) (x : Place) : Prop :=
  after = m ++ x.after ∧ x.before = m.getLast?.or before

theorem behind_nil {before : Option Char} {after : List Char} {x : Place} :
    Behind [] before after x ↔ x = ⟨before, after⟩ := by
  constructor
  · rintro ⟨hafter, hbefore⟩
    obtain ⟨xbefore, xafter⟩ := x
    simp_all
  · rintro rfl
    exact ⟨rfl, rfl⟩

theorem behind_cons {c : Char} {m after : List Char} {before : Option Char} {x : Place} :
    Behind (c :: m) before after x ↔ ∃ rest, after = c :: rest ∧ Behind m (some c) rest x := by
  unfold Behind
  rw [getLast?_cons_or]
  constructor
  · rintro ⟨rfl, hbefore⟩
    exact ⟨m ++ x.after, rfl, rfl, hbefore⟩
  · rintro ⟨_, rfl, rfl, hbefore⟩
    exact ⟨rfl, hbefore⟩

/-- What stands behind the second of two stretches stands behind both. -/
theorem behind_append {m n after : List Char} {before : Option Char} {x : Place} :
    Behind (m ++ n) before after x ↔
      ∃ y : Place, Behind m before after y ∧ Behind n y.before y.after x := by
  unfold Behind
  rw [List.getLast?_append, Option.or_assoc]
  constructor
  · rintro ⟨rfl, hbefore⟩
    exact ⟨⟨m.getLast?.or before, n ++ x.after⟩, ⟨by simp, rfl⟩, rfl, hbefore⟩
  · rintro ⟨y, ⟨rfl, hy⟩, hafter, hbefore⟩
    rw [hafter, hbefore, hy]
    exact ⟨by simp, rfl⟩

/-- A repetition may end behind characters of its class, as many as its
bounds allow. -/
theorem mem_runEnds {k : CharClass} {least : Nat} {greatest : Option Nat} {before : Option Char}
    {after : List Char} {x : Place} :
    x ∈ runEnds k least greatest before after ↔
      ∃ m, Behind m before after x ∧ (∀ c ∈ m, k.holds c = true) ∧ least ≤ m.length ∧
        ∀ g ∈ greatest, m.length ≤ g := by
  induction after generalizing least greatest before with
  | nil =>
    rw [runEnds]
    constructor
    · intro h
      split at h
      · rename_i hleast
        exact ⟨[], behind_nil.2 (List.mem_singleton.1 h), by simp, by simp [hleast], by simp⟩
      · cases h
    · rintro ⟨m, hm, -, hleast, -⟩
      have hnil : m = [] := (List.append_eq_nil_iff.1 hm.1.symm).1
      subst hnil
      rw [if_pos (Nat.le_zero.1 hleast), behind_nil.1 hm]
      exact List.mem_singleton.2 rfl
  | cons c r ih =>
    rw [runEnds, List.mem_append]
    constructor
    · rintro (h | h)
      · split at h
        · rename_i hleast
          exact ⟨[], behind_nil.2 (List.mem_singleton.1 h), by simp, by simp [hleast], by simp⟩
        · cases h
      · split at h
        · rename_i hmore
          rw [Bool.and_eq_true, bne_iff_ne] at hmore
          obtain ⟨m, hm, hholds, hleast, hgreatest⟩ := ih.1 h
          refine ⟨c :: m, behind_cons.2 ⟨r, rfl, hm⟩, ?_, ?_, ?_⟩
          · exact List.forall_mem_cons.2 ⟨hmore.2, hholds⟩
          · rw [List.length_cons]
            omega
          · intro g hg
            have hpos : g ≠ 0 := fun h0 => hmore.1 (h0 ▸ hg)
            have hle : m.length ≤ g - 1 := hgreatest (g - 1) (by rw [hg]; rfl)
            rw [List.length_cons]
            omega
        · cases h
    · rintro ⟨m, hm, hholds, hleast, hgreatest⟩
      cases m with
      | nil =>
        left
        rw [if_pos (Nat.le_zero.1 hleast), behind_nil.1 hm]
        exact List.mem_singleton.2 rfl
      | cons d m =>
        right
        obtain ⟨rest, hrest, hm⟩ := behind_cons.1 hm
        cases hrest
        obtain ⟨hc, hholds⟩ := List.forall_mem_cons.1 hholds
        have hroom : greatest ≠ some 0 := by
          intro h0
          have hle := hgreatest 0 h0
          simp at hle
        rw [if_pos (by simp [hc, hroom]), ih]
        refine ⟨m, hm, hholds, ?_, ?_⟩
        · rw [List.length_cons] at hleast
          omega
        · intro g hg
          obtain ⟨g', hg', rfl⟩ := Option.map_eq_some_iff.1 hg
          have hle := hgreatest g' hg'
          rw [List.length_cons] at hle
          omega

/-- **Where a match may end:** behind characters that the pattern matches. -/
theorem mem_ends {p : Pattern} {before : Option Char} {after : List Char} {x : Place} :
    x ∈ p.ends ⟨before, after⟩ ↔
      ∃ m, Behind m before after x ∧ p.Spans m before x.after.head? := by
  induction p generalizing before after x with
  | empty =>
    rw [ends, List.mem_singleton]
    constructor
    · intro h
      exact ⟨[], behind_nil.2 h, .empty⟩
    · rintro ⟨m, hm, ⟨⟩⟩
      exact behind_nil.1 hm
  | boundary =>
    rw [ends]
    constructor
    · intro h
      split at h
      · rename_i hbound
        have hx := List.mem_singleton.1 h
        subst hx
        exact ⟨[], behind_nil.2 rfl, .boundary (by simpa [Place.isBoundary] using hbound)⟩
      · cases h
    · rintro ⟨m, hm, hspan⟩
      cases hspan with
      | boundary hbound =>
        have hx := behind_nil.1 hm
        subst hx
        rw [if_pos (by simpa [Place.isBoundary] using hbound)]
        exact List.mem_singleton.2 rfl
  | repeated k least greatest =>
    rw [ends, mem_runEnds]
    constructor
    · rintro ⟨m, hm, hholds, hleast, hgreatest⟩
      exact ⟨m, hm, .repeated hholds hleast hgreatest⟩
    · rintro ⟨m, hm, hspan⟩
      cases hspan with
      | repeated hholds hleast hgreatest => exact ⟨m, hm, hholds, hleast, hgreatest⟩
  | sequence p q ihp ihq =>
    rw [ends, List.mem_flatMap]
    constructor
    · rintro ⟨⟨ybefore, yafter⟩, hy, hx⟩
      obtain ⟨m, hm, hp⟩ := ihp.1 hy
      obtain ⟨n, hn, hq⟩ := ihq.1 hx
      refine ⟨m ++ n, behind_append.2 ⟨_, hm, hn⟩, .sequence ?_ ?_⟩
      · rw [← List.head?_append, ← hn.1]
        exact hp
      · rw [← hm.2]
        exact hq
    · rintro ⟨m, hm, hspan⟩
      cases hspan with
      | @sequence _ _ m n _ _ hp hq =>
        obtain ⟨⟨ybefore, yafter⟩, hmy, hny⟩ := behind_append.1 hm
        refine ⟨⟨ybefore, yafter⟩, ihp.2 ⟨m, hmy, ?_⟩, ihq.2 ⟨n, hny, ?_⟩⟩
        · rw [hny.1, List.head?_append]
          exact hp
        · have hbefore : ybefore = m.getLast?.or before := hmy.2
          rw [hbefore]
          exact hq
  | choice p q ihp ihq =>
    rw [ends, List.mem_append, ihp, ihq]
    constructor
    · rintro (⟨m, hm, hspan⟩ | ⟨m, hm, hspan⟩)
      · exact ⟨m, hm, .choiceFirst hspan⟩
      · exact ⟨m, hm, .choiceSecond hspan⟩
    · rintro ⟨m, hm, hspan⟩
      cases hspan with
      | choiceFirst h => exact .inl ⟨m, hm, h⟩
      | choiceSecond h => exact .inr ⟨m, hm, h⟩

/-- A match begins at a place exactly if the pattern matches some characters
behind it. -/
theorem exists_ends_iff {p : Pattern} {before : Option Char} {after : List Char} :
    (p.ends ⟨before, after⟩).isEmpty = false ↔
      ∃ m b, after = m ++ b ∧ p.Spans m before b.head? := by
  rw [List.isEmpty_eq_false_iff_exists_mem]
  constructor
  · rintro ⟨x, hx⟩
    obtain ⟨m, hm, hspan⟩ := mem_ends.1 hx
    exact ⟨m, x.after, hm.1, hspan⟩
  · rintro ⟨m, b, hafter, hspan⟩
    exact ⟨⟨m.getLast?.or before, b⟩, mem_ends.2 ⟨m, ⟨hafter, rfl⟩, hspan⟩⟩

theorem occursFrom_iff {p : Pattern} {before : Option Char} {cs : List Char} :
    p.occursFrom before cs = true ↔
      ∃ a m b, cs = a ++ m ++ b ∧ p.Spans m (a.getLast?.or before) b.head? := by
  have hhere : ∀ {before : Option Char} {cs : List Char},
      (!(p.ends ⟨before, cs⟩).isEmpty) = true ↔
        ∃ m b, cs = m ++ b ∧ p.Spans m before b.head? := by
    intro before cs
    rw [Bool.not_eq_true', exists_ends_iff]
  induction cs generalizing before with
  | nil =>
    rw [occursFrom, hhere]
    constructor
    · rintro ⟨m, b, hcs, hspan⟩
      exact ⟨[], m, b, hcs, hspan⟩
    · rintro ⟨a, m, b, hcs, hspan⟩
      have ha : a = [] := by simp_all
      subst ha
      exact ⟨m, b, hcs, hspan⟩
  | cons c r ih =>
    rw [occursFrom, Bool.or_eq_true, hhere]
    constructor
    · rintro (⟨m, b, hcs, hspan⟩ | hrest)
      · exact ⟨[], m, b, hcs, hspan⟩
      · obtain ⟨a, m, b, rfl, hspan⟩ := ih.1 hrest
        refine ⟨c :: a, m, b, rfl, ?_⟩
        rw [getLast?_cons_or]
        exact hspan
    · rintro ⟨a, m, b, hcs, hspan⟩
      cases a with
      | nil => exact .inl ⟨m, b, hcs, hspan⟩
      | cons d a =>
        rw [getLast?_cons_or] at hspan
        simp only [List.cons_append, List.cons.injEq] at hcs
        obtain ⟨rfl, hr⟩ := hcs
        exact .inr (ih.2 ⟨a, m, b, hr, hspan⟩)

/-- **A pattern occurs in a text** exactly if it matches some stretch of it,
between the characters that stand around the stretch. -/
theorem occurs_iff {p : Pattern} {text : String} :
    p.occurs text = true ↔
      ∃ a m b, text.toList = a ++ m ++ b ∧ p.Spans m a.getLast? b.head? := by
  unfold occurs
  rw [occursFrom_iff]
  simp only [Option.or_none]

end Pattern

end PromptTemplate
