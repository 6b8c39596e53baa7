import PromptTemplate.Proofs.Condition.Lexes
/-!
# PromptTemplate — where tokens stand in a text

A text that splits into tokens is these tokens, as they are written, and
blanks around them: `LaidOut`. What the splitting itself does is said once,
by `Splits`, which has besides for every token that it is taken off in front
of what follows it, and `lexemesFrom_eq_ok_iff` that this is all of it.

Since a token sees little of the text behind it (`next_again`), it stays the
same token at the end of a text and in front of blanks. So each of them can
be read alone, and blanks outside of tokens can be replaced by others:
`tiling_of_lexemes` has all of this together.
-/

namespace PromptTemplate

namespace Text

/-- Nothing but blanks. -/
def Blanks (cs : List Char) : Prop := ∀ c ∈ cs, isBlank c = true

theorem blanks_nil : Blanks [] := nofun

theorem blanks_append {cs ds : List Char} : Blanks (cs ++ ds) ↔ Blanks cs ∧ Blanks ds :=
  List.forall_mem_append

/-! ## Bytes -/

@[simp] theorem byteLength_nil : byteLength [] = 0 := rfl

@[simp] theorem byteLength_cons (c : Char) (cs : List Char) :
    byteLength (c :: cs) = c.utf8Size + byteLength cs := rfl

@[simp] theorem byteLength_append (cs ds : List Char) :
    byteLength (cs ++ ds) = byteLength cs + byteLength ds := by
  induction cs with
  | nil => simp
  | cons c cs ih => simp [ih, Nat.add_assoc]

/-- A text of no bytes is empty. -/
theorem byteLength_pos {cs : List Char} (h : cs ≠ []) : 0 < byteLength cs := by
  obtain ⟨c, r, rfl⟩ := List.exists_cons_of_ne_nil h
  have hc := c.utf8Size_pos
  rw [byteLength_cons]
  omega

/-- The bytes of a string are those of its characters. -/
theorem utf8ByteSize_ofList (cs : List Char) : (String.ofList cs).utf8ByteSize = byteLength cs := by
  induction cs with
  | nil => rfl
  | cons c cs ih =>
    rw [String.ofList_cons, String.utf8ByteSize_append, String.utf8ByteSize_singleton, ih,
      byteLength_cons]

/-- Of two cuts of a text, the one with fewer bytes in front comes first. -/
theorem exists_of_byteLength_le {a b c d : List Char} (h : a ++ b = c ++ d)
    (hle : byteLength a ≤ byteLength c) : ∃ e, c = a ++ e ∧ b = e ++ d := by
  obtain ⟨e, hc, hb⟩ | ⟨e, ha, hd⟩ := List.append_eq_append_iff.1 h
  · exact ⟨e, hc, hb⟩
  · have he : e = [] := by
      by_contra hne
      have hpos := byteLength_pos hne
      rw [ha, byteLength_append] at hle
      omega
    subst he
    exact ⟨[], by simpa using ha.symm, by simpa using hd.symm⟩

end Text

namespace Condition

open Text (Blanks byteLength)

variable {position : Nat} {cs rest gap : List Char} {l : Lexeme} {ls : List Lexeme}

/-! ## Lexemes and blanks -/

/-- The byte behind a lexeme. -/
def Lexeme.stop (l : Lexeme) : Nat := l.offset + byteLength l.source

/-- **A text is laid out as lexemes,** from a byte on: it is what they are
written as, each at its offset, and nothing but blanks in front of them,
between them and behind them. -/
inductive LaidOut : Nat → List Char → List Lexeme → Prop
  | behind {position : Nat} {gap : List Char} : Blanks gap → LaidOut position gap []
  | lexeme {position : Nat} {gap rest : List Char} {l : Lexeme} {ls : List Lexeme} :
      Blanks gap → l.offset = position + byteLength gap → LaidOut l.stop rest ls →
      LaidOut position (gap ++ (l.source ++ rest)) (l :: ls)

/-- A lexeme is taken off a text, in front of the rest. -/
structure Lexeme.TakenBefore (l : Lexeme) (rest : List Char) : Prop where
  next : next l.offset (l.source ++ rest) = .ok ⟨l.token, l.source, rest⟩
  not_blank : ∀ c ∈ l.source.head?, Text.isBlank c = false

/-- **A text splits into lexemes,** from a byte on: they are laid out in it,
and each is taken off in front of what follows it. -/
inductive Splits : Nat → List Char → List Lexeme → Prop
  | behind {position : Nat} {gap : List Char} : Blanks gap → Splits position gap []
  | lexeme {position : Nat} {gap rest : List Char} {l : Lexeme} {ls : List Lexeme} :
      Blanks gap → l.offset = position + byteLength gap → l.TakenBefore rest →
      Splits l.stop rest ls → Splits position (gap ++ (l.source ++ rest)) (l :: ls)

theorem Lexeme.TakenBefore.source_ne_nil (h : l.TakenBefore rest) : l.source ≠ [] :=
  (next_eq h.next).2

/-- A lexeme is also taken off in front of a text that resumes what followed
it, wherever that is. -/
theorem Lexeme.TakenBefore.again {new : List Char} (h : l.TakenBefore rest)
    (hnew : Resumes new rest) (offset : Nat) :
    Lexeme.TakenBefore ⟨l.token, l.source, offset⟩ new :=
  ⟨next_again h.next hnew offset, h.not_blank⟩

/-- One blank more in front makes no difference. -/
theorem Splits.blank {c : Char} (hc : Text.isBlank c = true)
    (h : Splits (position + c.utf8Size) cs ls) : Splits position (c :: cs) ls := by
  cases h with
  | behind hgap => exact .behind (List.forall_mem_cons.2 ⟨hc, hgap⟩)
  | @lexeme _ gap rest l ls hgap hoffset htaken hrest =>
    rw [← List.cons_append]
    refine .lexeme (List.forall_mem_cons.2 ⟨hc, hgap⟩) ?_ htaken hrest
    rw [hoffset, Text.byteLength_cons, Nat.add_assoc]

theorem lexemesFrom_blanks (hgap : Blanks gap) (position : Nat) (rest : List Char) :
    lexemesFrom position (gap ++ rest) = lexemesFrom (position + byteLength gap) rest := by
  induction gap generalizing position with
  | nil => rfl
  | cons c gap ih =>
    obtain ⟨hc, hgap⟩ := List.forall_mem_cons.1 hgap
    rw [List.cons_append, Alike.lexemesFrom_of_blank position hc, ih hgap, Text.byteLength_cons,
      Nat.add_assoc]

/-- **What the splitting does,** all of it. -/
theorem lexemesFrom_eq_ok_iff : lexemesFrom position cs = .ok ls ↔ Splits position cs ls := by
  constructor
  · intro h
    fun_induction lexemesFrom position cs generalizing ls with
    | case1 =>
      cases h
      exact .behind Text.blanks_nil
    | case2 position c r hblank ih => exact (ih h).blank hblank
    | case3 => cases h
    | case4 position c r hblank t hnext ih =>
      obtain ⟨ls', hls', rfl⟩ := Outcome.map_eq_ok.1 h
      obtain ⟨hfront, hne⟩ := next_eq hnext
      have hhead : ∀ x ∈ t.source.head?, Text.isBlank x = false := by
        obtain ⟨x, source, hsource⟩ := List.exists_cons_of_ne_nil hne
        rw [hsource] at hfront ⊢
        cases hfront
        simpa using hblank
      rw [hfront] at hnext ⊢
      have htaken : Lexeme.TakenBefore ⟨t.token, t.source, position⟩ t.rest := ⟨hnext, hhead⟩
      exact @Splits.lexeme position [] _ _ _ Text.blanks_nil rfl htaken (ih hls')
  · intro h
    induction h with
    | @behind position gap hgap =>
      have hblanks := lexemesFrom_blanks hgap position []
      rw [List.append_nil, lexemesFrom] at hblanks
      exact hblanks
    | @lexeme position gap rest l ls hgap hoffset htaken _ ih =>
      obtain ⟨c, source, hsource⟩ := List.exists_cons_of_ne_nil htaken.source_ne_nil
      have hblank : ¬ Text.isBlank c = true := by
        simpa using htaken.not_blank c (by simp [hsource])
      have hnext := htaken.next
      rw [hsource, List.cons_append] at hnext
      rw [lexemesFrom_blanks hgap, ← hoffset, hsource, List.cons_append,
        Alike.lexemesFrom_of_next hblank hnext, ← hsource, ← Lexeme.stop, ih]
      rfl

/-! ## Offsets -/

theorem Splits.laidOut (h : Splits position cs ls) : LaidOut position cs ls := by
  induction h with
  | behind hgap => exact .behind hgap
  | lexeme hgap hoffset _ _ ih => exact .lexeme hgap hoffset ih

/-- Lexemes come one behind the other, -/
theorem LaidOut.pairwise (h : LaidOut position cs ls) :
    (∀ l ∈ ls, position ≤ l.offset) ∧ ls.Pairwise fun l m => l.stop ≤ m.offset := by
  induction h with
  | behind => exact ⟨List.forall_mem_nil _, .nil⟩
  | @lexeme position gap rest l ls _ hoffset _ ih =>
    obtain ⟨hlower, hpairwise⟩ := ih
    refine ⟨List.forall_mem_cons.2 ⟨by omega, fun m hm => ?_⟩, .cons hlower hpairwise⟩
    have hm := hlower m hm
    rw [Lexeme.stop] at hm
    omega

/-- and each stands in the text, behind as many bytes as its offset says. -/
theorem LaidOut.exists_front (h : LaidOut position cs ls) (hl : l ∈ ls) :
    ∃ front behind, cs = front ++ (l.source ++ behind) ∧
      l.offset = position + byteLength front := by
  induction h with
  | behind => cases hl
  | @lexeme position gap rest m ls _ hoffset _ ih =>
    rcases List.mem_cons.1 hl with rfl | hl
    · exact ⟨gap, rest, rfl, hoffset⟩
    · obtain ⟨front, behind, rfl, hfront⟩ := ih hl
      refine ⟨gap ++ (m.source ++ front), behind, by simp only [List.append_assoc], ?_⟩
      rw [hfront, Lexeme.stop, hoffset]
      simp only [Text.byteLength_append, Nat.add_assoc]

/-- So it begins at a boundary between characters. -/
theorem LaidOut.isValid {s : String} (h : LaidOut 0 s.toList ls) (hl : l ∈ ls) :
    (String.Pos.Raw.mk l.offset).IsValid s := by
  obtain ⟨front, behind, hs, hoffset⟩ := h.exists_front hl
  refine String.Pos.Raw.isValid_iff_exists_append.2
    ⟨String.ofList front, String.ofList (l.source ++ behind), ?_, ?_⟩
  · rw [← String.ofList_append, ← hs, String.ofList_toList]
  · rw [hoffset, Nat.zero_add, ← Text.utf8ByteSize_ofList]
    rfl

/-! ## Lexemes by themselves -/

theorem Splits.takenBefore (h : Splits position cs ls) (hl : l ∈ ls) :
    ∃ rest, l.TakenBefore rest := by
  induction h with
  | behind => cases hl
  | lexeme _ _ htaken _ ih =>
    rcases List.mem_cons.1 hl with rfl | hl
    · exact ⟨_, htaken⟩
    · exact ih hl

/-- **A lexeme alone** is a text with just its token. -/
theorem Lexeme.TakenBefore.lexemes (h : l.TakenBefore rest) :
    lexemes (String.ofList l.source) = .ok [⟨l.token, l.source, 0⟩] := by
  have hsplits : Splits 0 ([] ++ (l.source ++ [])) [⟨l.token, l.source, 0⟩] :=
    .lexeme Text.blanks_nil rfl (h.again (.nil rest) 0) (.behind Text.blanks_nil)
  rw [List.nil_append, List.append_nil] at hsplits
  rw [Condition.lexemes, String.toList_ofList, lexemesFrom_eq_ok_iff]
  exact hsplits

/-! ## Other blanks -/

/-- No token goes on with a blank. -/
theorem isJoining_of_isBlank {c : Char} (h : Text.isBlank c = true) : isJoining c = false := by
  refine Bool.eq_false_iff.2 fun hjoining => ?_
  simp only [isJoining, Bool.or_eq_true, beq_iff_eq] at hjoining
  rcases hjoining with (((hname | rfl) | rfl) | rfl) | rfl
  · exact not_isBlank_of_isNamePart hname h
  all_goals exact absurd h (by decide)

/-- So blanks resume everything. -/
theorem Resumes.of_blanks {run : List Char} (hrun : Blanks run) (hne : run ≠ [])
    (new old : List Char) : Resumes (run ++ new) old := by
  obtain ⟨c, r, rfl⟩ := List.exists_cons_of_ne_nil hne
  exact .of_not_isJoining (isJoining_of_isBlank (hrun c List.mem_cons_self)) _ _

/-- Blanks in front of a text are passed over. -/
theorem lexes_blanks (hgap : Blanks gap) (rest : List Char) : Lexes (gap ++ rest) [] rest := by
  intro position
  refine ⟨[], position + byteLength gap, rfl, ?_⟩
  rw [lexemesFrom_blanks hgap]
  cases lexemesFrom (position + byteLength gap) rest <;> rfl

/-- A lexeme is taken off in front of every text that resumes what followed
it. -/
theorem Lexeme.TakenBefore.lexes {new : List Char} (h : l.TakenBefore rest)
    (hnew : Resumes new rest) : Lexes (l.source ++ new) [l.token] new := by
  obtain ⟨c, source, hsource⟩ := List.exists_cons_of_ne_nil h.source_ne_nil
  have hblank : ¬ Text.isBlank c = true := by simpa using h.not_blank c (by simp [hsource])
  have hnext := next_again h.next hnew
  rw [hsource, List.cons_append] at hnext ⊢
  exact lexes_of_next hblank fun position => ⟨_, hnext position⟩

/-- A text splits into the same tokens wherever it stands. -/
theorem Splits.lexes (h : Splits position cs ls) : Lexes cs (tokens ls) [] := by
  induction h with
  | @behind position gap hgap =>
    have hlexes := lexes_blanks hgap []
    rwa [List.append_nil] at hlexes
  | lexeme hgap _ htaken _ ih =>
    exact (lexes_blanks hgap _).append ((htaken.lexes (.refl _)).append ih)

/-- A stretch of a text, given by its bytes, lies outside of lexemes: each of
them ends in front of it or begins behind it. -/
def LiesOutside (ls : List Lexeme) (start stop : Nat) : Prop :=
  ∀ l ∈ ls, l.stop ≤ start ∨ stop ≤ l.offset

/-- **Blanks outside of lexemes** can be replaced by other ones. The
induction goes over the lexemes in front of them, and each of these is taken
off again: what follows it is the same up to the new blanks. -/
theorem Splits.respaced {front run run' behind : List Char} (h : Splits position cs ls)
    (hcs : cs = front ++ (run ++ behind)) (hrun' : Blanks run') (hne : run' ≠ [])
    (houtside : LiesOutside ls (position + byteLength front)
      (position + byteLength (front ++ run))) :
    Lexes (front ++ (run' ++ behind)) (tokens ls) [] := by
  induction h generalizing front with
  | behind hgap =>
    subst hcs
    simp only [Text.blanks_append] at hgap
    have hnew : Blanks (front ++ (run' ++ behind)) := by
      simp only [Text.blanks_append]
      exact ⟨hgap.1, hrun', hgap.2.2⟩
    have hlexes := lexes_blanks hnew []
    rwa [List.append_nil] at hlexes
  | @lexeme position gap rest l ls hgap hoffset htaken hrest ih =>
    obtain ⟨hl, hls⟩ := List.forall_mem_cons.1 houtside
    rcases hl with hin_front | hin_behind
    · -- the lexeme is part of the front
      have hle : byteLength (gap ++ l.source) ≤ byteLength front := by
        rw [Lexeme.stop, hoffset] at hin_front
        rw [Text.byteLength_append]
        omega
      rw [← List.append_assoc] at hcs
      obtain ⟨front', rfl, rfl⟩ := Text.exists_of_byteLength_le hcs hle
      have houtside' : LiesOutside ls (l.stop + byteLength front')
          (l.stop + byteLength (front' ++ run)) := by
        simpa only [LiesOutside, Lexeme.stop, hoffset, Text.byteLength_append, Nat.add_assoc]
          using hls
      have hresumes : Resumes (front' ++ (run' ++ behind)) (front' ++ (run ++ behind)) :=
        (Resumes.of_blanks hrun' hne behind _).append_left front'
      simp only [List.append_assoc]
      exact (lexes_blanks hgap _).append ((htaken.lexes hresumes).append (ih rfl houtside'))
    · -- the blanks are part of the gap in front of the lexeme
      have hle : byteLength (front ++ run) ≤ byteLength gap := by
        rw [hoffset] at hin_behind
        omega
      rw [← List.append_assoc front] at hcs
      obtain ⟨gap', rfl, rfl⟩ := Text.exists_of_byteLength_le hcs.symm hle
      simp only [Text.blanks_append] at hgap
      have hnew : Blanks (front ++ (run' ++ gap')) := by
        simp only [Text.blanks_append]
        exact ⟨hgap.1.1, hrun', hgap.2⟩
      have hlexes := (lexes_blanks hnew _).append ((htaken.lexes (.refl rest)).append hrest.lexes)
      simp only [List.append_assoc] at hlexes
      exact hlexes

/-! ## The tiling of a text -/

/-- **A text is tiled by lexemes** if they and blanks are all there is in it,
and the blanks are for keeping them apart only. -/
structure Tiling (s : String) (ls : List Lexeme) : Prop where
  /-- The offsets increase, -/
  increasing : ls.Pairwise fun l m => l.offset < m.offset
  /-- and each is the byte of a boundary between characters. -/
  boundary : ∀ l ∈ ls, (String.Pos.Raw.mk l.offset).IsValid s
  /-- The text is what the lexemes are written as, each at its offset, with
  blanks in front of them, between them and behind them. -/
  laidOut : LaidOut 0 s.toList ls
  /-- What a lexeme is written as is by itself a text with just its token. -/
  alone : ∀ l ∈ ls, lexemes (String.ofList l.source) = .ok [⟨l.token, l.source, 0⟩]
  /-- The blanks between two lexemes, or whatever else lies outside of them,
  can be any other run of blanks, and the tokens are the same. -/
  respaced : ∀ front run run' behind, s.toList = front ++ (run ++ behind) →
    LiesOutside ls (byteLength front) (byteLength (front ++ run)) → Blanks run' → run' ≠ [] →
    ∃ ms, lexemes (String.ofList (front ++ (run' ++ behind))) = .ok ms ∧ tokens ms = tokens ls

/-- **Splitting a text into tokens** drops and invents nothing. -/
theorem tiling_of_lexemes {s : String} {ls : List Lexeme} (h : lexemes s = .ok ls) :
    Tiling s ls := by
  have hsplits : Splits 0 s.toList ls := lexemesFrom_eq_ok_iff.1 h
  have hlaidOut := hsplits.laidOut
  refine ⟨?_, fun l hl => hlaidOut.isValid hl, hlaidOut, fun l hl => ?_, ?_⟩
  · refine hlaidOut.pairwise.2.imp_of_mem fun {l m} hl _ hlm => ?_
    obtain ⟨rest, htaken⟩ := hsplits.takenBefore hl
    have hpos := Text.byteLength_pos htaken.source_ne_nil
    rw [Lexeme.stop] at hlm
    omega
  · obtain ⟨rest, htaken⟩ := hsplits.takenBefore hl
    exact htaken.lexemes
  · intro front run run' behind hs houtside hrun' hne
    rw [← Nat.zero_add (byteLength front), ← Nat.zero_add (byteLength (front ++ run))] at houtside
    exact (hsplits.respaced hs hrun' hne houtside).lexemes

/-- A condition with characters of several bytes, in a string and between
tokens. -/
def wideCondition : String :=
  String.ofList ['\'', 'ë', '\'', '\u3000', 'i', 'n', ' ', 'a', '.', 'b']

/-- Its lexemes. -/
def wideLexemes : List Lexeme :=
  [⟨.text (String.ofList ['ë']), ['\'', 'ë', '\''], 0⟩, ⟨.within, ['i', 'n'], 7⟩,
    ⟨.name (String.ofList ['a']), ['a'], 10⟩, ⟨.dot, ['.'], 11⟩,
    ⟨.name (String.ofList ['b']), ['b'], 12⟩]

theorem lexemes_wideCondition : lexemes wideCondition = .ok wideLexemes := by
  have htext : ∀ rest, next 0 ('\'' :: 'ë' :: '\'' :: rest) =
      .ok ⟨.text (String.ofList ['ë']), ['\'', 'ë', '\''], rest⟩ := by
    intro rest
    rw [next, if_neg (by decide), if_pos (by decide),
      stringBody_of_char _ _ (by decide) (by decide), stringBody_of_quote]
    rfl
  have hin : ∀ position, next position ['i', 'n', ' ', 'a', '.', 'b'] =
      .ok ⟨.within, ['i', 'n'], [' ', 'a', '.', 'b']⟩ := fun _ => rfl
  have hfirst : ∀ position, next position ['a', '.', 'b'] =
      .ok ⟨.name (String.ofList ['a']), ['a'], ['.', 'b']⟩ := fun _ => rfl
  have hdot : ∀ position, next position ['.', 'b'] = .ok ⟨.dot, ['.'], ['b']⟩ := fun _ => rfl
  have hlast : ∀ position, next position ['b'] =
      .ok ⟨.name (String.ofList ['b']), ['b'], []⟩ := fun _ => rfl
  rw [lexemes, wideCondition, String.toList_ofList,
    Alike.lexemesFrom_of_next (by decide) (htext _), Alike.lexemesFrom_of_blank _ (by decide),
    Alike.lexemesFrom_of_next (by decide) (hin _), Alike.lexemesFrom_of_blank _ (by decide),
    Alike.lexemesFrom_of_next (by decide) (hfirst _),
    Alike.lexemesFrom_of_next (by decide) (hdot _),
    Alike.lexemesFrom_of_next (by decide) (hlast _), lexemesFrom]
  rfl

/-- The wide blank of the condition may as well be a tab and a line end. -/
theorem tiling_wideCondition :
    lexemes wideCondition = .ok wideLexemes ∧ Tiling wideCondition wideLexemes ∧
      ∃ ms, lexemes (String.ofList ['\'', 'ë', '\'', '\t', '\n', 'i', 'n', ' ', 'a', '.', 'b']) =
        .ok ms ∧ tokens ms = tokens wideLexemes := by
  have htiling : Tiling wideCondition wideLexemes := tiling_of_lexemes lexemes_wideCondition
  refine ⟨lexemes_wideCondition, htiling, ?_⟩
  have houtside : LiesOutside wideLexemes 4 7 := by
    unfold LiesOutside wideLexemes
    decide
  exact htiling.respaced ['\'', 'ë', '\''] ['\u3000'] ['\t', '\n'] ['i', 'n', ' ', 'a', '.', 'b']
    String.toList_ofList houtside (List.all_eq_true.1 (by decide)) (by decide)

end Condition

end PromptTemplate
