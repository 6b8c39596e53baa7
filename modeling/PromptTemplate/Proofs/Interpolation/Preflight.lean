import Mathlib.Data.List.Nodup
import PromptTemplate.Proofs.Interpolation.Dependence
import PromptTemplate.Proofs.Interpolation.Literal
import PromptTemplate.Proofs.Interpolation.Scan
/-!
# PromptTemplate — trying references, and substituting them

Before substitution the references of a content sequence are tried, and the
messages of the trial are to say whether substitution will succeed. They do
(`preflight_exact`): there is none exactly if every string resolves, and
then substitution fails in conditions only, at a value that has no literal.

The trial skips a path that has been tried. So a message about a path is
written once: `Trial.Exact` is the invariant that the messages differ from
each other, and that those about paths are the ones of the tried paths
without a value, one for each and in the order of the trial. The tried paths
are the listed references (`tried_texts`). No two paths share a message,
because a path cannot have the brace in it that ends it there
(`undefinedReference_injective`).
-/

namespace PromptTemplate

namespace Interpolation

open Element

variable {vars : Table Value}

/-! ## Messages -/

/-- A message begins as those about paths without a value do. -/
def saysUndefined (message : String) : Bool :=
  "undefined variable reference".toList.isPrefixOf message.toList

/-- The message about a path, if it has no value. -/
def undefinedMessage? (vars : Table Value) (path : String) : Option String :=
  match lookUp vars path with
  | .ok _ => none
  | .error why => some (undefinedReference path why)

/-- The characters of a message about a path. -/
theorem toList_undefinedReference (path : String) (why : Unresolved) :
    (undefinedReference path why).toList = "undefined variable reference '$\x7b".toList ++
      (path.toList ++ closing ++ ("': ".toList ++ why.message.toList)) := by
  have hpieces (front path behind message : String) : (front ++ path ++ behind ++ message).toList =
      front.toList ++ (path.toList ++ (behind.toList ++ message.toList)) := by
    simp only [String.toList_append, List.append_assoc]
  have hbehind : "\x7d': ".toList = closing ++ "': ".toList := by
    simp [closing]
  refine (hpieces _ _ _ _).trans ?_
  rw [hbehind, List.append_assoc, List.append_assoc]

theorem saysUndefined_undefinedReference (path : String) (why : Unresolved) :
    saysUndefined (undefinedReference path why) = true := by
  have hfront : "undefined variable reference".toList <+:
      "undefined variable reference '$\x7b".toList := by
    simp
  rw [saysUndefined, List.isPrefixOf_iff_prefix, toList_undefinedReference]
  exact hfront.trans (List.prefix_append _ _)

/-- The message of a malformed text begins otherwise. -/
theorem saysUndefined_message (u : Unresolved) : saysUndefined u.message = false := by
  have hpieces (front path behind reason more : String) :
      front.toList <+: (front ++ path ++ behind ++ reason ++ more).toList := by
    simp only [String.toList_append, List.append_assoc]
    exact List.prefix_append _ _
  have hfront : "cannot resolve variable '".toList <+: u.message.toList := hpieces _ _ _ _ _
  rw [saysUndefined, Bool.eq_false_iff, ne_eq, List.isPrefixOf_iff_prefix]
  intro hundefined
  rcases List.prefix_or_prefix_of_prefix hundefined hfront with h | h
  · simp at h
  · simp at h

/-- **A message tells its path.** -/
theorem undefinedReference_injective {path other : String} {why why' : Unresolved}
    (hpath : '\x7d' ∉ path.toList) (hother : '\x7d' ∉ other.toList)
    (h : undefinedReference path why = undefinedReference other why') : path = other := by
  have hchars := congrArg String.toList h
  rw [toList_undefinedReference, toList_undefinedReference] at hchars
  -- both are cut at the first brace behind the common front
  have hcut := congrArg (Text.splitOn? closing) (List.append_cancel_left hchars)
  rw [splitOn?_closing hpath, splitOn?_closing hother] at hcut
  injection hcut with hcut
  injection hcut with hsame
  exact String.toList_injective hsame

theorem undefinedMessage?_eq_some {path message : String} :
    undefinedMessage? vars path = some message ↔
      ∃ why, lookUp vars path = .error why ∧ undefinedReference path why = message := by
  unfold undefinedMessage?
  cases lookUp vars path <;> simp

/-! ## What has been tried -/

theorem Trial.tried_path (t : Trial) (path : String) :
    (t.path vars path).tried = pushNew t.tried path := by
  unfold Trial.path pushNew
  split
  · rfl
  · dsimp only
    split <;> rfl

theorem Trial.tried_text (t : Trial) (text : String) :
    (t.text vars text).tried = (textReferences text).foldl pushNew t.tried := by
  unfold Trial.text textReferences
  cases segments text with
  | error why => rfl
  | ok ss =>
    dsimp only
    induction Segment.paths ss generalizing t with
    | nil => rfl
    | cons path paths ih => rw [List.foldl_cons, List.foldl_cons, ih, Trial.tried_path]

/-- **The tried paths** are those in the texts, each where it is first
seen. -/
theorem Trial.tried_texts (t : Trial) (texts : List String) :
    (texts.foldl (Trial.text vars) t).tried =
      (texts.flatMap textReferences).foldl pushNew t.tried := by
  induction texts generalizing t with
  | nil => rfl
  | cons text texts ih =>
    rw [List.foldl_cons, ih, Trial.tried_text, List.flatMap_cons, List.foldl_append]

/-! ## What has been written -/

/-- **The invariant of the messages:** they differ from each other, and
those about paths are the ones of the tried paths. -/
structure Trial.Exact (vars : Table Value) (t : Trial) : Prop where
  unclosed : ∀ path ∈ t.tried, '\x7d' ∉ path.toList
  nodup : t.errors.Nodup
  undefined : t.errors.filter saysUndefined = t.tried.filterMap (undefinedMessage? vars)

theorem nodup_pushNew {list : List String} (h : list.Nodup) (item : String) :
    (pushNew list item).Nodup := by
  unfold pushNew
  split
  · exact h
  · rename_i hcontains
    rw [← List.concat_eq_append]
    exact List.Nodup.concat (by simpa using hcontains) h

/-- The message about a path that has not been tried is new. -/
theorem Trial.Exact.not_mem {t : Trial} {path : String} {why : Unresolved} (h : t.Exact vars)
    (hpath : '\x7d' ∉ path.toList) (hnew : path ∉ t.tried) :
    undefinedReference path why ∉ t.errors := by
  intro hmem
  have hundefined := List.mem_filter.2 ⟨hmem, saysUndefined_undefinedReference path why⟩
  rw [h.undefined, List.mem_filterMap] at hundefined
  obtain ⟨other, hother, hmessage⟩ := hundefined
  obtain ⟨why', -, hsame⟩ := undefinedMessage?_eq_some.1 hmessage
  have heq := undefinedReference_injective (h.unclosed other hother) hpath hsame
  exact hnew (heq ▸ hother)

/-- Trying a path keeps a trial exact. -/
theorem Trial.Exact.path {t : Trial} {path : String} (h : t.Exact vars)
    (hpath : '\x7d' ∉ path.toList) : (t.path vars path).Exact vars := by
  unfold Trial.path
  split
  · exact h
  · rename_i hcontains
    have hnew : path ∉ t.tried := by simpa using hcontains
    have hunclosed : ∀ other ∈ t.tried ++ [path], '\x7d' ∉ other.toList :=
      List.forall_mem_append.2 ⟨h.unclosed, by simpa using hpath⟩
    dsimp only
    split
    · rename_i v hv
      refine ⟨hunclosed, h.nodup, ?_⟩
      rw [List.filterMap_append, h.undefined]
      simp [undefinedMessage?, hv]
    · rename_i why hwhy
      refine ⟨hunclosed, ?_, ?_⟩
      · rw [← List.concat_eq_append]
        exact List.Nodup.concat (h.not_mem hpath hnew) h.nodup
      · rw [List.filterMap_append, List.filter_append, h.undefined]
        simp [undefinedMessage?, hwhy, saysUndefined_undefinedReference]

theorem unclosed_of_mem_textReferences {text path : String} (h : path ∈ textReferences text) :
    '\x7d' ∉ path.toList := by
  obtain ⟨ss, hss, hmem⟩ := mem_textReferences.1 h
  exact unclosed_of_segments hss hmem

/-- Trying a text keeps a trial exact. -/
theorem Trial.Exact.text {t : Trial} {text : String} (h : t.Exact vars) :
    (t.text vars text).Exact vars := by
  unfold Trial.text
  split
  · rename_i why _
    -- a malformed text has no paths, and its message is not about one
    have hother := saysUndefined_message why.toUnresolved
    refine ⟨h.unclosed, nodup_pushNew h.nodup _, ?_⟩
    dsimp only
    rw [← h.undefined, pushNew]
    split
    · rfl
    · simp [List.filter_append, hother]
  · rename_i ss hss
    have hunclosed : ∀ path ∈ Segment.paths ss, '\x7d' ∉ path.toList := by
      intro path hpath
      refine unclosed_of_mem_textReferences (?_ : path ∈ textReferences text)
      rwa [textReferences, hss]
    generalize Segment.paths ss = paths at hunclosed
    induction paths generalizing t with
    | nil => exact h
    | cons path rest ih =>
      rw [List.forall_mem_cons] at hunclosed
      exact ih (h.path hunclosed.1) hunclosed.2

theorem Trial.Exact.texts {t : Trial} {texts : List String} (h : t.Exact vars) :
    (texts.foldl (Trial.text vars) t).Exact vars := by
  induction texts generalizing t with
  | nil => exact h
  | cons text texts ih => exact ih h.text

/-! ## What substitution needs -/

/-- Every string in which references are replaced, at every depth, has
segments, and all its references lead to values. -/
def AllResolve (vars : Table Value) (es : List Element) : Prop :=
  ∀ x ∈ placedAll 0 es, ∀ s, Interpolates x.2 s → Resolves vars s

theorem allResolve_iff {es : List Element} :
    AllResolve vars es ↔ ∀ s ∈ strings es, Resolves vars s := by
  simp only [AllResolve, strings_eq es 0, List.mem_flatMap, mem_ownStrings]
  constructor
  · rintro h s ⟨x, hx, hs⟩
    exact h x hx s hs
  · exact fun h x hx s hs => h s ⟨x, hx, hs⟩

/-- A path leads to a value that can stand in a condition: there is no object
in it, and no control but those with a short escape. -/
def Insertable (vars : Table Value) (path : String) : Prop :=
  ∃ v, lookUp vars path = .ok v ∧ ¬ ContainsObject v ∧
    ∀ s, v.Holds s → ∀ c ∈ s.toList, c.toNat < 0x20 → c ∈ ['\x08', '\t', '\n', '\x0c', '\r']

/-- The paths in the condition of an element. -/
def conditionReferences : Element → List String
  | .conditional _ condition _ _ => textReferences condition
  | _ => []

theorem hasLiteral_iff {v : Value} :
    HasLiteral v ↔ ¬ ContainsObject v ∧
      ∀ s, v.Holds s → ∀ c ∈ s.toList, c.toNat < 0x20 →
        c ∈ ['\x08', '\t', '\n', '\x0c', '\r'] := by
  simp only [← writable_iff, ← @exists_conditionLiteral_iff "" v, conditionLiteral_eq_ok,
    exists_and_left, exists_eq, and_true]

/-- A condition whose references lead to values has only insertable ones
exactly if the values have literals. -/
theorem hasLiterals_iff {e : Element} (h : ∀ s, Interpolates e s → Resolves vars s) :
    HasLiterals vars e ↔ ∀ path ∈ conditionReferences e, Insertable vars path := by
  cases e with
  | text name s => simp [HasLiterals, conditionReferences]
  | placeholder name type config => simp [HasLiterals, conditionReferences]
  | conditional name condition content otherwise =>
    obtain ⟨ss, hss, hvalues⟩ := h condition rfl
    refine forall₂_congr fun path hpath => ?_
    have hmem : path ∈ Segment.paths ss := by
      rwa [textReferences, hss] at hpath
    obtain ⟨v, hv⟩ := hvalues path hmem
    simp [Insertable, hv, hasLiteral_iff]

/-- **Trying the references tells whether they can be substituted.** There is
no message exactly if every string resolves. Substitution succeeds exactly if
that holds and every reference in a condition leads to a value that can stand
there. The messages differ from each other; and those about paths without a
value are, in order, one for each such path among the listed ones, which are
the paths in the well-formed strings, each listed once. -/
theorem preflight_exact (vars : Table Value) (es : List Element) :
    (referenceErrors vars es = [] ↔ AllResolve vars es) ∧
    ((∃ es', substituteElements vars es = .ok es') ↔ AllResolve vars es ∧
      ∀ x ∈ placedAll 0 es, ∀ path ∈ conditionReferences x.2, Insertable vars path) ∧
    (referenceErrors vars es).Nodup ∧
    (referenceErrors vars es).filter saysUndefined =
      (references es).filterMap (undefinedMessage? vars) ∧
    (references es).Nodup ∧
    ∀ path, path ∈ references es ↔ ∃ x ∈ placedAll 0 es, ∃ s, Interpolates x.2 s ∧
      ∃ ss, segments s = .ok ss ∧ .reference path ∈ ss := by
  have hstart : (Trial.mk [] []).Exact vars := ⟨by simp, List.nodup_nil, rfl⟩
  have hexact := @Trial.Exact.texts vars _ (strings es) hstart
  have hlist := firstSeen_references es
  refine ⟨?_, ?_, hexact.nodup, ?_, hlist.nodup, fun path => ?_⟩
  · rw [allResolve_iff]
    exact ⟨resolves_of_referenceErrors, referenceErrors_of_resolves⟩
  · have hliterals (hall : AllResolve vars es) : (∃ es', substituteElements vars es = .ok es') ↔
        ∀ x ∈ placedAll 0 es, ∀ path ∈ conditionReferences x.2, Insertable vars path := by
      rw [exists_substituteElements_iff (allResolve_iff.1 hall) 0]
      exact forall₂_congr fun x hx => hasLiterals_iff (hall x hx)
    constructor
    · rintro ⟨es', hes⟩
      have hall : AllResolve vars es := allResolve_iff.2 (resolves_of_substituteElements hes)
      exact ⟨hall, (hliterals hall).1 ⟨es', hes⟩⟩
    · rintro ⟨hall, hinsertable⟩
      exact (hliterals hall).2 hinsertable
  · rw [referenceErrors, hexact.undefined, Trial.tried_texts]
    rfl
  · rw [hlist.mem, mem_occurrences]

end Interpolation

end PromptTemplate
