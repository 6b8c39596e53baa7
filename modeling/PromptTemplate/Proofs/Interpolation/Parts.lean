import PromptTemplate.Proofs.Interpolation.Fill
import PromptTemplate.Proofs.Table
import PromptTemplate.Proofs.Value
/-!
# PromptTemplate — the parts of a filled text

A filled text is a row of parts: the stretches of the template between its
references, and what stands for the references. A string stands there as a
whole; an array by the texts of its items, with separators between two,
and one that is too long is cut. `textParts` lists the parts of a filled
text, and tells those that are there as a whole from separators, cut
texts and the mark of a cut. `charsOf_textParts` says that the parts are
the text, and `origin_of_mem_textParts` where a whole part comes from: it
is a stretch of the template, a string of the variables, or the wording of
a value that is neither string nor array.
-/

namespace PromptTemplate

namespace Interpolation

/-- A part of a filled text. -/
structure Part where
  chars : List Char
  /-- Whether the part is there as it was before, and not to join others or
  cut. -/
  whole : Bool

/-- A part that is there as a whole. -/
def Part.ofString (s : String) : Part := ⟨s.toList, true⟩

/-- A part that joins others, or is cut. -/
def Part.joint (cs : List Char) : Part := ⟨cs, false⟩

/-- The characters of parts, one behind another. -/
def charsOf (parts : List Part) : List Char := parts.flatMap Part.chars

@[simp] theorem charsOf_nil : charsOf [] = [] := rfl

@[simp] theorem charsOf_cons (part : Part) (parts : List Part) :
    charsOf (part :: parts) = part.chars ++ charsOf parts := rfl

@[simp] theorem charsOf_append (parts more : List Part) :
    charsOf (parts ++ more) = charsOf parts ++ charsOf more := List.flatMap_append

/-! ## The parts of a value -/

mutual

/-- The parts of the text of a value, uncut. -/
def valueParts : Value → List Part
  | .array items => itemParts items
  | .null => [.ofString (fullText .null)]
  | .bool b => [.ofString (fullText (.bool b))]
  | .number n => [.ofString (fullText (.number n))]
  | .string s => [.ofString s]
  | .object fields => [.ofString (fullText (.object fields))]

/-- The parts of the items of an array, with a separator between two. -/
def itemParts : List Value → List Part
  | [] => []
  | [v] => valueParts v
  | v :: w :: rest => valueParts v ++ .joint ", ".toList :: itemParts (w :: rest)

end

/-- The first characters of parts: what does not fit as a whole is cut. -/
def cut : Nat → List Part → List Part
  | _, [] => []
  | n, part :: parts =>
    if part.chars.length ≤ n then part :: cut (n - part.chars.length) parts
    else [.joint (part.chars.take n)]

/-- The parts of a value as it stands in a prompt. -/
def renderedParts : Value → List Part
  | .string s => [.ofString s]
  | v =>
    if maxRendered < (charsOf (valueParts v)).length then
      cut maxRendered (valueParts v) ++ [.joint truncationMark.toList]
    else valueParts v

mutual

theorem charsOf_valueParts (v : Value) : charsOf (valueParts v) = (fullText v).toList := by
  match v with
  | .null | .bool b | .number n | .object fields =>
    simp [valueParts, Part.ofString]
  | .string s => simp [valueParts, Part.ofString, fullText]
  | .array items =>
    rw [valueParts, fullText, charsOf_itemParts]

/-- The parts of items are their texts, joined. -/
theorem charsOf_itemParts (items : List Value) :
    charsOf (itemParts items) = (Text.join ", " (fullTexts items)).toList := by
  match items with
  | [] => rfl
  | [v] =>
    rw [itemParts, charsOf_valueParts, fullTexts, fullTexts, Text.join,
      String.intercalate_singleton]
  | v :: w :: rest =>
    have hrest := charsOf_itemParts (w :: rest)
    rw [fullTexts, Text.join] at hrest
    rw [itemParts, charsOf_append, charsOf_cons, charsOf_valueParts, hrest, fullTexts, fullTexts,
      Text.join, String.intercalate_cons_cons]
    simp [Part.joint]

end

theorem charsOf_cut (n : Nat) (parts : List Part) :
    charsOf (cut n parts) = (charsOf parts).take n := by
  induction parts generalizing n with
  | nil => simp [cut]
  | cons part parts ih =>
    rw [cut, charsOf_cons]
    split
    · rename_i hfits
      rw [charsOf_cons, ih, List.take_append, List.take_of_length_le hfits]
    · rename_i hlong
      rw [List.take_append_of_le_length (by omega)]
      simp [Part.joint]

/-- Cutting makes no whole parts. -/
theorem mem_of_mem_cut {n : Nat} {parts : List Part} {part : Part} (h : part ∈ cut n parts)
    (hwhole : part.whole = true) : part ∈ parts := by
  induction parts generalizing n with
  | nil => cases h
  | cons first parts ih =>
    rw [cut] at h
    split at h
    · rcases List.mem_cons.1 h with rfl | h
      · exact List.mem_cons_self
      · exact List.mem_cons_of_mem _ (ih h)
    · obtain rfl := List.mem_singleton.1 h
      cases hwhole

/-- **The parts of a value are its text** in a prompt. -/
theorem charsOf_renderedParts (v : Value) : charsOf (renderedParts v) = (render v).toList := by
  have hcut : ∀ v : Value, charsOf (if maxRendered < (charsOf (valueParts v)).length then
      cut maxRendered (valueParts v) ++ [.joint truncationMark.toList] else valueParts v) =
        (Text.truncated maxRendered truncationMark (fullText v)).toList := by
    intro v
    rw [charsOf_valueParts, Text.truncated]
    split
    · rw [charsOf_append, charsOf_cut, charsOf_valueParts]
      simp [Part.joint]
    · exact charsOf_valueParts v
  cases v with
  | string s => simp [renderedParts, render, Part.ofString]
  | null | bool | number | array | object =>
    rw [renderedParts, render]
    · exact hcut _
    all_goals
      intro s hs
      cases hs

/-! ## The parts of a text -/

variable {vars : Table Value}

/-- The parts of segments under the variables. -/
def segmentParts (vars : Table Value) : List Segment → List Part
  | [] => []
  | .literal text :: rest => .ofString text :: segmentParts vars rest
  | .reference path :: rest =>
    (match lookUp vars path with
    | .ok v => renderedParts v
    | .error _ => []) ++ segmentParts vars rest

/-- The parts of a text under the variables. -/
def textParts (vars : Table Value) (text : String) : List Part :=
  match segments text with
  | .ok ss => segmentParts vars ss
  | .error _ => []

theorem charsOf_segmentParts {ss : List Segment} {t : String}
    (h : fill (fun _ v => .ok (render v)) vars ss = .ok t) :
    charsOf (segmentParts vars ss) = t.toList := by
  induction ss generalizing t with
  | nil =>
    cases h
    rfl
  | cons segment rest ih =>
    cases segment with
    | literal text =>
      obtain ⟨after, hafter, rfl⟩ := fill_literal.1 h
      rw [segmentParts, charsOf_cons, ih hafter, String.toList_append]
      rfl
    | reference path =>
      obtain ⟨v, text, after, hv, htext, hafter, rfl⟩ := fill_reference.1 h
      cases htext
      rw [segmentParts, hv, charsOf_append, ih hafter, String.toList_append]
      exact congrArg (· ++ _) (charsOf_renderedParts v)

/-- **A filled text is its parts,** one behind another. -/
theorem charsOf_textParts {text t : String} (h : substituteText vars text = .ok t) :
    charsOf (textParts vars text) = t.toList := by
  unfold substituteText substituteWith at h
  unfold textParts
  split at h
  · cases h
  · rename_i ss hss
    rw [hss]
    exact charsOf_segmentParts h

/-! ## Where whole parts come from -/

/-- Where the characters of a whole part come from. -/
inductive Origin (vars : Table Value) (text : String) : List Char → Prop
  /-- They stand in the text, behind a reference or at the beginning, and
  before a reference or at the end. -/
  | stretch {before cs after : List Char} (place : text.toList = before ++ cs ++ after)
      (front : ∀ c ∈ before.getLast?, c = '\x7d') (behind : ∀ c ∈ after.head?, c = '$') :
      Origin vars text cs
  /-- They are a string of the variables. -/
  | inserted {s : String} (holds : (Value.object vars).Holds s) : Origin vars text s.toList
  /-- They are the wording of a value that is no string and no array. -/
  | wording {v : Value} (notString : ∀ s, v ≠ .string s) (notArray : ∀ items, v ≠ .array items) :
      Origin vars text (fullText v).toList

mutual

/-- A whole part of a value is a string that stands in it, or a wording. -/
theorem origin_of_mem_valueParts {v : Value} {part : Part} {text : String}
    (hv : ∀ s, v.Holds s → (Value.object vars).Holds s) (h : part ∈ valueParts v)
    (hwhole : part.whole = true) : Origin vars text part.chars := by
  match v with
  | .null | .bool b | .number n | .object fields =>
    obtain rfl := List.mem_singleton.1 (by simpa only [valueParts] using h)
    exact .wording (by simp) (by simp)
  | .string s =>
    obtain rfl := List.mem_singleton.1 (by simpa only [valueParts] using h)
    exact .inserted (hv s (.string s))
  | .array items =>
    rw [valueParts] at h
    exact origin_of_mem_itemParts (fun v hmem s hs => hv s (.item hmem hs)) h hwhole

theorem origin_of_mem_itemParts {items : List Value} {part : Part} {text : String}
    (hitems : ∀ v ∈ items, ∀ s, v.Holds s → (Value.object vars).Holds s)
    (h : part ∈ itemParts items) (hwhole : part.whole = true) : Origin vars text part.chars := by
  match items with
  | [] => simp [itemParts] at h
  | [v] =>
    rw [itemParts] at h
    exact origin_of_mem_valueParts (hitems v (List.mem_singleton.2 rfl)) h hwhole
  | v :: w :: rest =>
    rw [List.forall_mem_cons] at hitems
    rw [itemParts, List.mem_append, List.mem_cons] at h
    rcases h with h | rfl | h
    · exact origin_of_mem_valueParts hitems.1 h hwhole
    · cases hwhole
    · exact origin_of_mem_itemParts hitems.2 h hwhole

end

theorem origin_of_mem_renderedParts {v : Value} {part : Part} {text : String}
    (hv : ∀ s, v.Holds s → (Value.object vars).Holds s) (h : part ∈ renderedParts v)
    (hwhole : part.whole = true) : Origin vars text part.chars := by
  have hcut : ∀ {v : Value}, (∀ s, v.Holds s → (Value.object vars).Holds s) →
      part ∈ (if maxRendered < (charsOf (valueParts v)).length then
        cut maxRendered (valueParts v) ++ [.joint truncationMark.toList] else valueParts v) →
      Origin vars text part.chars := by
    intro v hv h
    split at h
    · rcases List.mem_append.1 h with h | h
      · exact origin_of_mem_valueParts hv (mem_of_mem_cut h hwhole) hwhole
      · obtain rfl := List.mem_singleton.1 h
        cases hwhole
    · exact origin_of_mem_valueParts hv h hwhole
  cases v with
  | string s =>
    obtain rfl := List.mem_singleton.1 (by simpa only [renderedParts] using h)
    exact .inserted (hv s (.string s))
  | null | bool | number | array | object =>
    rw [renderedParts] at h
    · exact hcut hv h
    all_goals
      intro s hs
      cases hs

/-- A step leads to a value that stands in the one before, or to a count. -/
theorem holds_of_reach {step : Path.Step} {v w : Value} {s : String}
    (h : step.reach v = .ok w) (hs : w.Holds s) : v.Holds s := by
  unfold Path.Step.reach at h
  split at h
  · split at h
    · cases h
    · split at h
      · split at h
        · rename_i hfind
          cases h
          exact .field (Entries.mem_toList.2 hfind) hs
        · cases h
      · split at h
        · cases h
          cases hs
        · cases h
      · split at h
        · cases h
          cases hs
        · cases h
      · cases h
  · split at h
    · split at h
      · rename_i hitem
        cases h
        obtain ⟨position, -, hposition⟩ := Option.bind_eq_some_iff.1 hitem
        exact .item (List.mem_of_getElem? hposition) hs
      · cases h
    · cases h

theorem holds_of_walk {steps : List Path.Step} {v w : Value} {s : String}
    (h : Path.walk v steps = .ok w) (hs : w.Holds s) : v.Holds s := by
  induction steps generalizing v with
  | nil =>
    cases h
    exact hs
  | cons step steps ih =>
    obtain ⟨next, hnext, h⟩ := Outcome.bind_eq_ok.1 h
    exact holds_of_reach hnext (ih h)

/-- **What stands in the value of a reference** stands in the variables. -/
theorem holds_of_lookUp {path : String} {v : Value} {s : String} (h : lookUp vars path = .ok v)
    (hs : v.Holds s) : (Value.object vars).Holds s := by
  have hresolve : Path.resolve vars path = .ok v := by
    unfold lookUp at h
    split at h
    · rename_i hv
      cases h
      exact hv
    · cases h
  unfold Path.resolve at hresolve
  split at hresolve
  · cases hresolve
  · rename_i steps _
    unfold Path.resolveSteps at hresolve
    split at hresolve
    · cases hresolve
    · cases hresolve
    · obtain ⟨first, hroot, hwalk⟩ := Outcome.bind_eq_ok.1 hresolve
      unfold Path.root at hroot
      split at hroot
      · cases hroot
      · split at hroot
        · rename_i hfind
          cases hroot
          exact .field (Entries.mem_toList.2 hfind) (holds_of_walk hwalk hs)
        · cases hroot

theorem eq_of_mem_literalSegment {cs : List Char} {literal : String}
    (h : .literal literal ∈ literalSegment cs) : literal.toList = cs := by
  unfold literalSegment at h
  split at h
  · cases h
  · cases List.mem_singleton.1 h
    exact String.toList_ofList

/-- What splitting a text does: there is no reference in it, or it splits
at the first one and goes on behind. -/
theorem segmentsOf_eq_ok {cs : List Char} {ss : List Segment} (h : segmentsOf cs = .ok ss) :
    ss = literalSegment cs ∨
      ∃ before path rest more, cs = before ++ opening ++ (path ++ closing ++ rest) ∧
        segmentsOf rest = .ok more ∧
        ss = literalSegment before ++ .reference (String.ofList (Text.trim path)) :: more := by
  rw [segmentsOf] at h
  split at h
  · cases h
    exact .inl rfl
  · rename_i before inside hopened
    split at h
    · cases h
    · rename_i path rest hclosed
      dsimp only at h
      split at h
      · cases h
      · obtain ⟨more, hmore, rfl⟩ := Outcome.map_eq_ok.1 h
        right
        refine ⟨before, path, rest, more, ?_, hmore, rfl⟩
        rw [← Text.splitOn?_eq hclosed]
        exact Text.splitOn?_eq hopened

/-- **A literal segment** is a stretch of the text between references. -/
theorem exists_stretch {cs : List Char} {ss : List Segment} {text : String}
    (h : segmentsOf cs = .ok ss) (hmem : .literal text ∈ ss) :
    ∃ before after, cs = before ++ text.toList ++ after ∧
      (∀ c ∈ before.getLast?, c = '\x7d') ∧ ∀ c ∈ after.head?, c = '$' := by
  -- by induction on the length: what is left to split is shorter
  induction hn : cs.length using Nat.strongRecOn generalizing cs ss with
  | ind n ih =>
    rcases segmentsOf_eq_ok h with rfl | ⟨front, path, rest, more, rfl, hmore, rfl⟩
    · refine ⟨[], [], ?_, by simp, by simp⟩
      rw [eq_of_mem_literalSegment hmem]
      simp
    · rcases List.mem_append.1 hmem with hmem | hmem
      · refine ⟨[], opening ++ (path ++ closing ++ rest), ?_, by simp, by simp [opening]⟩
        rw [eq_of_mem_literalSegment hmem]
        simp
      · have hmem : .literal text ∈ more := by simpa using hmem
        have hshorter : rest.length < n := by
          rw [← hn]
          simp [opening, closing]
          omega
        obtain ⟨before, after, rfl, hbefore, hafter⟩ := ih rest.length hshorter hmore hmem rfl
        refine ⟨front ++ opening ++ path ++ closing ++ before, after, by simp, ?_, hafter⟩
        intro c hc
        rw [List.getLast?_append, Option.mem_def, Option.or_eq_some_iff] at hc
        rcases hc with hc | ⟨-, hc⟩
        · exact hbefore c hc
        · simpa [closing] using hc.symm

/-- **Where a whole part comes from.** -/
theorem origin_of_mem_textParts {text : String} {part : Part} (h : part ∈ textParts vars text)
    (hwhole : part.whole = true) : Origin vars text part.chars := by
  unfold textParts at h
  split at h
  · rename_i ss hss
    have hsegments : ∀ more, (∀ segment ∈ more, segment ∈ ss) → part ∈ segmentParts vars more →
        Origin vars text part.chars := by
      intro more hmore hpart
      induction more with
      | nil => cases hpart
      | cons segment rest ih =>
        rw [List.forall_mem_cons] at hmore
        cases segment with
        | literal stretch =>
          rcases List.mem_cons.1 hpart with rfl | hpart
          · obtain ⟨before, after, hplace, hfront, hbehind⟩ := exists_stretch hss hmore.1
            exact .stretch hplace hfront hbehind
          · exact ih hmore.2 hpart
        | reference path =>
          rcases List.mem_append.1 hpart with hpart | hpart
          · split at hpart
            · rename_i v hv
              exact origin_of_mem_renderedParts (fun s => holds_of_lookUp hv) hpart hwhole
            · cases hpart
          · exact ih hmore.2 hpart
    exact hsegments ss (fun _ => id) h
  · cases h

end Interpolation

end PromptTemplate
