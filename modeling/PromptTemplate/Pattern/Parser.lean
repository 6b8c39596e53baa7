import PromptTemplate.Pattern.Basic
import PromptTemplate.Number.Reader
/-!
# PromptTemplate — the notation of patterns

Patterns are written in the usual notation: characters stand for
themselves, a backslash names a set or takes the meaning away from a
symbol, brackets list a class, `*`, `+`, `?` and counts in braces repeat a
character, a bar separates choices and a group is put in `(?:` and `)`. A
text that begins with `(?i)` ignores case. `parse?` refuses what is not
closed and what is not of this notation.
-/

namespace PromptTemplate

namespace Pattern

/-- The characters with a meaning of their own. -/
def symbols : List Char :=
  ['\\', '.', '+', '*', '?', '(', ')', '|', '[', ']', '\x7b', '\x7d', '^', '$']

/-- The set that an escaped letter names, or the symbol that an escape
takes for itself. -/
def escapedSet? (c : Char) : Option CharSet :=
  if c = 's' then some .blank
  else if c = 'w' then some .word
  else if c = 'd' then some .digit
  else if symbols.contains c || c = '-' || c = '/' then some (.single c)
  else none

/-- Reads the sets of a class up to its closing bracket. -/
def classSets : Nat → List Char → Option (List CharSet × List Char)
  | 0, _ => none
  | fuel + 1, cs =>
    match cs with
    | [] => none
    | ']' :: r => some ([], r)
    | '\\' :: c :: r =>
      match escapedSet? c with
      | none => none
      | some s => (classSets fuel r).map fun (ss, r) => (s :: ss, r)
    | first :: '-' :: last :: r =>
      if last = ']' then none
      else (classSets fuel r).map fun (ss, r) => (.range first last :: ss, r)
    | c :: r => (classSets fuel r).map fun (ss, r) => (.single c :: ss, r)

/-- Reads a class behind its opening bracket. -/
def charClass (folded : Bool) (cs : List Char) : Option (CharClass × List Char) :=
  let (negated, cs) := match cs with
    | '^' :: r => (true, r)
    | r => (false, r)
  (classSets (cs.length + 1) cs).bind fun (sets, r) =>
    if sets.isEmpty then none else some (⟨sets, negated, folded⟩, r)

/-- Reads how often a character is repeated: once, if nothing is said. -/
def count : List Char → Option (Nat × Option Nat × List Char)
  | '*' :: r => some (0, none, r)
  | '+' :: r => some (1, none, r)
  | '?' :: r => some (0, some 1, r)
  | '\x7b' :: r =>
    match Number.spanDigits r with
    | ([], _) => none
    | (ds, '\x7d' :: r) => let n := Number.natOfDigits ds; some (n, some n, r)
    | (ds, ',' :: r) =>
      match Number.spanDigits r with
      | ([], _) => none
      | (es, '\x7d' :: r) => some (Number.natOfDigits ds, some (Number.natOfDigits es), r)
      | _ => none
    | _ => none
  | r => some (1, some 1, r)

/-- A class with its count. -/
def counted (k : CharClass) (cs : List Char) : Option (Pattern × List Char) :=
  (count cs).map fun (least, greatest, r) => (.repeated k least greatest, r)

mutual

/-- Reads the choices of a group, up to its end or that of the text. -/
def choices (folded : Bool) : Nat → List Char → Option (Pattern × List Char)
  | 0, _ => none
  | fuel + 1, cs =>
    match items folded fuel cs with
    | none => none
    | some (p, '|' :: r) =>
      (choices folded fuel r).map fun (q, r) => (.choice p q, r)
    | some (p, r) => some (p, r)

/-- Reads a sequence, up to a bar, the end of a group or that of the
text. -/
def items (folded : Bool) : Nat → List Char → Option (Pattern × List Char)
  | 0, _ => none
  | fuel + 1, cs =>
    match cs with
    | [] => some (.empty, [])
    | '|' :: r => some (.empty, '|' :: r)
    | ')' :: r => some (.empty, ')' :: r)
    | cs =>
      match item folded fuel cs with
      | none => none
      | some (p, r) => (items folded fuel r).map fun (q, r) => (.sequence p q, r)

/-- Reads one item of a sequence. -/
def item (folded : Bool) : Nat → List Char → Option (Pattern × List Char)
  | 0, _ => none
  | fuel + 1, cs =>
    match cs with
    | [] => none
    | '(' :: '?' :: ':' :: r =>
      match choices folded fuel r with
      | some (p, ')' :: r) => some (p, r)
      | _ => none
    | '\\' :: 'b' :: r => some (.boundary, r)
    | '\\' :: c :: r =>
      match escapedSet? c with
      | none => none
      | some s => counted ⟨[s], false, folded⟩ r
    | '[' :: r =>
      match charClass folded r with
      | none => none
      | some (k, r) => counted k r
    | '.' :: r => counted ⟨[.any], false, folded⟩ r
    | c :: r => if symbols.contains c then none else counted ⟨[.single c], false, folded⟩ r

end

/-- The pattern that a text stands for. -/
def parse? (source : String) : Option Pattern :=
  let (folded, cs) := match source.toList with
    | '(' :: '?' :: 'i' :: ')' :: r => (true, r)
    | r => (false, r)
  match choices folded (3 * cs.length + 3) cs with
  | some (p, []) => some p
  | _ => none

end Pattern

end PromptTemplate
