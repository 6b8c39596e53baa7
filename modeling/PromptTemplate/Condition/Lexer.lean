import PromptTemplate.Condition.Token
import PromptTemplate.Outcome
import PromptTemplate.Number.Reader
import PromptTemplate.Text.Blank
import PromptTemplate.Text.Search
import PromptTemplate.Text.Hex
import PromptTemplate.Text.Surrogate
/-!
# PromptTemplate — splitting conditions into tokens

`lexemes` reads a condition from the left: it passes over blanks, takes the
longest token that starts at the next character, and goes on behind it.
`next_eq` says that a token is exactly a front part of what was left, and
never an empty one, so nothing is dropped or invented and the reading ends.
-/

namespace PromptTemplate

namespace Condition

/-- Why a condition does not split into tokens; positions count bytes. -/
inductive LexFailure
  | assignment (position : Nat)
  | unexpected (c : Char) (position : Nat)
  | badNumber (source : String) (position : Nat)
  | unterminated (position : Nat)
  | badEscape (c : Char) (position : Nat)
  | badUnicode (position : Nat)
  | loneSurrogate (position : Nat)

/-- The wording of a failure. -/
def LexFailure.message : LexFailure → String
  | .assignment position => s!"assignment is not supported (position {position})"
  | .unexpected c position => s!"unexpected character '{c}' at position {position}"
  | .badNumber source position => s!"invalid number '{source}' at position {position}"
  | .unterminated position => s!"unterminated string starting at position {position}"
  | .badEscape c position => s!"invalid escape '\\{c}' at position {position}"
  | .badUnicode position => s!"invalid unicode escape at position {position}"
  | .loneSurrogate position => s!"unpaired surrogate in unicode escape at position {position}"

/-- The character that an escape of one letter stands for. -/
def unescape? (c : Char) : Option Char :=
  match c with
  | '"' | '\'' | '\\' | '/' => some c
  | 'n' => some '\n'
  | 't' => some '\t'
  | 'r' => some '\r'
  | 'b' => some '\x08'
  | 'f' => some '\x0c'
  | _ => none

/-- A string literal that has been read: its value, the characters it took,
and what follows. -/
structure StringBody where
  value : List Char
  source : List Char
  rest : List Char

/-- Puts a character in front of the value, written as `source`. -/
def StringBody.push (b : StringBody) (c : Char) (source : List Char) : StringBody :=
  ⟨c :: b.value, source ++ b.source, b.rest⟩

/-- Reads a string literal behind its opening quote. `start` is where the
literal began and `position` where the reading stands. -/
def stringBody (quote : Char) (start : Nat) : Nat → List Char → Except LexFailure StringBody
  | _, [] => .error (.unterminated start)
  | position, c :: r =>
    if c = quote then .ok ⟨[], [c], r⟩
    else if c = '\\' then
      match r with
      | [] => .error (.unterminated start)
      | e :: r =>
        if e = 'u' then
          match r with
          | h₁ :: h₂ :: h₃ :: h₄ :: r =>
            match Hex.value4? h₁ h₂ h₃ h₄ with
            | none => .error (.badUnicode (position + 1))
            | some unit =>
              if Surrogate.isHigh unit then
                match r with
                | '\\' :: 'u' :: l₁ :: l₂ :: l₃ :: l₄ :: r =>
                  match Hex.value4? l₁ l₂ l₃ l₄ with
                  | none => .error (.badUnicode (position + 1))
                  | some low =>
                    if Surrogate.isLow low then
                      (stringBody quote start (position + 12) r).map
                        (·.push (Surrogate.pair unit low)
                          ['\\', 'u', h₁, h₂, h₃, h₄, '\\', 'u', l₁, l₂, l₃, l₄])
                    else .error (.loneSurrogate (position + 1))
                | '\\' :: 'u' :: _ => .error (.badUnicode (position + 1))
                | _ => .error (.loneSurrogate (position + 1))
              else if Surrogate.isLow unit then .error (.badUnicode (position + 1))
              else
                (stringBody quote start (position + 6) r).map
                  (·.push (Char.ofNat unit) ['\\', 'u', h₁, h₂, h₃, h₄])
          | _ => .error (.badUnicode (position + 1))
        else
          match unescape? e with
          | none => .error (.badEscape e (position + 1))
          | some v => (stringBody quote start (position + 2) r).map (·.push v ['\\', e])
    else (stringBody quote start (position + c.utf8Size) r).map (·.push c [c])

/-- Whether a character may begin a name. -/
def isNameStart (c : Char) : Bool := c.isAlpha || c == '_' || c == '$'

/-- Whether a character may continue a name. -/
def isNamePart (c : Char) : Bool := c.isAlphanum || c == '_' || c == '$'

/-- Splits off a fraction: a point with digits behind it. -/
def splitFraction : List Char → List Char × List Char
  | '.' :: d :: r =>
    if d.isDigit then
      ('.' :: (d :: r).takeWhile Char.isDigit, (d :: r).dropWhile Char.isDigit)
    else ([], '.' :: d :: r)
  | r => ([], r)

/-- Splits off a sign. -/
def splitSign : List Char → List Char × List Char
  | '+' :: r => (['+'], r)
  | '-' :: r => (['-'], r)
  | r => ([], r)

/-- Splits off an exponent: its letter, a sign if there is one, and the
digits behind them. -/
def splitExponent : List Char → List Char × List Char
  | e :: r =>
    if e = 'e' ∨ e = 'E' then
      let (sign, r) := splitSign r
      (e :: sign ++ r.takeWhile Char.isDigit, r.dropWhile Char.isDigit)
    else ([], e :: r)
  | [] => ([], [])

/-- Splits off the characters of a number. -/
def splitNumber (cs : List Char) : List Char × List Char :=
  let whole := cs.takeWhile Char.isDigit
  let (fraction, r) := splitFraction (cs.dropWhile Char.isDigit)
  let (exponent, r) := splitExponent r
  (whole ++ fraction ++ exponent, r)

/-- A token, the characters it is written as, and what follows it. -/
structure Taken where
  token : Token
  source : List Char
  rest : List Char

/-- Takes the symbol at the front of a text. -/
def symbol (position : Nat) : List Char → Except LexFailure Taken
  | '=' :: '=' :: '=' :: r => .ok ⟨.equal, ['=', '=', '='], r⟩
  | '=' :: '=' :: r => .ok ⟨.equal, ['=', '='], r⟩
  | '=' :: _ => .error (.assignment position)
  | '!' :: '=' :: '=' :: r => .ok ⟨.notEqual, ['!', '=', '='], r⟩
  | '!' :: '=' :: r => .ok ⟨.notEqual, ['!', '='], r⟩
  | '!' :: r => .ok ⟨.not, ['!'], r⟩
  | '<' :: '=' :: r => .ok ⟨.lessOrEqual, ['<', '='], r⟩
  | '<' :: r => .ok ⟨.less, ['<'], r⟩
  | '>' :: '=' :: r => .ok ⟨.greaterOrEqual, ['>', '='], r⟩
  | '>' :: r => .ok ⟨.greater, ['>'], r⟩
  | '&' :: '&' :: r => .ok ⟨.and, ['&', '&'], r⟩
  | '|' :: '|' :: r => .ok ⟨.or, ['|', '|'], r⟩
  | '+' :: r => .ok ⟨.plus, ['+'], r⟩
  | '-' :: r => .ok ⟨.minus, ['-'], r⟩
  | '.' :: r => .ok ⟨.dot, ['.'], r⟩
  | '[' :: r => .ok ⟨.openBracket, ['['], r⟩
  | ']' :: r => .ok ⟨.closeBracket, [']'], r⟩
  | '(' :: r => .ok ⟨.openParen, ['('], r⟩
  | ')' :: r => .ok ⟨.closeParen, [')'], r⟩
  | ',' :: r => .ok ⟨.comma, [','], r⟩
  | c :: _ => .error (.unexpected c position)
  | [] => .error (.unterminated position)

/-- Takes the token at the front of a text, which begins with no blank. -/
def next (position : Nat) (cs : List Char) : Except LexFailure Taken :=
  match cs with
  | [] => .error (.unterminated position)
  | c :: r =>
    if c.isDigit then
      let (source, rest) := splitNumber (c :: r)
      match Number.parse? source with
      | some n => .ok ⟨.number n, source, rest⟩
      | none => .error (.badNumber (String.ofList source) position)
    else if c = '"' ∨ c = '\'' then
      (stringBody c position (position + 1) r).map fun b =>
        ⟨.text (String.ofList b.value), c :: b.source, b.rest⟩
    else if isNameStart c then
      .ok ⟨.ofWord (String.ofList (c :: r.takeWhile isNamePart)), c :: r.takeWhile isNamePart,
        r.dropWhile isNamePart⟩
    else symbol position (c :: r)

/-! ## Nothing is dropped or invented -/

theorem stringBody_eq {quote : Char} {start position : Nat} {cs : List Char} {b : StringBody}
    (h : stringBody quote start position cs = .ok b) : cs = b.source ++ b.rest := by
  fun_induction stringBody quote start position cs generalizing b <;>
    first
    | cases h; rfl
    | cases h
    | (rename_i ih
       obtain ⟨b', hb', rfl⟩ := Outcome.map_eq_ok.1 h
       simp [StringBody.push, ih hb'])

theorem splitFraction_eq (cs : List Char) : (splitFraction cs).1 ++ (splitFraction cs).2 = cs := by
  unfold splitFraction
  split
  · split
    · simp [List.takeWhile_append_dropWhile]
    · simp
  · simp

theorem splitSign_eq (cs : List Char) : (splitSign cs).1 ++ (splitSign cs).2 = cs := by
  unfold splitSign
  split <;> simp

theorem splitExponent_eq (cs : List Char) : (splitExponent cs).1 ++ (splitExponent cs).2 = cs := by
  unfold splitExponent
  split
  · split
    · simp [List.append_assoc, List.takeWhile_append_dropWhile, splitSign_eq]
    · simp
  · simp

theorem splitNumber_eq (cs : List Char) : (splitNumber cs).1 ++ (splitNumber cs).2 = cs := by
  simp [splitNumber, List.append_assoc, splitExponent_eq, splitFraction_eq,
    List.takeWhile_append_dropWhile]

theorem symbol_eq {position : Nat} {cs : List Char} {t : Taken} (h : symbol position cs = .ok t) :
    cs = t.source ++ t.rest ∧ t.source ≠ [] := by
  unfold symbol at h
  split at h <;> first | (cases h; simp) | cases h

/-- **A token is a front part of what was left, and not empty.** -/
theorem next_eq {position : Nat} {cs : List Char} {t : Taken} (h : next position cs = .ok t) :
    cs = t.source ++ t.rest ∧ t.source ≠ [] := by
  unfold next at h
  split at h
  · cases h
  · rename_i c r
    split at h
    · rename_i hc
      dsimp only at h
      split at h
      · cases h
        refine ⟨(splitNumber_eq _).symm, ?_⟩
        simp [splitNumber, hc]
      · cases h
    · split at h
      · obtain ⟨b, hb, rfl⟩ := Outcome.map_eq_ok.1 h
        simp [stringBody_eq hb]
      · split at h
        · cases h
          simp [List.takeWhile_append_dropWhile]
        · exact symbol_eq h

theorem length_rest_lt_of_next {position : Nat} {cs : List Char} {t : Taken}
    (h : next position cs = .ok t) : t.rest.length < cs.length := by
  obtain ⟨he, hne⟩ := next_eq h
  have := List.length_pos_iff.2 hne
  rw [he, List.length_append]
  omega

/-- Splits a text into tokens, from a byte position on. -/
def lexemesFrom (position : Nat) (cs : List Char) : Except LexFailure (List Lexeme) :=
  match cs with
  | [] => .ok []
  | c :: r =>
    if Text.isBlank c then lexemesFrom (position + c.utf8Size) r
    else
      match _taken : next position (c :: r) with
      | .error e => .error e
      | .ok t =>
        (lexemesFrom (position + Text.byteLength t.source) t.rest).map
          (⟨t.token, t.source, position⟩ :: ·)
termination_by cs.length
decreasing_by
  · simp
  · exact length_rest_lt_of_next _taken

/-- The tokens of a condition. -/
def lexemes (source : String) : Except LexFailure (List Lexeme) := lexemesFrom 0 source.toList

end Condition

end PromptTemplate
