import Mathlib.Algebra.Group.Nat.Defs
import PromptTemplate.Proofs.Outcome
import PromptTemplate.Schema.Exchange
/-!
# PromptTemplate — the size limit of schemas

A response is taken if it `Fits`: it is a success, of an accepted type, no
larger than the limit by what it declares and by what is delivered, and the
body is JSON. To see that nothing is left behind the limit, one byte more
than the limit is asked for (`window`), so that what is read keeps to the
limit exactly if the whole body does (`read?_window_iff`).

That number is a word of 64 bits, and the largest limit has no successor
there: nothing is asked for, and nothing is ever taken
(`not_fits_largestLimit`). For all other limits fitting is what it takes:
`source_eq_ok_iff`.
-/

namespace PromptTemplate

namespace Schema

namespace Response

variable {limit : Nat} {r : Response} {v : Value} {bytes : List UInt8}

/-! ## What is read -/

/-- The body of a response, if the connection does not break before its
end. -/
def delivered? (r : Response) : Option (List UInt8) := if r.broken then none else some r.arrived

/-- **The window** is large enough: what is read through it keeps to the
limit exactly if the whole body is delivered and does. -/
theorem read?_window_iff (h : limit + 1 < 2 ^ 64) :
    r.read? (window limit) = some bytes ∧ bytes.length ≤ limit ↔
      r.delivered? = some bytes ∧ bytes.length ≤ limit := by
  have hwindow : window limit = limit + 1 := Nat.mod_eq_of_lt h
  rw [hwindow, read?, delivered?, and_congr_left_iff]
  intro hbytes
  split
  · rename_i hmore
    -- more than the limit has arrived, so neither side can hold
    constructor
    · rintro ⟨⟩
      rw [List.length_take] at hbytes
      omega
    · intro hdelivered
      split at hdelivered
      · cases hdelivered
      · cases hdelivered
        omega
  · rfl

/-- Through the window of the largest limit nothing is read. -/
theorem read?_window_largest (h : limit + 1 = 2 ^ 64) (r : Response) :
    r.read? (window limit) = some [] := by
  have hwindow : window limit = 0 := by
    rw [window, h]
    rfl
  simp [hwindow, read?]

/-- No bytes are no JSON. -/
theorem parse_nothing : (textOfBytes? []).bind Json.parse? = none := by decide +kernel

/-! ## What is taken -/

/-- **A body is taken** if every check passes, in their order. -/
theorem body_eq_ok_iff :
    r.body limit = .ok v ↔ (200 ≤ r.status ∧ r.status < 300) ∧ isAccepted r.type = true ∧
      r.declared.getD 0 ≤ limit ∧ ∃ bytes, r.read? (window limit) = some bytes ∧
        bytes.length ≤ limit ∧ (textOfBytes? bytes).bind Json.parse? = some v := by
  have hstatus : ¬ (r.status < 200 ∨ 300 ≤ r.status) ↔ 200 ≤ r.status ∧ r.status < 300 := by
    omega
  rw [body, Outcome.guarded_eq_ok, Outcome.guarded_eq_ok, Outcome.guarded_eq_ok, hstatus,
    Bool.not_eq_true', Bool.not_eq_false, Nat.not_lt]
  cases r.read? (window limit) with
  | none => simp
  | some bytes =>
    simp only [Outcome.guarded_eq_ok, Nat.not_lt, Option.some.injEq, exists_eq_left']
    cases (textOfBytes? bytes).bind Json.parse? with
    | none => simp
    | some w => simp

/-- A type of content is accepted if it is JSON, a format built on it, or
text. -/
theorem isAccepted_iff {type : String} :
    isAccepted type = true ↔ essence type = "application/json".toList ∨
      "+json".toList <:+ essence type ∨ "text/".toList <+: essence type := by
  simp only [isAccepted, Bool.or_eq_true, beq_iff_eq, List.isSuffixOf_iff_suffix,
    List.isPrefixOf_iff_prefix, or_assoc]

/-- **A response fits** a limit, with a value as its body. -/
structure Fits (limit : Nat) (r : Response) (v : Value) : Prop where
  status : 200 ≤ r.status ∧ r.status < 300
  type : essence r.type = "application/json".toList ∨ "+json".toList <:+ essence r.type ∨
    "text/".toList <+: essence r.type
  declared : ∀ n, r.declared = some n → n ≤ limit
  body : ∃ bytes text, r.delivered? = some bytes ∧ bytes.length ≤ limit ∧
    textOfBytes? bytes = some text ∧ Json.parse? text = some v

/-- **A body is taken** if and only if it fits, and the limit is not the
largest one. -/
theorem body_eq_ok_iff_fits (h : limit < 2 ^ 64) :
    r.body limit = .ok v ↔ limit + 1 < 2 ^ 64 ∧ Fits limit r v := by
  have hdeclared : r.declared.getD 0 ≤ limit ↔ ∀ n, r.declared = some n → n ≤ limit := by
    cases r.declared with
    | none => simp
    | some n => simp
  rw [body_eq_ok_iff, isAccepted_iff, hdeclared]
  by_cases hlargest : limit + 1 = 2 ^ 64
  · -- what is read is empty, and that is no JSON
    have hnot : ¬ limit + 1 < 2 ^ 64 := by omega
    simp only [read?_window_largest hlargest, hnot, false_and, iff_false]
    rintro ⟨-, -, -, bytes, hbytes, -, hparse⟩
    cases hbytes
    rw [parse_nothing] at hparse
    cases hparse
  · have hwindow : limit + 1 < 2 ^ 64 := by omega
    constructor
    · rintro ⟨hstatus, htype, hdeclared, bytes, hread, hbytes, hparse⟩
      obtain ⟨hdelivered, -⟩ := (read?_window_iff hwindow).1 ⟨hread, hbytes⟩
      obtain ⟨text, htext, hparse⟩ := Option.bind_eq_some_iff.1 hparse
      exact ⟨hwindow, hstatus, htype, hdeclared, bytes, text, hdelivered, hbytes, htext, hparse⟩
    · rintro ⟨-, hstatus, htype, hdeclared, bytes, text, hdelivered, hbytes, htext, hparse⟩
      obtain ⟨hread, -⟩ := (read?_window_iff hwindow).2 ⟨hdelivered, hbytes⟩
      exact ⟨hstatus, htype, hdeclared, bytes, hread, hbytes,
        Option.bind_eq_some_iff.2 ⟨text, htext, hparse⟩⟩

end Response

/-- **The size limit is exact but for the largest one.** Under every policy,
its limits being words of 64 bits, and for every transport, the source of
schemas has a body for an address if and only if the transport has a
response there that fits the limit, and the limit is less than the largest
word. -/
theorem source_eq_ok_iff {p : Policy} (h : p.maxSchemaSize < 2 ^ 64) (transport : Transport)
    (url : String) (v : Value) :
    transport.source p.maxSchemaSize url = .ok v ↔
      p.maxSchemaSize + 1 < 2 ^ 64 ∧
        ∃ r, transport url = .answered r ∧ r.Fits p.maxSchemaSize v := by
  rw [Transport.source, Outcome.mapError_eq_ok]
  cases transport url with
  | failed reason => simp [Exchange.body]
  | answered r =>
    rw [Exchange.body, Response.body_eq_ok_iff_fits h]
    simp

/-- A response that is an empty object, in two bytes and with its length. -/
def emptyObject : Response where
  status := 200
  contentType := some "Application/JSON; charset=utf-8".toUTF8.toList
  declared := some 2
  arrived := [0x7b, 0x7d]
  broken := false

theorem fits_emptyObject {limit : Nat} (h : 2 ≤ limit) :
    emptyObject.Fits limit (.object .nil) where
  status := by decide
  type := .inl (by decide +kernel)
  declared n hn := by
    cases hn
    exact h
  body := ⟨[0x7b, 0x7d], "\x7b\x7d", rfl, h, by decide +kernel, by rfl⟩

/-- A limit of two bytes takes two bytes, and one of one byte does not. -/
theorem source_emptyObject :
    let exact : Policy := { Policy.strict with maxSchemaSize := 2 }
    let less : Policy := { Policy.strict with maxSchemaSize := 1 }
    let transport : Transport := fun _ => .answered emptyObject
    exact.check = .ok () ∧ exact.maxSchemaSize < 2 ^ 64 ∧
      transport.source exact.maxSchemaSize "" = .ok (.object .nil) ∧
      less.check = .ok () ∧ less.maxSchemaSize < 2 ^ 64 ∧
      transport.source less.maxSchemaSize "" ≠ .ok (.object .nil) := by
  intro exact less transport
  have hexact : exact.maxSchemaSize < 2 ^ 64 := by decide
  have hless : less.maxSchemaSize < 2 ^ 64 := by decide
  refine ⟨rfl, hexact, ?_, rfl, hless, ?_⟩
  · exact (source_eq_ok_iff hexact transport "" _).2
      ⟨by decide, emptyObject, rfl, fits_emptyObject (by decide)⟩
  · rw [ne_eq, source_eq_ok_iff hless]
    rintro ⟨-, r, hr, hfits⟩
    cases hr
    exact absurd (hfits.declared 2 rfl) (by decide)

/-- The policy of the largest limit. -/
def largestLimit : Policy := { Policy.strict with maxSchemaSize := 2 ^ 64 - 1 }

/-- **The largest limit takes nothing.** Its policy is admitted, and the
response fits; but no byte of it is read. -/
theorem not_fits_largestLimit :
    largestLimit.check = .ok () ∧ emptyObject.Fits largestLimit.maxSchemaSize (.object .nil) ∧
      Transport.source (fun _ => .answered emptyObject) largestLimit.maxSchemaSize "" =
        .error ExchangeFailure.notJson.message := by
  have hsize : largestLimit.maxSchemaSize = 18446744073709551615 := rfl
  have hread := Response.read?_window_largest (show 18446744073709551615 + 1 = 2 ^ 64 by omega)
    emptyObject
  have hbody : emptyObject.body 18446744073709551615 = .error .notJson := by
    rw [Response.body, if_neg (by decide), if_neg (by decide +kernel), if_neg (by decide), hread]
    simp only [List.length_nil, Nat.not_lt_zero, if_false, Response.parse_nothing]
  rw [hsize]
  refine ⟨rfl, fits_emptyObject (by omega), ?_⟩
  simp only [Transport.source, Exchange.body, hbody]
  rfl

end Schema

end PromptTemplate
