import PromptTemplate.Table
import PromptTemplate.Number.Basic
/-!
# PromptTemplate — document values

Templates, variables and schemas are trees of JSON values. `Value` is
that tree, with objects as tables, so that the fields of an object have
one order and equality is equality of documents. Functions on it recurse
along the tree, its lists and its tables together; `Value.induction`
is the matching principle of proof.
-/

namespace PromptTemplate

/-- A JSON value. -/
inductive Value
  | null
  | bool (b : Bool)
  | number (n : Number)
  | string (s : String)
  | array (items : List Value)
  | object (fields : Entries Value none)

/-- What sort of value it is. -/
inductive Kind
  | null | boolean | number | string | array | object
deriving DecidableEq

/-- The name of a sort of value. -/
def Kind.name : Kind → String
  | .null => "null"
  | .boolean => "boolean"
  | .number => "number"
  | .string => "string"
  | .array => "array"
  | .object => "object"

namespace Value

/-- The sort of a value. -/
def kind : Value → Kind
  | .null => .null
  | .bool _ => .boolean
  | .number _ => .number
  | .string _ => .string
  | .array _ => .array
  | .object _ => .object

/-- The text of a string value. -/
def string? : Value → Option String
  | .string s => some s
  | _ => none

/-- The items of an array. -/
def array? : Value → Option (List Value)
  | .array items => some items
  | _ => none

/-- The fields of an object. -/
def object? : Value → Option (Table Value)
  | .object fields => some fields
  | _ => none

/-- A field of an object; nothing for other values. -/
def field? (v : Value) (key : String) : Option Value := v.object?.bind (·.find? key)

/-- The items of an array that stands in a field of an object. -/
def branch? (v : Value) (key : String) : Option (List Value) := (v.field? key).bind array?

/-- What stands in a table is smaller than the table. -/
theorem sizeOf_find?_lt {lo : Option String} {fields : Entries Value lo} {key : String} {v : Value}
    (h : fields.find? key = some v) : sizeOf v < sizeOf fields := by
  induction fields with
  | nil => cases h
  | cons k hk w rest ih =>
    unfold Entries.find? at h
    split at h
    · cases h
      simp
      omega
    · have := ih h
      simp
      omega

/-- A field is smaller than its object. -/
theorem sizeOf_field?_lt {v w : Value} {key : String} (h : v.field? key = some w) :
    sizeOf w < sizeOf v := by
  unfold field? at h
  cases v <;> simp [object?] at h
  have := sizeOf_find?_lt h
  simp
  omega

/-- The items of a branch are smaller than the object that has it. -/
theorem sizeOf_branch?_lt {v : Value} {items : List Value} {key : String}
    (h : v.branch? key = some items) : sizeOf items < sizeOf v := by
  unfold branch? at h
  obtain ⟨w, hw, hitems⟩ := Option.bind_eq_some_iff.1 h
  have := sizeOf_field?_lt hw
  cases w <;> simp [array?] at hitems
  subst hitems
  simp at this
  omega

mutual

/-- The strings in a value, in the order of the document. -/
def strings : Value → List String
  | .string s => [s]
  | .array items => itemStrings items
  | .object fields => fieldStrings fields
  | _ => []

/-- The strings in the items of an array. -/
def itemStrings : List Value → List String
  | [] => []
  | v :: vs => strings v ++ itemStrings vs

/-- The strings in the fields of an object, in key order. -/
def fieldStrings : {lo : Option String} → Entries Value lo → List String
  | _, .nil => []
  | _, .cons _ _ v rest => strings v ++ fieldStrings rest

end

/-- The number of a count, as a value. -/
def ofNat (n : Nat) : Value := .number (.ofNat n)

/-- **Induction over values,** their lists of items and their tables of
fields. -/
theorem induction {P : Value → Prop} (null : P .null) (bool : ∀ b, P (.bool b))
    (number : ∀ n, P (.number n)) (string : ∀ s, P (.string s))
    (array : ∀ items, (∀ v ∈ items, P v) → P (.array items))
    (object : ∀ fields : Table Value, (∀ e ∈ fields.toList, P e.2) → P (.object fields))
    (v : Value) : P v :=
  @Value.rec P (fun items => ∀ v ∈ items, P v) (fun _ fields => ∀ e ∈ fields.toList, P e.2)
    null bool number string array object
    (fun _ h => by cases h)
    (fun head tail hhead htail v hv => by
      rcases List.mem_cons.1 hv with rfl | hv
      · exact hhead
      · exact htail v hv)
    (fun {_} e h => by cases h)
    (fun {_} key above value rest hvalue hrest e he => by
      rcases List.mem_cons.1 he with rfl | he
      · exact hvalue
      · exact hrest e he)
    v

end Value

end PromptTemplate
