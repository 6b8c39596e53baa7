import PromptTemplate.Schema.Basic
/-!
# PromptTemplate — the cache of schemas

Schemas that have been fetched are kept for a while, by address. An entry
is fresh until its time to live has passed since it was fetched; one that
is not is dropped when it is looked up. The cache counts what happens to
it. `find_fst` says what a look-up gives, and times are milliseconds since
the epoch.

The calendar has a first and a last date, and an entry is kept with the date
at which it ceases to be fresh. Where there is none, the schema cannot be
kept (`keep?`).
-/

namespace PromptTemplate

namespace Calendar

/-- The first millisecond with a date: the year -262143 begins. -/
def first : Int := -8334601228800000

/-- The last millisecond with a date: the year 262142 ends. -/
def last : Int := 8210266876799999

/-- Whether a time has a date. -/
def hasDate (time : Int) : Bool := first ≤ time && time ≤ last

end Calendar

namespace Schema

/-- A schema and when it was fetched. -/
structure Entry where
  schema : Schema
  fetched : Int

/-- What has happened to a cache since it was made or cleared. -/
structure Counters where
  hits : Nat
  misses : Nat
  evictions : Nat
  fetches : Nat
deriving DecidableEq

/-- Nothing has happened. -/
def Counters.zero : Counters := ⟨0, 0, 0, 0⟩

/-- A cache of schemas. -/
structure Cache where
  /-- How long an entry is fresh, in milliseconds. -/
  lifetime : Int
  entries : Table Entry
  counters : Counters

namespace Cache

/-- How many seconds an entry is fresh where nothing else is said: an
hour. -/
def defaultTtl : Int := 3600

/-- How long an entry is fresh, in whole seconds. -/
def ttl (c : Cache) : Int := c.lifetime.tdiv 1000

/-- The empty cache whose entries are fresh for a while. -/
def empty (lifetime : Int) : Cache := ⟨lifetime, .nil, .zero⟩

/-- Whether an entry is fresh at a time. -/
def isFresh (c : Cache) (now : Int) (e : Entry) : Bool := now < e.fetched + c.lifetime

/-- The schema that a look-up gives at a time. -/
def fresh? (c : Cache) (now : Int) (url : String) : Option Schema :=
  match c.entries.find? url with
  | some e => if c.isFresh now e then some e.schema else none
  | none => none

/-- It is that of an entry, if that is fresh. -/
theorem fresh?_eq_some {c : Cache} {now : Int} {url : String} {s : Schema} :
    c.fresh? now url = some s ↔
      ∃ e, c.entries.find? url = some e ∧ e.schema = s ∧ now < e.fetched + c.lifetime := by
  unfold fresh?
  cases c.entries.find? url with
  | none => simp
  | some e => simp [isFresh, and_comm]

/-- Looks an address up: a hit leaves the entries alone, and an entry that
is no longer fresh is dropped and counts as a miss. -/
def find (c : Cache) (now : Int) (url : String) : Option Schema × Cache :=
  match c.entries.find? url with
  | none => (none, { c with counters.misses := c.counters.misses + 1 })
  | some e =>
    if c.isFresh now e then
      (some e.schema, { c with counters.hits := c.counters.hits + 1 })
    else
      (none, { c with
        entries := c.entries.erase url
        counters.misses := c.counters.misses + 1
        counters.evictions := c.counters.evictions + 1 })

/-- What a look-up gives is what is fresh. -/
theorem find_fst (c : Cache) (now : Int) (url : String) :
    (c.find now url).1 = c.fresh? now url := by
  unfold find fresh?
  cases c.entries.find? url with
  | none => rfl
  | some e => by_cases h : c.isFresh now e <;> simp [h]

/-- A look-up leaves the entries, but for one that is not fresh at its
address. -/
theorem entries_find (c : Cache) (now : Int) (url other : String) :
    (c.find now url).2.entries.find? other =
      if other = url ∧ c.fresh? now url = none then none else c.entries.find? other := by
  unfold find fresh?
  cases hentry : c.entries.find? url with
  | none =>
    by_cases hother : other = url
    · rw [if_pos ⟨hother, rfl⟩, hother]
      exact hentry
    · rw [if_neg (hother ·.1)]
  | some e =>
    by_cases hfresh : c.isFresh now e = true
    · simp only [if_pos hfresh, reduceCtorEq, and_false, if_false]
    · simp only [if_neg hfresh, and_true]
      exact Entries.find?_erase ..

/-- A look-up leaves the time to live. -/
theorem lifetime_find (c : Cache) (now : Int) (url : String) :
    (c.find now url).2.lifetime = c.lifetime := by
  unfold find
  cases c.entries.find? url with
  | none => rfl
  | some e => by_cases h : c.isFresh now e <;> simp [h]

/-- Counts a fetch. -/
def countFetch (c : Cache) : Cache := { c with counters.fetches := c.counters.fetches + 1 }

/-- Keeps a schema that was fetched at a time, if there is a date at which
it ceases to be fresh. -/
def keep? (c : Cache) (now : Int) (url : String) (s : Schema) : Option Cache :=
  if Calendar.hasDate (now + c.lifetime) then
    some { c with entries := c.entries.insert url ⟨s, now⟩ }
  else none

/-- Drops everything and counts anew. -/
def clear (c : Cache) : Cache := { c with entries := .nil, counters := .zero }

end Cache

end Schema

end PromptTemplate
