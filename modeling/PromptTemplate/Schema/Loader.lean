import PromptTemplate.Schema.Cache
import PromptTemplate.Vetting.Address
/-!
# PromptTemplate — loading schemas

A schema is loaded by its address: the address is taken as it is meant
under a base and must pass the policy; then the cache is asked, and only
if it has nothing fresh the source. What the source gives is kept only if
it is a schema. `Shelf` is all that loading changes: the cache, the time,
and the addresses that the source has been asked for.

A call breaks off where it comes to a time without a date: it does not
return, and leaves the shelf as it is then. `Shelf.breaks` counts these
calls, so whether a call breaks off is seen from what it leaves
(`BreaksOff`). Outcomes are those of calls that return; for one that breaks
off the outcome is what it would have come to.
-/

namespace PromptTemplate

namespace Schema

/-- Where bodies of schemas come from: for every address the body, or the
reason why there is none. -/
def Source : Type := String → Except String Value

/-- The cache, the time of the clock, the addresses that have been fetched,
and the number of calls that have broken off. -/
structure Shelf where
  cache : Cache
  now : Int
  fetched : List String
  breaks : Nat

namespace Shelf

/-- An empty cache at a time, whose entries are fresh for a while. -/
def opened (lifetime now : Int) : Shelf := ⟨.empty lifetime, now, [], 0⟩

/-- An empty cache at a time, with a time to live in seconds. -/
def start (ttl now : Int) : Shelf := .opened (ttl * 1000) now

/-- A call that finds a shelf and leaves another one breaks off. -/
def BreaksOff (shelf left : Shelf) : Prop := shelf.breaks < left.breaks

instance (shelf left : Shelf) : Decidable (shelf.BreaksOff left) :=
  inferInstanceAs (Decidable (_ < _))

/-- A call that leaves the count of these calls as it is does not. -/
theorem not_breaksOff {shelf left : Shelf} (h : left.breaks = shelf.breaks) :
    ¬ shelf.BreaksOff left :=
  fun hlt => Nat.ne_of_gt hlt h

/-- What a call leaves that has come from one shelf to another, and would go
on to a last one: it does not go on if it has broken off. -/
def goOn (shelf left last : Shelf) : Shelf := if shelf.BreaksOff left then left else last

theorem goOn_of_breaksOff {shelf left : Shelf} (h : shelf.BreaksOff left) (last : Shelf) :
    shelf.goOn left last = left := by
  rw [goOn, if_pos h]

theorem goOn_of_not_breaksOff {shelf left : Shelf} (h : ¬ shelf.BreaksOff left) (last : Shelf) :
    shelf.goOn left last = last := by
  rw [goOn, if_neg h]

/-- Keeps a schema that has just been fetched, or breaks off. -/
def keep (shelf : Shelf) (url : String) (s : Schema) : Shelf :=
  match shelf.cache.keep? shelf.now url s with
  | some cache => { shelf with cache := cache }
  | none => { shelf with breaks := shelf.breaks + 1 }

@[simp] theorem fetched_keep (shelf : Shelf) (url : String) (s : Schema) :
    (shelf.keep url s).fetched = shelf.fetched := by
  unfold keep
  split
  · rfl
  · rfl

/-- Sets the clock to a time, or breaks off if that has no date. -/
def setClock (shelf : Shelf) (time : Int) : Shelf :=
  if Calendar.hasDate time then { shelf with now := time }
  else { shelf with breaks := shelf.breaks + 1 }

@[simp] theorem cache_setClock (shelf : Shelf) (time : Int) :
    (shelf.setClock time).cache = shelf.cache := by
  unfold setClock
  split
  · rfl
  · rfl

@[simp] theorem fetched_setClock (shelf : Shelf) (time : Int) :
    (shelf.setClock time).fetched = shelf.fetched := by
  unfold setClock
  split
  · rfl
  · rfl

end Shelf

/-- Fetches the body under an address and reads it. -/
def fetch (source : Source) (url : String) : Except Fault Schema :=
  match source url with
  | .error reason => .error (.schema url reason)
  | .ok body =>
    match ofBody url body with
    | .error defect => .error (.schema url defect.message)
    | .ok s => .ok s

/-- Loads the schema under an address that has passed. -/
def loadPassed (source : Source) (url : String) (shelf : Shelf) : Except Fault Schema × Shelf :=
  match shelf.cache.find shelf.now url with
  | (some s, cache) => (.ok s, { shelf with cache := cache })
  | (none, cache) =>
    let shelf := ⟨cache.countFetch, shelf.now, shelf.fetched ++ [url], shelf.breaks⟩
    match fetch source url with
    | .error fault => (.error fault, shelf)
    | .ok s => (.ok s, shelf.keep url s)

/-- Loads the schema under an address as it is meant under a base. -/
def load (p : Policy) (source : Source) (base : Option String) (address : String)
    (shelf : Shelf) : Except Fault Schema × Shelf :=
  match Vetting.checkAddress p (Url.resolved base address) with
  | .error violation => (.error (.security violation), shelf)
  | .ok u => loadPassed source u.text shelf

/-- Loads schemas one after another, up to the first that cannot be had. -/
def loadAll (p : Policy) (source : Source) (base : Option String) :
    List String → Shelf → Except Fault (List Schema) × Shelf
  | [], shelf => (.ok [], shelf)
  | address :: rest, shelf =>
    match load p source base address shelf with
    | (.error fault, left) => (.error fault, left)
    | (.ok s, left) =>
      match loadAll p source base rest left with
      | (.error fault, last) => (.error fault, shelf.goOn left last)
      | (.ok ss, last) => (.ok (s :: ss), shelf.goOn left last)

/-- Loads every schema that can be had, and gives the outcome for each. -/
def loadEach (p : Policy) (source : Source) (base : Option String) :
    List String → Shelf → List (Except Fault Schema) × Shelf
  | [], shelf => ([], shelf)
  | address :: rest, shelf =>
    let (outcome, left) := load p source base address shelf
    let (outcomes, last) := loadEach p source base rest left
    (outcome :: outcomes, shelf.goOn left last)

end Schema

end PromptTemplate
