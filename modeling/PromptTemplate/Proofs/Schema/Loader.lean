import PromptTemplate.Proofs.Outcome
import PromptTemplate.Session
/-!
# PromptTemplate — the cache does not show

Loading an address that has passed is one of two things: a look-up of what
is fresh (`loadPassed_of_fresh`), or a request (`loadPassed_of_stale`).
What a request leaves is `Refetched`: it breaks off if a schema comes that
would be fresh beyond the last date.

Whatever every schema that a source gives is like, the schemas in the cache
are like that too, as long as nothing is put there by hand: `Holds` of such
a property is kept by every load and every action (`Holds.perform`), so by
whole sessions.

A source that answers every address always in the same way cannot be told
from its cache. `Faithful` is the property to that end: every entry of the
shelf is what the source gives. On a faithful shelf loading has the outcome
that it would have without a cache (`load_spec`), whatever the clock says
and whatever has been loaded before, and sessions keep shelves faithful
(`faithful_after`).
-/

namespace PromptTemplate

namespace Schema

variable {p : Policy} {source : Source} {base : Option String} {shelf : Shelf}
  {P : String → Schema → Prop}

/-! ## Keeping a schema -/

/-- There is a date at which a schema ceases to be fresh that was fetched at
a time. -/
def LastsFrom (lifetime fetched : Int) : Prop := Calendar.hasDate (fetched + lifetime) = true

instance (lifetime fetched : Int) : Decidable (LastsFrom lifetime fetched) :=
  inferInstanceAs (Decidable (_ = _))

namespace Shelf

/-- A schema that is fetched now lasts. -/
def Lasts (shelf : Shelf) : Prop := LastsFrom shelf.cache.lifetime shelf.now

instance (shelf : Shelf) : Decidable shelf.Lasts := inferInstanceAs (Decidable (LastsFrom _ _))

/-- The entry of a schema that is fetched now. -/
def entry? (shelf : Shelf) (s : Schema) : Option Entry :=
  if shelf.Lasts then some ⟨s, shelf.now⟩ else none

theorem entry?_eq_some {s : Schema} {e : Entry} :
    shelf.entry? s = some e ↔ shelf.Lasts ∧ e = ⟨s, shelf.now⟩ := by
  unfold entry?
  split
  · rename_i h
    simp [h, eq_comm]
  · rename_i h
    simp [h]

/-- A schema that lasts is kept, -/
theorem keep_of_lasts (h : shelf.Lasts) (url : String) (s : Schema) :
    shelf.keep url s =
      { shelf with cache.entries := shelf.cache.entries.insert url ⟨s, shelf.now⟩ } := by
  unfold Lasts LastsFrom at h
  rw [keep, Cache.keep?, if_pos h]

/-- and else nothing is, and the call breaks off. -/
theorem keep_of_not_lasts (h : ¬ shelf.Lasts) (url : String) (s : Schema) :
    shelf.keep url s = { shelf with breaks := shelf.breaks + 1 } := by
  unfold Lasts LastsFrom at h
  rw [keep, Cache.keep?, if_neg h]

end Shelf

/-! ## Loading what has passed -/

/-- The shelf on which a source is asked for an address. -/
def asked (url : String) (shelf : Shelf) : Shelf :=
  ⟨(shelf.cache.find shelf.now url).2.countFetch, shelf.now, shelf.fetched ++ [url], shelf.breaks⟩

/-- The shelf behind a request: what the source gives is kept. -/
def refetched (source : Source) (url : String) (shelf : Shelf) : Shelf :=
  match fetch source url with
  | .error _ => asked url shelf
  | .ok s => (asked url shelf).keep url s

/-- **An address that has passed** is looked up in the cache if that is
fresh, -/
theorem loadPassed_of_fresh {url : String} {s : Schema}
    (h : shelf.cache.fresh? shelf.now url = some s) (source : Source) :
    loadPassed source url shelf =
      (.ok s, { shelf with cache := (shelf.cache.find shelf.now url).2 }) := by
  rw [← Cache.find_fst] at h
  rw [loadPassed]
  rcases hfind : shelf.cache.find shelf.now url with ⟨found, cache⟩
  rw [hfind] at h
  obtain rfl : found = some s := h
  rfl

/-- and had from the source with one request if it is not. -/
theorem loadPassed_of_stale {url : String} (h : shelf.cache.fresh? shelf.now url = none)
    (source : Source) :
    loadPassed source url shelf = (fetch source url, refetched source url shelf) := by
  rw [← Cache.find_fst] at h
  rw [loadPassed, refetched, asked]
  rcases hfind : shelf.cache.find shelf.now url with ⟨found, cache⟩
  rw [hfind] at h
  obtain rfl : found = none := h
  cases fetch source url with
  | error fault => rfl
  | ok s => rfl

theorem lasts_asked (url : String) (shelf : Shelf) : (asked url shelf).Lasts ↔ shelf.Lasts := by
  have hlifetime : (asked url shelf).cache.lifetime = shelf.cache.lifetime :=
    shelf.cache.lifetime_find shelf.now url
  unfold Shelf.Lasts
  rw [hlifetime]
  rfl

/-- **What a request leaves:** under its address the schema that came, if one
came and it lasts, and nothing else is changed. If one came that does not
last, the request breaks off. -/
structure Refetched (source : Source) (url : String) (shelf left : Shelf) : Prop where
  find? (other : String) : left.cache.entries.find? other =
    if other = url then (fetch source url).toOption.bind shelf.entry?
    else shelf.cache.entries.find? other
  lifetime : left.cache.lifetime = shelf.cache.lifetime
  now : left.now = shelf.now
  fetched : left.fetched = shelf.fetched ++ [url]
  breaks : left.breaks = shelf.breaks +
    if (fetch source url).isOk ∧ ¬ shelf.Lasts then 1 else 0

theorem refetched_spec {url : String} (h : shelf.cache.fresh? shelf.now url = none)
    (source : Source) : Refetched source url shelf (refetched source url shelf) := by
  have hlifetime : (asked url shelf).cache.lifetime = shelf.cache.lifetime :=
    shelf.cache.lifetime_find shelf.now url
  have hentries (other : String) : (asked url shelf).cache.entries.find? other =
      if other = url then none else shelf.cache.entries.find? other := by
    have hfind := shelf.cache.entries_find shelf.now url other
    simp only [h, and_true] at hfind
    exact hfind
  unfold refetched
  cases hfetch : fetch source url with
  | error fault =>
    refine ⟨fun other => ?_, hlifetime, rfl, rfl, ?_⟩
    · rw [hentries, hfetch]
      rfl
    · rw [hfetch, if_neg (Bool.false_ne_true ·.1)]
      rfl
  | ok s =>
    dsimp only
    by_cases hlasts : shelf.Lasts
    · rw [Shelf.keep_of_lasts ((lasts_asked url shelf).2 hlasts)]
      refine ⟨fun other => ?_, hlifetime, rfl, rfl, ?_⟩
      · rw [hfetch]
        show (Table.insert (asked url shelf).cache.entries url ⟨s, shelf.now⟩).find? other = _
        rw [Table.find?_insert, hentries]
        by_cases hother : other = url
        · rw [if_pos hother, if_pos hother]
          exact (Shelf.entry?_eq_some.2 ⟨hlasts, rfl⟩).symm
        · rw [if_neg hother, if_neg hother, if_neg hother]
      · rw [if_neg (·.2 hlasts)]
        rfl
    · rw [Shelf.keep_of_not_lasts (mt (lasts_asked url shelf).1 hlasts)]
      refine ⟨fun other => ?_, hlifetime, rfl, rfl, ?_⟩
      · rw [hfetch]
        have hnone : shelf.entry? s = none := if_neg hlasts
        rw [show (Except.ok s : Except Fault Schema).toOption.bind shelf.entry? = none from hnone]
        exact hentries other
      · rw [hfetch, if_pos ⟨rfl, hlasts⟩]
        rfl

/-! ## Loading one after another -/

/-- Loading every schema that can be had begins with the first one and goes
on with the rest. -/
theorem loadEach_cons (address : String) (rest : List String) :
    loadEach p source base (address :: rest) shelf =
      ((load p source base address shelf).1 ::
          (loadEach p source base rest (load p source base address shelf).2).1,
        shelf.goOn (load p source base address shelf).2
          (loadEach p source base rest (load p source base address shelf).2).2) := by
  rw [loadEach]

/-- So does loading up to the first that cannot be had, if the first can be
had, -/
theorem loadAll_cons_of_ok {address : String} {s : Schema}
    (h : (load p source base address shelf).1 = .ok s) (rest : List String) :
    loadAll p source base (address :: rest) shelf =
      ((loadAll p source base rest (load p source base address shelf).2).1.map (s :: ·),
        shelf.goOn (load p source base address shelf).2
          (loadAll p source base rest (load p source base address shelf).2).2) := by
  rw [loadAll]
  rcases hload : load p source base address shelf with ⟨outcome, left⟩
  rw [hload] at h
  cases h
  rcases hall : loadAll p source base rest left with ⟨fault | ss, last⟩
  · simp only [hall, Except.map]
  · simp only [hall, Except.map]

/-- and else it ends there. -/
theorem loadAll_cons_of_error {address : String} {fault : Fault}
    (h : (load p source base address shelf).1 = .error fault) (rest : List String) :
    loadAll p source base (address :: rest) shelf =
      (.error fault, (load p source base address shelf).2) := by
  rw [loadAll]
  rcases hload : load p source base address shelf with ⟨outcome, left⟩
  rw [hload] at h
  cases h
  rfl

/-! ## What is held -/

/-- Every schema in the cache has a property under its address. -/
def Holds (P : String → Schema → Prop) (shelf : Shelf) : Prop :=
  ∀ url e, shelf.cache.entries.find? url = some e → P url e.schema

/-- All schemas that a source gives have a property under their
addresses. -/
def Gives (source : Source) (P : String → Schema → Prop) : Prop :=
  ∀ url s, fetch source url = .ok s → P url s

/-- Nothing is held at first. -/
theorem holds_opened (lifetime now : Int) : Holds P (.opened lifetime now) := by
  intro url e he
  cases he

/-- What is fresh is held. -/
theorem Holds.of_fresh {url : String} {s : Schema} (h : Holds P shelf)
    (hs : shelf.cache.fresh? shelf.now url = some s) : P url s := by
  obtain ⟨e, he, rfl, -⟩ := Cache.fresh?_eq_some.1 hs
  exact h url e he

/-- Looking an address up at most takes a stale entry out. -/
theorem Holds.find (h : Holds P shelf) (url : String) :
    Holds P { shelf with cache := (shelf.cache.find shelf.now url).2 } := by
  intro other e he
  rw [Cache.entries_find] at he
  split at he
  · cases he
  · exact h other e he

theorem Holds.loadPassed (h : Holds P shelf) (hgives : Gives source P) (url : String) :
    Holds P (loadPassed source url shelf).2 := by
  cases hfresh : shelf.cache.fresh? shelf.now url with
  | some s =>
    rw [loadPassed_of_fresh hfresh]
    exact h.find url
  | none =>
    rw [loadPassed_of_stale hfresh]
    intro other e he
    rw [(refetched_spec hfresh source).find?] at he
    split at he
    · rename_i hother
      obtain ⟨s, hs, hentry⟩ := Option.bind_eq_some_iff.1 he
      obtain ⟨-, rfl⟩ := Shelf.entry?_eq_some.1 hentry
      rw [hother]
      exact hgives url s (Outcome.toOption_eq_some.1 hs)
    · exact h other e he

/-- **Loading a schema** keeps what is held, -/
theorem Holds.load (h : Holds P shelf) (hgives : Gives source P) (address : String) :
    Holds P (load p source base address shelf).2 := by
  unfold Schema.load
  cases Vetting.checkAddress p (Url.resolved base address) with
  | error violation => exact h
  | ok u => exact h.loadPassed hgives u.text

/-- A call that goes on keeps what its parts do. -/
theorem Holds.goOn {left last : Shelf} (h : Holds P left) (h' : Holds P last) (shelf : Shelf) :
    Holds P (shelf.goOn left last) := by
  by_cases hbreaks : shelf.BreaksOff left
  · rwa [Shelf.goOn_of_breaksOff hbreaks]
  · rwa [Shelf.goOn_of_not_breaksOff hbreaks]

/-- loading every schema that can be had does, -/
theorem Holds.loadEach (h : Holds P shelf) (hgives : Gives source P) (addresses : List String) :
    Holds P (loadEach p source base addresses shelf).2 := by
  induction addresses generalizing shelf with
  | nil => exact h
  | cons address rest ih =>
    have hfirst : Holds P (Schema.load p source base address shelf).2 := h.load hgives address
    have hrest := ih hfirst
    rw [loadEach_cons]
    dsimp only
    exact hfirst.goOn hrest shelf

/-- and so does loading up to the first that cannot be had. -/
theorem Holds.loadAll (h : Holds P shelf) (hgives : Gives source P) (addresses : List String) :
    Holds P (loadAll p source base addresses shelf).2 := by
  induction addresses generalizing shelf with
  | nil => exact h
  | cons address rest ih =>
    have hfirst : Holds P (Schema.load p source base address shelf).2 := h.load hgives address
    cases hload : (Schema.load p source base address shelf).1 with
    | error fault =>
      rw [loadAll_cons_of_error hload]
      dsimp only
      exact hfirst
    | ok s =>
      have hrest := ih hfirst
      rw [loadAll_cons_of_ok hload]
      dsimp only
      exact hfirst.goOn hrest shelf

/-! ## Faithful shelves -/

/-- **The invariant:** every entry of the cache is what the source gives
for its address. -/
def Faithful (source : Source) (shelf : Shelf) : Prop :=
  ∀ url e, shelf.cache.entries.find? url = some e → fetch source url = .ok e.schema

/-- It is held that a schema is what the source gives. -/
theorem faithful_iff_holds :
    Faithful source shelf ↔ Holds (fun url s => fetch source url = .ok s) shelf :=
  Iff.rfl

theorem gives_self (source : Source) : Gives source fun url s => fetch source url = .ok s :=
  fun _ _ h => h

/-- The outcome of loading a schema without a cache. -/
def direct (p : Policy) (source : Source) (base : Option String) (address : String) :
    Except Fault Schema :=
  match Vetting.checkAddress p (Url.resolved base address) with
  | .error violation => .error (.security violation)
  | .ok u => fetch source u.text

theorem faithful_opened (source : Source) (lifetime now : Int) :
    Faithful source (.opened lifetime now) :=
  faithful_iff_holds.2 (holds_opened lifetime now)

/-- A passed address is loaded as the source has it. -/
theorem loadPassed_fst (h : Faithful source shelf) (url : String) :
    (loadPassed source url shelf).1 = fetch source url := by
  cases hfresh : shelf.cache.fresh? shelf.now url with
  | some s =>
    rw [loadPassed_of_fresh hfresh]
    exact (Holds.of_fresh (faithful_iff_holds.1 h) hfresh).symm
  | none => rw [loadPassed_of_stale hfresh]

/-- **Loading a schema** has the outcome that it has without a cache, and
keeps the shelf faithful. -/
theorem load_spec (h : Faithful source shelf) (address : String) :
    (load p source base address shelf).1 = direct p source base address ∧
      Faithful source (load p source base address shelf).2 := by
  refine ⟨?_, Holds.load (faithful_iff_holds.1 h) (gives_self source) address⟩
  unfold load direct
  cases Vetting.checkAddress p (Url.resolved base address) with
  | error violation => rfl
  | ok u => exact loadPassed_fst h u.text

/-- Loading every schema that can be had has their outcomes without a
cache. -/
theorem loadEach_spec (h : Faithful source shelf) (addresses : List String) :
    (loadEach p source base addresses shelf).1 = addresses.map (direct p source base) ∧
      Faithful source (loadEach p source base addresses shelf).2 := by
  refine ⟨?_, Holds.loadEach (faithful_iff_holds.1 h) (gives_self source) addresses⟩
  induction addresses generalizing shelf with
  | nil => rfl
  | cons address rest ih =>
    obtain ⟨houtcome, hload⟩ := @load_spec p source base shelf h address
    rw [loadEach_cons, List.map_cons, houtcome, ih hload]

/-- Schemas are all loaded if each can be had without a cache. -/
theorem loadAll_of_direct {addresses : List String} {ss : List Schema} (h : Faithful source shelf)
    (hdirect : addresses.map (direct p source base) = ss.map .ok) :
    (loadAll p source base addresses shelf).1 = .ok ss := by
  induction addresses generalizing shelf ss with
  | nil =>
    obtain rfl : ss = [] := by simpa using hdirect
    rfl
  | cons address rest ih =>
    -- there are as many schemas as addresses
    obtain ⟨s, ss, rfl⟩ : ∃ s ss', ss = s :: ss' := by
      cases ss with
      | nil => cases hdirect
      | cons s ss => exact ⟨s, ss, rfl⟩
    simp only [List.map_cons, List.cons.injEq] at hdirect
    obtain ⟨hs, hrest⟩ := hdirect
    obtain ⟨houtcome, hload⟩ := @load_spec p source base shelf h address
    rw [loadAll_cons_of_ok (houtcome.trans hs), ih hload hrest]
    rfl

end Schema

/-! ## Sessions -/

/-- Whether an action puts something into the cache by hand. -/
def Action.stores : Action → Bool
  | .store .. => true
  | _ => false

namespace Session

open Schema

variable {source : Source} {shelf : Shelf} {P : String → Schema → Prop}

/-- **An action keeps what is held,** unless it stores something by hand. -/
theorem Holds.perform {a : Action} (h : Holds P shelf) (hgives : Gives source P)
    (ha : a.stores = false) : Holds P (perform source shelf a).2 := by
  cases a with
  | load p base address =>
    rw [Session.perform, Prod.map_snd, id]
    exact h.load hgives address
  | loadAll p base addresses =>
    rw [Session.perform, Prod.map_snd, id]
    exact h.loadAll hgives addresses
  | compile p base doc supplied =>
    rw [Session.perform, Prod.map_snd, id, Compile.compile]
    split
    · exact h
    · rename_i template vars _
      have hload : Holds P (Schema.loadAll p source base template.extensions shelf).2 :=
        h.loadAll hgives template.extensions
      split
      · rename_i heq
        rw [heq] at hload
        exact hload
      · rename_i heq
        rw [heq] at hload
        exact hload
  | validate p base doc =>
    rw [Session.perform, Prod.map_snd, id, Compile.validate]
    dsimp only
    split
    · split
      · exact h
      · rename_i template _
        exact h.loadEach hgives template.extensions
    · exact h
  | lookUp url => exact h.find url
  | store url body => cases ha
  | clear =>
    intro url e he
    cases he
  | wait | setClock =>
    unfold Schema.Holds
    rw [Session.perform, Shelf.cache_setClock]
    exact h

/-- **A session keeps a shelf faithful** if it stores nothing by hand. -/
theorem faithful_after {actions : List Action} (h : Faithful source shelf)
    (hactions : ∀ a ∈ actions, a.stores = false) :
    Faithful source (after source shelf actions) := by
  induction actions generalizing shelf with
  | nil => exact h
  | cons a rest ih =>
    rw [List.forall_mem_cons] at hactions
    exact ih (Holds.perform (faithful_iff_holds.1 h) (gives_self source) hactions.1) hactions.2

/-- A shelf that a session leads to from an empty one, without anything
stored by hand. -/
def Reached (source : Source) (shelf : Shelf) : Prop :=
  ∃ lifetime now actions, (∀ a ∈ actions, a.stores = false) ∧
    shelf = after source (.opened lifetime now) actions

theorem reached_opened (source : Source) (lifetime now : Int) :
    Reached source (.opened lifetime now) :=
  ⟨lifetime, now, [], by simp, rfl⟩

theorem reached_start (source : Source) (ttl now : Int) : Reached source (.start ttl now) :=
  reached_opened source (ttl * 1000) now

/-- Every shelf that sessions lead to is faithful. -/
theorem Reached.faithful (h : Reached source shelf) : Faithful source shelf := by
  obtain ⟨lifetime, now, actions, hactions, rfl⟩ := h
  exact faithful_after (faithful_opened source lifetime now) hactions

end Session

end PromptTemplate
