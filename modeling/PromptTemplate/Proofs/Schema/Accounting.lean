import PromptTemplate.Proofs.Schema.Access
import PromptTemplate.Proofs.Table
/-!
# PromptTemplate — the books of a cache

A cache counts its hits and misses, the entries it drops and the requests
behind it. `Balanced` compares these counters with what is seen of the
loads from outside: which of them pass the policy of their loader, what
their sources are asked for, and which of them store what came.

An entry is only ever kept behind a look-up that has left its address
empty (`Missed`), so no schema is stored over another one, and each that
has been stored is still there or has been dropped: this makes the sum of
entries and evictions a count of the stores. Loads keep the balance
(`Balanced.perform`), so requests do, and clearing starts the books anew;
`books_balance` is what comes of it for whole histories.
-/

namespace PromptTemplate

namespace Schema

/-! ## What a load counts -/

/-- What a look-up in vain leaves: nothing under its address, one more
miss, and one more eviction for an entry that has gone. -/
structure Cache.Missed (c c' : Cache) (url : String) : Prop where
  find? : c'.entries.find? url = none
  hits : c'.counters.hits = c.counters.hits
  misses : c'.counters.misses = c.counters.misses + 1
  fetches : c'.counters.fetches = c.counters.fetches
  kept : c'.entries.size + c'.counters.evictions = c.entries.size + c.counters.evictions

namespace Cache

variable {c : Cache} {now : Int} {url : String}

/-- A look-up of what is fresh counts a hit. -/
theorem find_of_fresh {s : Schema} (h : c.fresh? now url = some s) :
    (c.find now url).2 = { c with counters.hits := c.counters.hits + 1 } := by
  unfold fresh? at h
  unfold find
  split at h
  · rename_i e hentry
    split at h
    · rename_i hfresh
      rw [hentry]
      exact congrArg Prod.snd (if_pos hfresh)
    · cases h
  · cases h

/-- A look-up of what is not fresh counts a miss. -/
theorem missed_of_stale (h : c.fresh? now url = none) : c.Missed (c.find now url).2 url := by
  have hgone : (c.find now url).2.entries.find? url = none := by
    rw [entries_find, if_pos ⟨rfl, h⟩]
  unfold fresh? at h
  unfold find at hgone ⊢
  cases hentry : c.entries.find? url with
  | none =>
    rw [hentry] at hgone
    exact ⟨hgone, rfl, rfl, rfl, rfl⟩
  | some e =>
    rw [hentry] at h hgone
    have hstale : ¬ c.isFresh now e = true := by
      intro hfresh
      simp [hfresh] at h
    simp only [if_neg hstale] at hgone ⊢
    refine ⟨hgone, rfl, rfl, rfl, ?_⟩
    -- the entry that has gone is counted
    have hsize := Entries.size_erase hentry
    show (c.entries.erase url).size + (c.counters.evictions + 1) = _
    omega

end Cache

namespace Seen

/-- The address of a load passes the policy of its loader. -/
def passes (o : Seen) : Bool :=
  (Vetting.checkAddress o.call.policy (Url.resolved o.call.base o.call.address)).isOk

/-- A load stores a schema: its source is asked for it, and it comes and is
given. -/
def stores (o : Seen) : Bool := !o.requests.isEmpty && o.outcome.any Except.isOk

/-- A load that asks for nothing stores nothing. -/
theorem stores_of_quiet {o : Seen} (h : o.requests = []) : o.stores = false := by
  rw [stores, h]
  rfl

end Seen

variable {source : Source} {shelf : Shelf} {c : Call} {u : Url} {seen : List Seen}

namespace Call

/-- What a load comes to: its address is refused, or it is fresh, or it is
asked for. -/
inductive Effect (c : Call) (source : Source) (shelf : Shelf) : Prop
  | refused (hpasses : (c.seen source shelf).passes = false)
      (hseen : c.seen source shelf = ⟨c, [], some (c.perform source shelf).1⟩)
      (hleft : (c.perform source shelf).2.cache = shelf.cache)
  | served {url : String} {s : Schema} (hpasses : (c.seen source shelf).passes = true)
      (hseen : c.seen source shelf = ⟨c, [], some (.ok s)⟩)
      (hfresh : shelf.cache.fresh? shelf.now url = some s)
      (hleft : (c.perform source shelf).2.cache = (shelf.cache.find shelf.now url).2)
  | requested {url : String} (hpasses : (c.seen source shelf).passes = true)
      (hseen : c.seen source shelf = ⟨c, [url],
        if (fetch source url).isOk ∧ ¬ shelf.Lasts then none else some (fetch source url)⟩)
      (hstale : shelf.cache.fresh? shelf.now url = none)
      (hleft : (c.perform source shelf).2 = refetched source url shelf)

theorem effect (c : Call) (source : Source) (shelf : Shelf) : c.Effect source shelf := by
  cases hcheck : Vetting.checkAddress c.policy (Url.resolved c.base c.address) with
  | error violation =>
    have hperform : c.perform source shelf = (.error (.security violation), shelf) := by
      simp only [perform, load, hcheck]
    have hreturns : ¬ shelf.BreaksOff (c.perform source shelf).2 :=
      Shelf.not_breaksOff (by rw [hperform])
    refine .refused ?_ ?_ ?_
    · simp [Seen.passes, seen, hcheck, Except.isOk, Except.toBool]
    · rw [seen, if_neg hreturns, hperform]
      simp only [List.drop_length]
    · rw [hperform]
  | ok u =>
    have hpasses : (c.seen source shelf).passes = true := by
      simp [Seen.passes, seen, hcheck, Except.isOk, Except.toBool]
    have hperform : c.perform source shelf = loadPassed source u.text shelf := by
      simp only [perform, load, hcheck]
    cases hfresh : shelf.cache.fresh? shelf.now u.text with
    | some s =>
      rw [loadPassed_of_fresh hfresh] at hperform
      have hreturns : ¬ shelf.BreaksOff (c.perform source shelf).2 :=
        Shelf.not_breaksOff (by rw [hperform])
      refine .served hpasses ?_ hfresh (by rw [hperform])
      rw [seen, if_neg hreturns, hperform]
      simp only [List.drop_length]
    | none =>
      rw [loadPassed_of_stale hfresh] at hperform
      have hleft := refetched_spec hfresh source
      refine .requested hpasses ?_ hfresh (by rw [hperform])
      simp only [seen, hperform, hleft.fetched, hleft.breaksOff_iff, List.drop_left]

end Call

/-- What a request leaves is what the look-up in front of it leaves, with
one more fetch, and with the schema that came, if one came and lasts. -/
theorem counters_refetched {url : String} (h : shelf.cache.fresh? shelf.now url = none)
    (source : Source) :
    let left := (refetched source url shelf).cache
    left.counters.hits = shelf.cache.counters.hits ∧
      left.counters.misses = shelf.cache.counters.misses + 1 ∧
      left.counters.fetches = shelf.cache.counters.fetches + 1 ∧
      left.entries.size + left.counters.evictions =
        shelf.cache.entries.size + shelf.cache.counters.evictions +
          if (fetch source url).isOk ∧ shelf.Lasts then 1 else 0 := by
  have hmissed := Cache.missed_of_stale h
  have hfetches := congrArg (· + 1) hmissed.fetches
  unfold refetched
  cases fetch source url with
  | error fault => exact ⟨hmissed.hits, hmissed.misses, hfetches, hmissed.kept⟩
  | ok s =>
    dsimp only
    by_cases hlasts : shelf.Lasts
    · rw [Shelf.keep_of_lasts ((lasts_asked url shelf).2 hlasts), if_pos ⟨rfl, hlasts⟩]
      refine ⟨hmissed.hits, hmissed.misses, hfetches, ?_⟩
      -- the look-up has left the address empty, so that the entry is a new one
      have hgone : (asked url shelf).cache.entries.find? url = none := hmissed.find?
      have hsize := Table.size_insert (asked url shelf).cache.entries url ⟨s, shelf.now⟩
      rw [hgone, Option.isSome_none, if_neg Bool.false_ne_true] at hsize
      have hkept : (asked url shelf).cache.entries.size + (asked url shelf).cache.counters.evictions =
        shelf.cache.entries.size + shelf.cache.counters.evictions := hmissed.kept
      show (Table.insert (asked url shelf).cache.entries url ⟨s, shelf.now⟩).size +
        (asked url shelf).cache.counters.evictions = _
      omega
    · rw [Shelf.keep_of_not_lasts (mt (lasts_asked url shelf).1 hlasts), if_neg (hlasts ·.2)]
      exact ⟨hmissed.hits, hmissed.misses, hfetches, hmissed.kept⟩

/-! ## The balance -/

/-- **The books balance:** every load that passes the policy is a hit or a
miss, every miss is a fetch and a request, and what has been stored is an
entry or has been dropped. -/
structure Balanced (c : Cache) (seen : List Seen) : Prop where
  lookUps : c.counters.hits + c.counters.misses = seen.countP Seen.passes
  misses : c.counters.fetches = c.counters.misses
  requests : c.counters.fetches = (seen.flatMap Seen.requests).length
  stores : c.entries.size + c.counters.evictions = seen.countP Seen.stores

/-- A cache without entries that has counted nothing is balanced. -/
theorem Balanced.cleared (c : Cache) : Balanced c.clear [] := ⟨rfl, rfl, rfl, rfl⟩

/-- **A load keeps the balance,** -/
theorem Balanced.perform (h : Balanced shelf.cache seen) (c : Call) (source : Source) :
    Balanced (c.perform source shelf).2.cache (seen ++ [c.seen source shelf]) := by
  obtain ⟨hlookUps, hmisses, hrequests, hstores⟩ := h
  cases c.effect source shelf with
  | refused hpasses hseen hleft =>
    have hnone : (c.seen source shelf).requests = [] := by rw [hseen]
    have hstored := Seen.stores_of_quiet hnone
    rw [hleft]
    refine ⟨?_, hmisses, ?_, ?_⟩
    · simpa [hpasses] using hlookUps
    · simpa [hnone] using hrequests
    · simpa [hstored] using hstores
  | served hpasses hseen hfresh hleft =>
    have hnone : (c.seen source shelf).requests = [] := by rw [hseen]
    have hstored := Seen.stores_of_quiet hnone
    rw [hleft, Cache.find_of_fresh hfresh]
    refine ⟨?_, hmisses, ?_, ?_⟩
    · simp [hpasses]
      omega
    · simpa [hnone] using hrequests
    · simpa [hstored] using hstores
  | @requested url hpasses hseen hstale hleft =>
    have hstored : (c.seen source shelf).stores =
        decide ((fetch source url).isOk ∧ shelf.Lasts) := by
      rw [hseen, Seen.stores]
      by_cases hlasts : shelf.Lasts <;> cases hok : (fetch source url).isOk <;> simp [hlasts, hok]
    have hone : (c.seen source shelf).requests = [url] := by rw [hseen]
    obtain ⟨hhits, hmiss, hfetches, hkept⟩ := counters_refetched hstale source
    rw [hleft]
    refine ⟨?_, ?_, ?_, ?_⟩
    · simp [hpasses]
      omega
    · omega
    · rw [List.flatMap_append, List.length_append, ← hrequests, hfetches]
      simp [hone]
    · simp [hstored]
      omega

/-- and so do loads one after another. -/
theorem Balanced.watch (h : Balanced shelf.cache seen) (halts : Bool) (source : Source)
    (calls : List Call) :
    Balanced (watch halts source calls shelf).2.cache
      (seen ++ (watch halts source calls shelf).1) := by
  induction calls generalizing shelf seen with
  | nil => simpa [Schema.watch] using h
  | cons c rest ih =>
    have hfirst := h.perform c source
    rw [Schema.watch]
    dsimp only
    split
    · dsimp only
      exact hfirst
    · have hrest := ih hfirst
      rw [List.append_assoc] at hrest
      exact hrest

end Schema

/-! ## Histories -/

/-- Whether an action looks something up in the cache or stores something
there by hand, and not to load it. -/
def Action.byHand : Action → Bool
  | .lookUp .. | .store .. => true
  | _ => false

namespace Session

open Schema

/-- A shelf in use, and what has been seen of the loads since the cache was
cleared last. -/
structure Ledger where
  shelf : Shelf
  seen : List Seen

namespace Ledger

/-- Nothing has been done with an empty shelf. -/
def opened (lifetime now : Int) : Ledger := ⟨.opened lifetime now, []⟩

/-- Takes a turn: a clearing begins a new page, and all else adds its
loads. -/
def next (l : Ledger) (t : Turn) : Ledger where
  shelf := (t.perform l.shelf).2
  seen :=
    match t.action with
    | .clear => []
    | _ => l.seen ++ (t.watch l.shelf).1

/-- Takes turns one after another. -/
def after (l : Ledger) (turns : List Turn) : Ledger := turns.foldl next l

/-- The shelf of a ledger is the one that the turns leave. -/
theorem shelf_after (l : Ledger) (turns : List Turn) :
    (l.after turns).shelf = Turn.after l.shelf turns := by
  induction turns generalizing l with
  | nil => rfl
  | cons t turns ih => exact ih (l.next t)

end Ledger

/-- **A turn keeps the balance** unless it is by hand. -/
theorem Balanced.next {l : Ledger} {t : Turn} (h : Balanced l.shelf.cache l.seen)
    (ht : t.action.byHand = false) : Balanced (l.next t).shelf.cache (l.next t).seen := by
  cases hrequest : t.action.isRequest with
  | true =>
    have hseen : (l.next t).seen = l.seen ++ (t.watch l.shelf).1 := by
      rw [Ledger.next]
      cases haction : t.action with
      | clear => rw [haction] at hrequest; cases hrequest
      | _ => rfl
    have hshelf : (l.next t).shelf = (t.watch l.shelf).2 := by
      exact (Turn.perform_eq hrequest l.shelf).1
    rw [hseen, hshelf]
    exact h.watch t.action.halts t.source t.action.calls
  | false =>
    obtain ⟨source, a⟩ := t
    cases a with
    | load | loadAll | compile | validate => cases hrequest
    | lookUp | store => cases ht
    | clear => exact .cleared l.shelf.cache
    | wait | setClock =>
      -- the clock is not in the books
      simpa [Ledger.next, Turn.perform, Session.perform, Turn.watch, Action.calls, Schema.watch]
        using h

/-- So do turns one after another. -/
theorem Balanced.after {l : Ledger} {turns : List Turn} (h : Balanced l.shelf.cache l.seen)
    (hturns : ∀ t ∈ turns, t.action.byHand = false) :
    Balanced (l.after turns).shelf.cache (l.after turns).seen := by
  induction turns generalizing l with
  | nil => exact h
  | cons t turns ih =>
    rw [List.forall_mem_cons] at hturns
    exact @ih (l.next t) (Balanced.next h hturns.1) hturns.2

/-- **The books of a cache balance.** Behind every history of turns that
starts with an empty shelf (loads by whatever policies and from whatever
sources, what compilers load, clearings, and changes of the clock in either
direction), and counted since the last clearing: hits and misses together
are the loads whose address has passed the policy; fetches are misses, and
the requests to sources; and entries and evictions together are the
requests that stored a schema. -/
theorem books_balance (lifetime now : Int) {turns : List Turn}
    (hturns : ∀ t ∈ turns, t.action.byHand = false) :
    let cache := (Turn.after (.opened lifetime now) turns).cache
    let seen := ((Ledger.opened lifetime now).after turns).seen
    cache.counters.hits + cache.counters.misses = seen.countP Seen.passes ∧
      cache.counters.fetches = cache.counters.misses ∧
      cache.counters.fetches = (seen.flatMap Seen.requests).length ∧
      cache.entries.size + cache.counters.evictions = seen.countP Seen.stores := by
  intro cache seen
  have hopened : let l := Ledger.opened lifetime now; Balanced l.shelf.cache l.seen :=
    ⟨rfl, rfl, rfl, rfl⟩
  obtain ⟨hlookUps, hmisses, hrequests, hstores⟩ := Balanced.after hopened hturns
  rw [Ledger.shelf_after] at hlookUps hmisses hrequests hstores
  exact ⟨hlookUps, hmisses, hrequests, hstores⟩

/-- Behind a clearing, an address is loaded twice, refused to a strict
loader, and loaded again when its entry is no longer fresh and its source
has gone; then the clock is set back, and it is loaded twice more. -/
def variedHistory : List Turn :=
  let fresh : Turn := ⟨Turn.anySource, .load .development none Turn.localAddress⟩
  let gone : Source := fun _ => .error "gone"
  [fresh, ⟨gone, .clear⟩, fresh, fresh, ⟨gone, .load .strict none Turn.localAddress⟩,
    ⟨gone, .wait 3600000⟩, ⟨gone, .load .development none Turn.localAddress⟩,
    ⟨gone, .setClock 0⟩, fresh, fresh]

/-- Five loads have passed, three of them were misses and requests, and two
schemas have been stored. -/
theorem books_balance_variedHistory :
    let cache := (Turn.after (.opened 3600000 0) variedHistory).cache
    (∀ t ∈ variedHistory, t.action.byHand = false) ∧
      cache.counters.hits + cache.counters.misses = 5 ∧ cache.counters.misses = 3 ∧
      cache.counters.fetches = 3 ∧ cache.entries.size + cache.counters.evictions = 2 := by
  intro cache
  have hturns : ∀ t ∈ variedHistory, t.action.byHand = false := by
    simp [variedHistory, Action.byHand]
  obtain ⟨hlookUps, hmisses, hrequests, hstores⟩ := books_balance 3600000 0 hturns
  have hseen : let seen := ((Ledger.opened 3600000 0).after variedHistory).seen
      seen.countP Seen.passes = 5 ∧ (seen.flatMap Seen.requests).length = 3 ∧
        seen.countP Seen.stores = 2 := by
    decide +kernel
  obtain ⟨hpassed, hthree, hstored⟩ := hseen
  exact ⟨hturns, hlookUps.trans hpassed, hmisses.symm.trans (hrequests.trans hthree),
    hrequests.trans hthree, hstores.trans hstored⟩

end Session

end PromptTemplate
