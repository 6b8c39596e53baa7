import PromptTemplate.Proofs.Schema.Transparency
/-!
# PromptTemplate — freshness over whole runs

A shelf is used over time: schemas are loaded from sources that need not
answer twice alike, pauses pass, and the cache is cleared. What is seen of
a run from outside (`Observed`: the time of each step, its requests, its
reply) says which schema was the latest to be fetched under an address, and
when (`latest?`).

The cache keeps entries that are no longer fresh until they are looked up,
and then drops them. `Agrees` is the invariant that takes no notice of it:
an entry is what was fetched latest, and what was fetched latest has an
entry as long as it is fresh, if there is a date at which it ceases to be
so. A load that is answered from the cache exactly while what was fetched
latest is fresh, and with one request otherwise, is `ByFreshness`. Loads
are that except where this date is missing: `loads_by_freshness`. The
longest time to live leads there at once (`not_byFreshness_longest`).
-/

namespace PromptTemplate

namespace Schema

/-! ## Runs -/

/-- A use of a shelf. -/
inductive Use
  | load (p : Policy) (base : Option String) (address : String)
  /-- Let milliseconds pass. -/
  | wait (span : Nat)
  | clear

namespace Use

/-- The action of a use. -/
def action : Use → Action
  | .load p base address => .load p base address
  | .wait span => .wait span
  | .clear => .clear

/-- The address that a use looks up, as it is normalized: that of a load, if
it passes the policy. -/
def target? : Use → Option String
  | .load p base address =>
    (Vetting.checkAddress p (Url.resolved base address)).toOption.map Url.text
  | _ => none

end Use

/-- A step of a run: a use, and the source as it answers at that time. -/
structure Step where
  source : Source
  use : Use

namespace Step

/-- Carries a step out. -/
def perform (step : Step) (shelf : Shelf) : Reply × Shelf :=
  Session.perform step.source shelf step.use.action

end Step

/-- What is seen of a step. -/
structure Observed where
  step : Step
  time : Int
  /-- The addresses that the source is asked for. -/
  requests : List String
  /-- There is none if the step breaks off. -/
  reply : Option Reply

/-- What is seen of a step on a shelf. -/
def observe (shelf : Shelf) (step : Step) : Observed where
  step := step
  time := shelf.now
  requests := (step.perform shelf).2.fetched.drop shelf.fetched.length
  reply := if shelf.BreaksOff (step.perform shelf).2 then none else some (step.perform shelf).1

/-- A schema is given. -/
def Observed.Gives (o : Observed) (s : Schema) : Prop := o.reply = some (.loaded (.ok s))

/-- The schema that is fetched under an address. -/
def Observed.fetched? (url : String) (o : Observed) : Option Schema :=
  if url ∈ o.requests then (fetch o.step.source url).toOption else none

/-- The latest schema that was fetched under an address since the cache was
cleared, and when that was. The latest step is the first one of the list. -/
def latest? (url : String) : List Observed → Option (Int × Schema)
  | [] => none
  | o :: earlier =>
    match o.step.use, o.fetched? url with
    | .clear, _ => none
    | _, some s => some (o.time, s)
    | _, none => latest? url earlier

/-- A shelf in use, and what has been seen, the latest first. -/
structure Run where
  shelf : Shelf
  seen : List Observed

namespace Run

/-- Nothing has been done with an empty shelf. -/
def start (lifetime now : Int) : Run := ⟨.opened lifetime now, []⟩

/-- Takes one step more. -/
def next (r : Run) (step : Step) : Run :=
  ⟨(step.perform r.shelf).2, observe r.shelf step :: r.seen⟩

/-- Takes several steps more. -/
def after (r : Run) (steps : List Step) : Run := steps.foldl next r

end Run

/-! ## What a step can do -/

variable {shelf : Shelf} {step : Step} {seen : List Observed} {url : String} {s : Schema}

/-- A use with a target is a load that passes the policy. -/
theorem exists_load_of_target {use : Use} (h : use.target? = some url) :
    ∃ p base address u, use = .load p base address ∧
      Vetting.checkAddress p (Url.resolved base address) = .ok u ∧ u.text = url := by
  cases use with
  | load p base address =>
    rw [Use.target?, Option.map_eq_some_iff] at h
    obtain ⟨u, hu, rfl⟩ := h
    exact ⟨p, base, address, u, rfl, Outcome.toOption_eq_some.1 hu, rfl⟩
  | wait span => cases h
  | clear => cases h

/-- A use with a target loads it. -/
theorem perform_of_target (htarget : step.use.target? = some url) :
    step.perform shelf = (loadPassed step.source url shelf).map .loaded id := by
  obtain ⟨p, base, address, u, huse, hu, rfl⟩ := exists_load_of_target htarget
  simp only [Step.perform, huse, Use.action, Session.perform, load, hu]

/-- **A target that is fresh** is had without a request, and the entries
stay. -/
theorem perform_of_fresh (htarget : step.use.target? = some url)
    (hs : shelf.cache.fresh? shelf.now url = some s) :
    step.perform shelf = (.loaded (.ok s),
      { shelf with cache := (shelf.cache.find shelf.now url).2 }) := by
  rw [perform_of_target htarget, loadPassed_of_fresh hs]
  rfl

/-- **A target that is not fresh** is had with one request. -/
theorem perform_of_stale (htarget : step.use.target? = some url)
    (hnone : shelf.cache.fresh? shelf.now url = none) :
    (step.perform shelf).1 = .loaded (fetch step.source url) ∧
      Refetched step.source url shelf (step.perform shelf).2 := by
  rw [perform_of_target htarget, loadPassed_of_stale hnone]
  exact ⟨rfl, refetched_spec hnone step.source⟩

/-- What a step without a target and without a clearing leaves: the cache,
and a clock that has not been set back. -/
structure Idled (shelf shelf' : Shelf) : Prop where
  cache : shelf'.cache = shelf.cache
  now : shelf.now ≤ shelf'.now
  fetched : shelf'.fetched = shelf.fetched

/-- **What a step comes to:** a target is fresh, or it is not; or there is
none, and the cache is cleared, or let be. -/
inductive Effect (shelf : Shelf) (step : Step) : Prop
  | serve {url : String} {s : Schema} (htarget : step.use.target? = some url)
      (hfresh : shelf.cache.fresh? shelf.now url = some s)
  | request {url : String} (htarget : step.use.target? = some url)
      (hstale : shelf.cache.fresh? shelf.now url = none)
  | clear (huse : step.use = .clear) (hleft : (step.perform shelf).2.cache = shelf.cache.clear)
  | idle (htarget : step.use.target? = none) (huse : step.use ≠ .clear)
      (hleft : Idled shelf (step.perform shelf).2)

theorem effect (shelf : Shelf) (step : Step) : Effect shelf step := by
  cases htarget : step.use.target? with
  | some url =>
    cases hfresh : shelf.cache.fresh? shelf.now url with
    | some s => exact .serve htarget hfresh
    | none => exact .request htarget hfresh
  | none =>
    obtain ⟨source, use⟩ := step
    cases use with
    | clear => exact .clear rfl rfl
    | wait span =>
      have hlater : shelf.now ≤ shelf.now + span :=
        Int.le_add_of_nonneg_right (Int.natCast_nonneg span)
      refine .idle rfl (by simp) ?_
      simp only [Step.perform, Use.action, Session.perform, Shelf.setClock]
      split
      · exact ⟨rfl, hlater, rfl⟩
      · exact ⟨rfl, Int.le_refl _, rfl⟩
    | load p base address =>
      refine .idle htarget (by simp) ?_
      cases hcheck : Vetting.checkAddress p (Url.resolved base address) with
      | ok u => simp [Use.target?, hcheck, Except.toOption] at htarget
      | error violation =>
        simp only [Step.perform, Use.action, Session.perform, load, hcheck]
        exact ⟨rfl, Int.le_refl _, rfl⟩

/-! ## What is seen of a step -/

theorem use_ne_clear (htarget : step.use.target? = some url) : step.use ≠ .clear := by
  intro huse
  rw [huse] at htarget
  cases htarget

theorem latest?_clear {o : Observed} (huse : o.step.use = .clear) (url : String) :
    latest? url (o :: seen) = none := by
  rw [latest?, huse]

theorem latest?_fetched {o : Observed} (huse : o.step.use ≠ .clear) (hs : o.fetched? url = some s) :
    latest? url (o :: seen) = some (o.time, s) := by
  rw [latest?, hs]
  cases hu : o.step.use with
  | clear => exact absurd hu huse
  | load p base address => rfl
  | wait span => rfl

theorem latest?_other {o : Observed} (huse : o.step.use ≠ .clear) (hnone : o.fetched? url = none) :
    latest? url (o :: seen) = latest? url seen := by
  rw [latest?, hnone]
  cases hu : o.step.use with
  | clear => exact absurd hu huse
  | load p base address => rfl
  | wait span => rfl

/-- What is seen of a target that is fresh: no request, and the schema. -/
theorem observe_of_fresh (htarget : step.use.target? = some url)
    (hs : shelf.cache.fresh? shelf.now url = some s) :
    observe shelf step = ⟨step, shelf.now, [], some (.loaded (.ok s))⟩ := by
  have hperform := perform_of_fresh htarget hs
  have hreturns : ¬ shelf.BreaksOff (step.perform shelf).2 :=
    Shelf.not_breaksOff (by rw [hperform])
  rw [observe, if_neg hreturns, hperform]
  simp only [List.drop_length]

/-- What is seen of a target that is not: one request, and what came of it,
if it is not a schema that does not last. -/
theorem observe_of_stale (htarget : step.use.target? = some url)
    (hnone : shelf.cache.fresh? shelf.now url = none) :
    observe shelf step = ⟨step, shelf.now, [url],
      if (fetch step.source url).isOk ∧ ¬ shelf.Lasts then none
      else some (.loaded (fetch step.source url))⟩ := by
  obtain ⟨hreply, hleft⟩ := perform_of_stale htarget hnone
  simp only [observe, hreply, hleft.fetched, hleft.breaksOff_iff, List.drop_left]

/-! ## The invariant -/

/-- **The invariant:** an entry is what was fetched latest, and lasts; and
where there is none, what was fetched latest is no longer fresh, or does not
last. -/
structure Agrees (shelf : Shelf) (seen : List Observed) : Prop where
  held {url : String} {e : Entry} : shelf.cache.entries.find? url = some e →
    latest? url seen = some (e.fetched, e.schema) ∧ LastsFrom shelf.cache.lifetime e.fetched
  gone {url : String} {f : Int} {s : Schema} : shelf.cache.entries.find? url = none →
    latest? url seen = some (f, s) → shelf.now < f + shelf.cache.lifetime →
      ¬ LastsFrom shelf.cache.lifetime f

/-- So the cache answers with what was fetched latest as long as that is
fresh, if it lasts. -/
theorem Agrees.fresh?_eq_some (h : Agrees shelf seen) :
    shelf.cache.fresh? shelf.now url = some s ↔
      ∃ f, latest? url seen = some (f, s) ∧ shelf.now < f + shelf.cache.lifetime ∧
        LastsFrom shelf.cache.lifetime f := by
  rw [Cache.fresh?_eq_some]
  constructor
  · rintro ⟨e, hentry, rfl, hlt⟩
    obtain ⟨hlatest, hlasts⟩ := h.held hentry
    exact ⟨e.fetched, hlatest, hlt, hlasts⟩
  · rintro ⟨f, hlatest, hlt, hlasts⟩
    cases hentry : shelf.cache.entries.find? url with
    | none => exact absurd hlasts (h.gone hentry hlatest hlt)
    | some e =>
      have heq := (h.held hentry).1
      rw [hlatest] at heq
      cases heq
      exact ⟨e, rfl, rfl, hlt⟩

theorem agrees_start (lifetime now : Int) :
    Agrees (Run.start lifetime now).shelf (Run.start lifetime now).seen where
  held h := by cases h
  gone _ h _ := by cases h

/-- A step with a fresh target keeps the invariant, -/
theorem Agrees.of_fresh (h : Agrees shelf seen) (htarget : step.use.target? = some url)
    (hs : shelf.cache.fresh? shelf.now url = some s) :
    Agrees (step.perform shelf).2 (observe shelf step :: seen) := by
  have hlatest (other : String) : latest? other (observe shelf step :: seen) = latest? other seen :=
    latest?_other (use_ne_clear htarget) (by simp [observe_of_fresh htarget hs, Observed.fetched?])
  have hentries (other : String) : (shelf.cache.find shelf.now url).2.entries.find? other =
      shelf.cache.entries.find? other := by
    simp [Cache.entries_find, hs]
  have hlifetime : (shelf.cache.find shelf.now url).2.lifetime = shelf.cache.lifetime :=
    Cache.lifetime_find ..
  rw [perform_of_fresh htarget hs]
  constructor
  · intro other e he
    rw [hlatest, hlifetime]
    exact h.held ((hentries other).symm.trans he)
  · intro other f s' he hlate hlt
    rw [hlatest] at hlate
    rw [hlifetime] at hlt ⊢
    exact h.gone ((hentries other).symm.trans he) hlate hlt

/-- and so does one with a target that is not fresh: -/
theorem Agrees.of_stale (h : Agrees shelf seen) (htarget : step.use.target? = some url)
    (hnone : shelf.cache.fresh? shelf.now url = none) :
    Agrees (step.perform shelf).2 (observe shelf step :: seen) := by
  obtain ⟨-, hleft⟩ := perform_of_stale htarget hnone
  have hfetched (other : String) : (observe shelf step).fetched? other =
      if other = url then (fetch step.source url).toOption else none := by
    rw [observe_of_stale htarget hnone, Observed.fetched?]
    simp only [List.mem_singleton]
    split
    · rename_i hother
      rw [hother]
    · rfl
  have huse : (observe shelf step).step.use ≠ .clear := use_ne_clear htarget
  constructor
  · intro other e he
    rw [hleft.lifetime]
    rw [hleft.find?] at he
    split at he
    · rename_i hother
      obtain ⟨s, hs, hentry⟩ := Option.bind_eq_some_iff.1 he
      obtain ⟨hlasts, rfl⟩ := Shelf.entry?_eq_some.1 hentry
      exact ⟨latest?_fetched huse (by rw [hfetched, if_pos hother, hs]), hlasts⟩
    · rename_i hother
      rw [latest?_other huse (by rw [hfetched, if_neg hother])]
      exact h.held he
  · intro other f s he hlate hlt
    rw [hleft.lifetime] at hlt ⊢
    rw [hleft.now] at hlt
    rw [hleft.find?] at he
    by_cases hother : other = url
    · subst hother
      rw [if_pos rfl] at he
      cases hcame : (fetch step.source other).toOption with
      | none =>
        -- the source gave nothing, and before it was asked nothing was fresh
        rw [latest?_other huse (by rw [hfetched, if_pos rfl, hcame])] at hlate
        intro hlasts
        have hsome := h.fresh?_eq_some.2 ⟨f, hlate, hlt, hlasts⟩
        rw [hnone] at hsome
        cases hsome
      | some came =>
        -- a schema came and was not kept
        rw [latest?_fetched huse (by rw [hfetched, if_pos rfl, hcame])] at hlate
        cases hlate
        rw [hcame] at he
        intro hlasts
        rw [Option.bind_some, Shelf.entry?_eq_some.2 ⟨hlasts, rfl⟩] at he
        cases he
    · rw [if_neg hother] at he
      rw [latest?_other huse (by rw [hfetched, if_neg hother])] at hlate
      exact h.gone he hlate hlt

/-- **Every step keeps the invariant.** -/
theorem Agrees.next (h : Agrees shelf seen) (step : Step) :
    Agrees (step.perform shelf).2 (observe shelf step :: seen) := by
  cases effect shelf step with
  | serve htarget hfresh => exact h.of_fresh htarget hfresh
  | request htarget hstale => exact h.of_stale htarget hstale
  | clear huse hleft =>
    constructor
    · intro url e he
      rw [hleft] at he
      cases he
    · intro url f s _ hlate _
      rw [latest?_clear huse] at hlate
      cases hlate
  | idle _ huse hleft =>
    have hlatest (url : String) : latest? url (observe shelf step :: seen) = latest? url seen :=
      latest?_other huse (by simp [Observed.fetched?, observe, hleft.fetched])
    constructor
    · intro url e he
      rw [hleft.cache] at he ⊢
      rw [hlatest]
      exact h.held he
    · intro url f s he hlate hlt
      rw [hleft.cache] at he hlt ⊢
      rw [hlatest] at hlate
      exact h.gone he hlate (Int.lt_of_le_of_lt hleft.now hlt)

/-- A step leaves the time to live. -/
theorem lifetime_perform (step : Step) (shelf : Shelf) :
    (step.perform shelf).2.cache.lifetime = shelf.cache.lifetime := by
  cases effect shelf step with
  | serve htarget hfresh =>
    rw [perform_of_fresh htarget hfresh]
    exact Cache.lifetime_find ..
  | request htarget hstale => exact (perform_of_stale htarget hstale).2.lifetime
  | clear _ hleft =>
    rw [hleft]
    rfl
  | idle _ _ hleft => rw [hleft.cache]

/-- **Every run keeps the invariant** and the time to live. -/
theorem Agrees.after {r : Run} (h : Agrees r.shelf r.seen) (steps : List Step) :
    Agrees (r.after steps).shelf (r.after steps).seen ∧
      (r.after steps).shelf.cache.lifetime = r.shelf.cache.lifetime := by
  induction steps generalizing r with
  | nil => exact ⟨h, rfl⟩
  | cons step steps ih =>
    obtain ⟨hagrees, hlifetime⟩ := @ih (r.next step) (h.next step)
    exact ⟨hagrees, hlifetime.trans (lifetime_perform step r.shelf)⟩

/-! ## What is not stored -/

/-- A step with another target, or with none, puts nothing under an
address. -/
theorem find?_perform_of_ne (htarget : step.use.target? ≠ some url)
    (hnone : shelf.cache.entries.find? url = none) :
    (step.perform shelf).2.cache.entries.find? url = none := by
  have hne {other : String} (hother : step.use.target? = some other) : url ≠ other := by
    rintro rfl
    exact htarget hother
  cases effect shelf step with
  | @serve other s hother hfresh =>
    rw [perform_of_fresh hother hfresh]
    show (shelf.cache.find shelf.now other).2.entries.find? url = none
    rw [Cache.entries_find, if_neg (hne hother ·.1), hnone]
  | request hother hstale =>
    rw [(perform_of_stale hother hstale).2.find?, if_neg (hne hother), hnone]
  | clear _ hleft =>
    rw [hleft]
    rfl
  | idle _ _ hleft => rw [hleft.cache, hnone]

/-- So nothing comes there until it is loaded again. -/
theorem find?_after_of_ne {r : Run} {steps : List Step}
    (hsteps : ∀ step ∈ steps, step.use.target? ≠ some url)
    (hnone : r.shelf.cache.entries.find? url = none) :
    (r.after steps).shelf.cache.entries.find? url = none := by
  induction steps generalizing r with
  | nil => exact hnone
  | cons step steps ih =>
    rw [List.forall_mem_cons] at hsteps
    exact ih hsteps.2 (find?_perform_of_ne hsteps.1 hnone)

/-- Where there is no entry, a load makes a request. -/
theorem requests_of_find?_eq_none (htarget : step.use.target? = some url)
    (hnone : shelf.cache.entries.find? url = none) : (observe shelf step).requests = [url] := by
  rw [observe_of_stale htarget (by rw [Cache.fresh?, hnone])]

/-- A load that gives no schema leaves nothing under its address. -/
theorem find?_perform_of_not_gives (htarget : step.use.target? = some url)
    (hnot : ∀ s, ¬ (observe shelf step).Gives s) (other : String) :
    (step.perform shelf).2.cache.entries.find? other =
      if other = url then none else shelf.cache.entries.find? other := by
  cases hfresh : shelf.cache.fresh? shelf.now url with
  | some s =>
    refine absurd ?_ (hnot s)
    rw [Observed.Gives, observe_of_fresh htarget hfresh]
  | none =>
    rw [(perform_of_stale htarget hfresh).2.find?]
    split
    · cases hfetch : fetch step.source url with
      | error fault => rfl
      | ok s =>
        -- it came and is not given, so that the step has broken off
        have hbeyond : ¬ shelf.Lasts := by
          intro hlasts
          refine hnot s ?_
          rw [Observed.Gives, observe_of_stale htarget hfresh, if_neg (·.2 hlasts), hfetch]
        exact if_neg hbeyond
    · rfl

/-! ## Loads by freshness -/

/-- **The rule of freshness** for a load of an address, behind what has been
seen: it makes no request and gives the schema that was fetched latest under
the address since the last clearing if there is one and it is fresh, and
makes exactly one request otherwise. -/
structure ByFreshness (lifetime : Int) (seen : List Observed) (url : String) (o : Observed) :
    Prop where
  served (s : Schema) : o.requests = [] ∧ o.Gives s ↔
    ∃ f, latest? url seen = some (f, s) ∧ o.time < f + lifetime
  requested : (¬ ∃ f s, latest? url seen = some (f, s) ∧ o.time < f + lifetime) →
    o.requests = [url]

/-- **A load is answered from the cache** while what was fetched latest is
fresh, if that lasts, -/
theorem Agrees.served_iff (h : Agrees shelf seen) (htarget : step.use.target? = some url)
    (s : Schema) : (observe shelf step).requests = [] ∧ (observe shelf step).Gives s ↔
      ∃ f, latest? url seen = some (f, s) ∧ shelf.now < f + shelf.cache.lifetime ∧
        LastsFrom shelf.cache.lifetime f := by
  rw [← h.fresh?_eq_some]
  cases hfound : shelf.cache.fresh? shelf.now url with
  | none => simp [observe_of_stale htarget hfound]
  | some found =>
    simp only [observe_of_fresh htarget hfound, Observed.Gives, true_and]
    constructor
    · intro hreply
      cases hreply
      rfl
    · intro hs
      cases hs
      rfl

/-- and with one request otherwise. -/
theorem Agrees.requested (h : Agrees shelf seen) (htarget : step.use.target? = some url)
    (hstale : ¬ ∃ f s, latest? url seen = some (f, s) ∧ shelf.now < f + shelf.cache.lifetime ∧
      LastsFrom shelf.cache.lifetime f) :
    observe shelf step = ⟨step, shelf.now, [url],
      if (fetch step.source url).isOk ∧ ¬ shelf.Lasts then none
      else some (.loaded (fetch step.source url))⟩ := by
  have hnone : shelf.cache.fresh? shelf.now url = none := by
    refine Option.eq_none_iff_forall_ne_some.2 fun s hs => hstale ?_
    obtain ⟨f, hlatest⟩ := h.fresh?_eq_some.1 hs
    exact ⟨f, s, hlatest⟩
  exact observe_of_stale htarget hnone

/-- So it keeps to the rule of freshness just if what was fetched latest
lasts while it is fresh. -/
theorem Agrees.byFreshness_iff (h : Agrees shelf seen) (htarget : step.use.target? = some url) :
    ByFreshness shelf.cache.lifetime seen url (observe shelf step) ↔
      ∀ f s, latest? url seen = some (f, s) → shelf.now < f + shelf.cache.lifetime →
        LastsFrom shelf.cache.lifetime f := by
  constructor
  · intro hrule f s hlatest hlt
    have hquiet := ((hrule.served s).2 ⟨f, hlatest, hlt⟩).1
    refine Decidable.by_contra fun hbeyond => ?_
    have hone := h.requested htarget fun ⟨f', s', hlatest', _, hlasts⟩ => by
      rw [hlatest] at hlatest'
      cases hlatest'
      exact hbeyond hlasts
    rw [hone] at hquiet
    cases hquiet
  · intro hlasts
    refine ⟨fun s => (h.served_iff htarget s).trans ?_, fun hstale => ?_⟩
    · constructor
      · rintro ⟨f, hlatest, hlt, -⟩
        exact ⟨f, hlatest, hlt⟩
      · rintro ⟨f, hlatest, hlt⟩
        exact ⟨f, hlatest, hlt, hlasts f s hlatest hlt⟩
    · rw [h.requested htarget fun ⟨f, s, hlatest, hlt, _⟩ => hstale ⟨f, s, hlatest, hlt⟩]

/-- **Freshness.** Behind every run that starts with an empty shelf, with
whatever time to live, a load that passes the policy keeps to the rule of
freshness just if there is a date at which what was fetched latest under its
normalized address ceases to be fresh, as long as it is that. If there is,
the load makes no request and gives that schema. In all other cases it makes
exactly one request, and breaks off if a schema comes without such a date,
and else gives what comes. If no schema is given, nothing is stored, and the
next load of the address makes a request again. -/
theorem loads_by_freshness (lifetime now : Int) (steps : List Step) {step : Step} {url : String}
    (htarget : step.use.target? = some url) :
    let r := (Run.start lifetime now).after steps
    let o := observe r.shelf step
    (ByFreshness lifetime r.seen url o ↔
      ∀ f s, latest? url r.seen = some (f, s) → o.time < f + lifetime → LastsFrom lifetime f) ∧
    (∀ s, o.requests = [] ∧ o.Gives s ↔
      ∃ f, latest? url r.seen = some (f, s) ∧ o.time < f + lifetime ∧ LastsFrom lifetime f) ∧
    ((¬ ∃ f s, latest? url r.seen = some (f, s) ∧ o.time < f + lifetime ∧
        LastsFrom lifetime f) →
      o.requests = [url] ∧
        o.reply = if (fetch step.source url).isOk ∧ ¬ LastsFrom lifetime o.time then none
          else some (.loaded (fetch step.source url))) ∧
    ((∀ s, ¬ o.Gives s) →
      (∀ other, (r.next step).shelf.cache.entries.find? other =
        if other = url then none else r.shelf.cache.entries.find? other) ∧
      ∀ between, (∀ step ∈ between, step.use.target? ≠ some url) →
        ∀ again : Step, again.use.target? = some url →
          (observe ((r.next step).after between).shelf again).requests = [url]) := by
  intro r o
  obtain ⟨hagrees, hlifetime⟩ : Agrees r.shelf r.seen ∧ r.shelf.cache.lifetime = lifetime :=
    (agrees_start lifetime now).after steps
  have hrule := hagrees.byFreshness_iff htarget
  have hserved := hagrees.served_iff htarget
  have hrequested := hagrees.requested htarget
  rw [hlifetime] at hrule
  simp only [hlifetime] at hserved
  simp only [Shelf.Lasts, hlifetime] at hrequested
  refine ⟨hrule, hserved, fun hstale => ?_,
    fun hnot => ⟨find?_perform_of_not_gives htarget hnot, ?_⟩⟩
  · have hone := hrequested hstale
    exact ⟨congrArg Observed.requests hone, congrArg Observed.reply hone⟩
  · intro between hbetween again hagain
    have hnone : (r.next step).shelf.cache.entries.find? url = none := by
      rw [Run.next, find?_perform_of_not_gives htarget hnot, if_pos rfl]
    exact requests_of_find?_eq_none hagain (find?_after_of_ne hbetween hnone)

/-- A load of a schema that the sample source has. -/
def sampleLoad : Use := .load .strict none Session.sampleAddress

/-- A schema is loaded, with a time to live, and milliseconds pass. -/
def sampleRun (lifetime : Int) (span : Nat) : Run :=
  (Run.start lifetime 0).after
    [⟨Session.sampleSource, sampleLoad⟩, ⟨Session.sampleSource, .wait span⟩]

/-- A source that has nothing. -/
def goneSource : Source := fun _ => .error "gone"

/-- A source that has nothing is not asked a millisecond before a second has
passed, and is asked when it has, if a second is how long schemas are fresh.
The rule of freshness is kept. -/
theorem sampleRun_loads_by_freshness :
    let step : Step := ⟨goneSource, sampleLoad⟩
    step.use.target? = some Session.sampleAddress ∧
      (observe (sampleRun 1000 999).shelf step).requests = [] ∧
      (observe (sampleRun 1000 1000).shelf step).requests = [Session.sampleAddress] ∧
      ByFreshness 1000 (sampleRun 1000 1000).seen Session.sampleAddress
        (observe (sampleRun 1000 1000).shelf step) := by
  intro step
  have htarget : step.use.target? = some Session.sampleAddress := by decide +kernel
  have hlatest (span : Nat) (h : span = 999 ∨ span = 1000) :
      ((latest? Session.sampleAddress (sampleRun 1000 span).seen).map Prod.fst = some 0) := by
    rcases h with rfl | rfl <;> decide +kernel
  obtain ⟨hrule, -, hrequested, -⟩ := loads_by_freshness 1000 0 _ htarget
  refine ⟨htarget, ?_, (hrequested ?_).1, hrule.2 ?_⟩
  · obtain ⟨⟨f, s⟩, hs, rfl⟩ := Option.map_eq_some_iff.1 (hlatest 999 (.inl rfl))
    obtain ⟨-, hserved, -⟩ := loads_by_freshness 1000 0 _ htarget
    exact ((hserved s).2 ⟨_, hs, by decide +kernel, by decide +kernel⟩).1
  · rintro ⟨f, s, hs, hlt, -⟩
    have hzero := hlatest 1000 (.inr rfl)
    rw [sampleRun, hs] at hzero
    cases hzero
    exact absurd hlt (by decide +kernel)
  · intro f s hs _
    have hzero := hlatest 1000 (.inr rfl)
    rw [sampleRun, hs] at hzero
    cases hzero
    decide +kernel

/-- The longest time to live, in milliseconds. -/
def longestLifetime : Int := 9223372036854775807

/-- **With the longest time to live** a schema that has just been fetched is
fresh, and has not been stored: the load breaks off, and the next one asks the
source again. -/
theorem not_byFreshness_longest :
    let r := sampleRun longestLifetime 0
    let again : Step := ⟨Session.sampleSource, sampleLoad⟩
    again.use.target? = some Session.sampleAddress ∧
      (∃ f s, latest? Session.sampleAddress r.seen = some (f, s) ∧
        r.shelf.now < f + longestLifetime) ∧
      (observe r.shelf again).requests = [Session.sampleAddress] ∧
      ¬ ByFreshness longestLifetime r.seen Session.sampleAddress (observe r.shelf again) := by
  intro r again
  have hlatest : (latest? Session.sampleAddress r.seen).map Prod.fst = some 0 := by
    decide +kernel
  obtain ⟨⟨f, s⟩, hs, rfl⟩ := Option.map_eq_some_iff.1 hlatest
  have hlt : r.shelf.now < 0 + longestLifetime := by decide +kernel
  have hone : (observe r.shelf again).requests = [Session.sampleAddress] := by decide +kernel
  refine ⟨by decide +kernel, ⟨_, s, hs, hlt⟩, hone, fun hrule => ?_⟩
  have hquiet := ((hrule.served s).2 ⟨_, hs, hlt⟩).1
  rw [hone] at hquiet
  cases hquiet

end Schema

end PromptTemplate
