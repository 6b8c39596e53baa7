import PromptTemplate.Proofs.Schema.Loader
/-!
# PromptTemplate — calls that break off

A load breaks off where a schema comes from the source that is fresh beyond
the last date. So it takes two things: a time and a time to live without a
date behind them (`Shelf.Lasts` fails), and a schema to be had
(`breaksOff_load`). On a shelf without entries this is also enough
(`breaksOff_load_of_bare`), since every schema comes from the source there.

Loads keep the time and the time to live (`Steady`), so both facts go over
to loads one after another. What breaks off on a faithful shelf breaks off
on one that has just been made, too: `breaksOff_loadEach_of_bare`,
`breaksOff_loadAll_of_bare`.
-/

namespace PromptTemplate

namespace Schema

variable {p : Policy} {source : Source} {base : Option String} {shelf left last : Shelf}

/-! ## Steady shelves -/

/-- From one shelf to another no time has passed, and the time to live is the
same. -/
structure Steady (shelf left : Shelf) : Prop where
  now : left.now = shelf.now
  lifetime : left.cache.lifetime = shelf.cache.lifetime
  breaks : shelf.breaks ≤ left.breaks

namespace Steady

theorem refl (shelf : Shelf) : Steady shelf shelf := ⟨rfl, rfl, Nat.le_refl _⟩

theorem trans (h : Steady shelf left) (h' : Steady left last) : Steady shelf last :=
  ⟨h'.now.trans h.now, h'.lifetime.trans h.lifetime, Nat.le_trans h.breaks h'.breaks⟩

theorem goOn (h : Steady shelf left) (h' : Steady left last) :
    Steady shelf (shelf.goOn left last) := by
  by_cases hleft : shelf.BreaksOff left
  · rwa [Shelf.goOn_of_breaksOff hleft]
  · rw [Shelf.goOn_of_not_breaksOff hleft]
    exact h.trans h'

/-- A schema lasts on both, or on none. -/
theorem lasts_iff (h : Steady shelf left) : left.Lasts ↔ shelf.Lasts := by
  unfold Shelf.Lasts
  rw [h.now, h.lifetime]

/-- What breaks off behind the first part of a call does so in the call. -/
theorem breaksOff_of_later (h : Steady shelf left) (hlater : left.BreaksOff last) :
    shelf.BreaksOff last :=
  Nat.lt_of_le_of_lt h.breaks hlater

/-- A call that goes on breaks off in its first part or behind it. -/
theorem breaksOff_goOn (h : Steady shelf left) :
    shelf.BreaksOff (shelf.goOn left last) ↔ shelf.BreaksOff left ∨ left.BreaksOff last := by
  by_cases hleft : shelf.BreaksOff left
  · rw [Shelf.goOn_of_breaksOff hleft]
    exact ⟨fun _ => .inl hleft, fun _ => hleft⟩
  · rw [Shelf.goOn_of_not_breaksOff hleft]
    have hle := h.breaks
    unfold Shelf.BreaksOff at hleft ⊢
    omega

end Steady

/-! ## One load -/

/-- What a request leaves is steady, -/
theorem Refetched.steady {url : String} (h : Refetched source url shelf left) :
    Steady shelf left :=
  ⟨h.now, h.lifetime, by rw [h.breaks]; exact Nat.le_add_right _ _⟩

/-- and it breaks off if a schema comes that does not last. -/
theorem Refetched.breaksOff_iff {url : String} (h : Refetched source url shelf left) :
    shelf.BreaksOff left ↔ (fetch source url).isOk ∧ ¬ shelf.Lasts := by
  unfold Shelf.BreaksOff
  rw [h.breaks]
  split
  · rename_i hbreaks
    exact ⟨fun _ => hbreaks, fun _ => Nat.lt_succ_self _⟩
  · rename_i hbreaks
    exact ⟨fun hlt => absurd hlt (Nat.lt_irrefl _), fun hboth => absurd hboth hbreaks⟩

theorem steady_find (shelf : Shelf) (url : String) :
    Steady shelf { shelf with cache := (shelf.cache.find shelf.now url).2 } :=
  ⟨rfl, shelf.cache.lifetime_find shelf.now url, Nat.le_refl _⟩

theorem steady_load (p : Policy) (source : Source) (base : Option String) (address : String)
    (shelf : Shelf) : Steady shelf (load p source base address shelf).2 := by
  unfold load
  cases Vetting.checkAddress p (Url.resolved base address) with
  | error violation => exact .refl shelf
  | ok u =>
    dsimp only
    cases hfresh : shelf.cache.fresh? shelf.now u.text with
    | some s =>
      rw [loadPassed_of_fresh hfresh]
      exact steady_find shelf u.text
    | none =>
      rw [loadPassed_of_stale hfresh]
      exact (refetched_spec hfresh source).steady

/-- **A load breaks off** only if the schema can be had and does not last. -/
theorem breaksOff_load {address : String}
    (h : shelf.BreaksOff (load p source base address shelf).2) :
    (direct p source base address).isOk ∧ ¬ shelf.Lasts := by
  unfold load at h
  unfold direct
  cases hcheck : Vetting.checkAddress p (Url.resolved base address) with
  | error violation =>
    rw [hcheck] at h
    exact absurd h (Shelf.not_breaksOff rfl)
  | ok u =>
    rw [hcheck] at h
    dsimp only at h ⊢
    cases hfresh : shelf.cache.fresh? shelf.now u.text with
    | some s =>
      rw [loadPassed_of_fresh hfresh] at h
      exact absurd h (Shelf.not_breaksOff rfl)
    | none =>
      rw [loadPassed_of_stale hfresh] at h
      exact (refetched_spec hfresh source).breaksOff_iff.1 h

/-- A shelf without entries. -/
def Shelf.Bare (shelf : Shelf) : Prop := ∀ url, shelf.cache.entries.find? url = none

theorem bare_opened (lifetime now : Int) : (Shelf.opened lifetime now).Bare := fun _ => rfl

/-- **On a shelf without entries** a load breaks off if the schema can be had,
as it has to come from the source, -/
theorem breaksOff_load_of_bare {address : String} (h : shelf.Bare) (hlasts : ¬ shelf.Lasts)
    (hdirect : (direct p source base address).isOk) :
    shelf.BreaksOff (load p source base address shelf).2 := by
  unfold direct at hdirect
  unfold load
  cases hcheck : Vetting.checkAddress p (Url.resolved base address) with
  | error violation =>
    rw [hcheck] at hdirect
    cases hdirect
  | ok u =>
    rw [hcheck] at hdirect
    have hfresh : shelf.cache.fresh? shelf.now u.text = none := by
      rw [Cache.fresh?, h]
    dsimp only
    rw [loadPassed_of_stale hfresh]
    exact (refetched_spec hfresh source).breaksOff_iff.2 ⟨hdirect, hlasts⟩

/-- and nothing is kept there. -/
theorem bare_load {address : String} (h : shelf.Bare) (hlasts : ¬ shelf.Lasts) :
    (load p source base address shelf).2.Bare := by
  unfold load
  cases Vetting.checkAddress p (Url.resolved base address) with
  | error violation => exact h
  | ok u =>
    have hfresh : shelf.cache.fresh? shelf.now u.text = none := by
      rw [Cache.fresh?, h]
    have hentry : shelf.entry? = fun _ => none := funext fun _ => if_neg hlasts
    intro url
    dsimp only
    rw [loadPassed_of_stale hfresh, (refetched_spec hfresh source).find?, hentry, h]
    split
    · exact Option.bind_eq_none_iff.2 fun _ _ => rfl
    · rfl

/-! ## Loads one after another -/

/-- **Loading every schema that can be had** breaks off only if one can be
had, and does not last; -/
theorem breaksOff_loadEach {addresses : List String}
    (h : shelf.BreaksOff (loadEach p source base addresses shelf).2) :
    (∃ address ∈ addresses, (direct p source base address).isOk) ∧ ¬ shelf.Lasts := by
  induction addresses generalizing shelf with
  | nil => exact absurd h (Shelf.not_breaksOff rfl)
  | cons address rest ih =>
    have hsteady := steady_load p source base address shelf
    rw [loadEach_cons] at h
    dsimp only at h
    rcases hsteady.breaksOff_goOn.1 h with hfirst | hrest
    · obtain ⟨hdirect, hlasts⟩ := breaksOff_load hfirst
      exact ⟨⟨address, List.mem_cons_self, hdirect⟩, hlasts⟩
    · obtain ⟨⟨other, hother, hdirect⟩, hlasts⟩ := ih hrest
      exact ⟨⟨other, List.mem_cons_of_mem _ hother, hdirect⟩, mt hsteady.lasts_iff.2 hlasts⟩

/-- without entries this is enough. -/
theorem breaksOff_loadEach_of_bare {addresses : List String} (h : shelf.Bare)
    (hlasts : ¬ shelf.Lasts) {address : String} (haddress : address ∈ addresses)
    (hdirect : (direct p source base address).isOk) :
    shelf.BreaksOff (loadEach p source base addresses shelf).2 := by
  induction addresses generalizing shelf with
  | nil => cases haddress
  | cons first rest ih =>
    have hsteady := steady_load p source base first shelf
    rw [loadEach_cons]
    dsimp only
    refine hsteady.breaksOff_goOn.2 ?_
    rcases List.mem_cons.1 haddress with rfl | hrest
    · exact .inl (breaksOff_load_of_bare h hlasts hdirect)
    · exact .inr (ih (bare_load h hlasts) (mt hsteady.lasts_iff.1 hlasts) hrest)

/-- **Loading up to the first that cannot be had** breaks off only if the
first can be had, and does not last; -/
theorem breaksOff_loadAll {addresses : List String} (hshelf : Faithful source shelf)
    (h : shelf.BreaksOff (loadAll p source base addresses shelf).2) :
    (∃ address ∈ addresses.head?, (direct p source base address).isOk) ∧ ¬ shelf.Lasts := by
  induction addresses generalizing shelf with
  | nil => exact absurd h (Shelf.not_breaksOff rfl)
  | cons address rest ih =>
    have hsteady := steady_load p source base address shelf
    obtain ⟨houtcome, hfaithful⟩ := @load_spec p source base shelf hshelf address
    cases hload : (load p source base address shelf).1 with
    | error fault =>
      rw [loadAll_cons_of_error hload] at h
      dsimp only at h
      obtain ⟨hdirect, hlasts⟩ := breaksOff_load h
      exact ⟨⟨address, rfl, hdirect⟩, hlasts⟩
    | ok s =>
      have hdirect : (direct p source base address).isOk := by
        rw [← houtcome, hload]
        rfl
      rw [loadAll_cons_of_ok hload] at h
      dsimp only at h
      refine ⟨⟨address, rfl, hdirect⟩, ?_⟩
      rcases hsteady.breaksOff_goOn.1 h with hfirst | hrest
      · exact (breaksOff_load hfirst).2
      · exact mt hsteady.lasts_iff.2 (ih hfaithful hrest).2

/-- without entries this is enough. -/
theorem breaksOff_loadAll_of_bare {addresses : List String} (h : shelf.Bare)
    (hlasts : ¬ shelf.Lasts) {address : String} (haddress : address ∈ addresses.head?)
    (hdirect : (direct p source base address).isOk) :
    shelf.BreaksOff (loadAll p source base addresses shelf).2 := by
  obtain ⟨rest, rfl⟩ := List.head?_eq_some_iff.1 haddress
  have hfirst : shelf.BreaksOff (load p source base address shelf).2 :=
    breaksOff_load_of_bare h hlasts hdirect
  cases hload : (load p source base address shelf).1 with
  | error fault =>
    rw [loadAll_cons_of_error hload]
    dsimp only
    exact hfirst
  | ok s =>
    rw [loadAll_cons_of_ok hload]
    dsimp only
    exact (steady_load p source base address shelf).breaksOff_goOn.2 (.inl hfirst)

end Schema

end PromptTemplate
