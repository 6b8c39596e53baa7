import PromptTemplate.Proofs.Schema.Transparency
/-!
# PromptTemplate — access to schemas

Loaders and compilers share a shelf, and its entries do not say whose
policy let them in. `Seen` is what is seen of one load: the addresses that
the source is asked for, and the outcome, if it does not break off. It is
`Guarded` if all of them are accepted by the policy of that very load.

Every schema is held under its own address, so a hit of the cache stands
under the address that has just passed (`Call.guarded_seen`). A turn of a
session comes down to the loads that it asks for (`Turn.perform_eq`), and
behind every history of turns with whatever policies and sources they are
guarded: `guarded_after`. A document that is refused before any schema is
loaded leaves the shelf as it is (`Compile.compile_of_refusal`).
-/

namespace PromptTemplate

namespace Schema

/-! ## Loads -/

/-- A load: the policy of its loader, the base, and the address. -/
structure Call where
  policy : Policy
  base : Option String
  address : String

/-- What is seen of a load: the addresses that its source is asked for, and
its outcome, unless it breaks off. -/
structure Seen where
  call : Call
  requests : List String
  outcome : Option (Except Fault Schema)

namespace Call

/-- Carries a load out. -/
def perform (c : Call) (source : Source) (shelf : Shelf) : Except Fault Schema × Shelf :=
  load c.policy source c.base c.address shelf

/-- What is seen of a load on a shelf. -/
def seen (c : Call) (source : Source) (shelf : Shelf) : Seen where
  call := c
  requests := (c.perform source shelf).2.fetched.drop shelf.fetched.length
  outcome :=
    if shelf.BreaksOff (c.perform source shelf).2 then none else some (c.perform source shelf).1

/-- The policy of a load accepts the address as it is meant under the base,
and in normal form it is `url`. -/
def Accepts (c : Call) (url : String) : Prop :=
  ∃ u, Vetting.checkAddress c.policy (Url.resolved c.base c.address) = .ok u ∧ u.text = url

end Call

/-- **A load is guarded:** its policy accepts every address that the source
is asked for, and the address of the schema that it gives. -/
structure Seen.Guarded (o : Seen) : Prop where
  requests : ∀ url ∈ o.requests, o.call.Accepts url
  outcome : ∀ s, o.outcome = some (.ok s) → o.call.Accepts s.url

/-- No load comes behind this one: it breaks off, or it fails where `halts`. -/
def Seen.ends (halts : Bool) (o : Seen) : Bool :=
  match o.outcome with
  | none => true
  | some outcome => halts && !outcome.isOk

/-- Carries loads out one after another, up to one that ends them: what is
seen of each of them, and the shelf that they leave. -/
def watch (halts : Bool) (source : Source) : List Call → Shelf → List Seen × Shelf
  | [], shelf => ([], shelf)
  | c :: rest, shelf =>
    let o := c.seen source shelf
    let left := (c.perform source shelf).2
    if o.ends halts then ([o], left)
    else
      let (later, last) := watch halts source rest left
      (o :: later, last)

variable {p : Policy} {source : Source} {base : Option String} {shelf : Shelf} {c : Call}
  {calls : List Call} {halts : Bool}

/-! ## The invariant -/

/-- **The invariant:** every schema in the cache stands under its own
address. -/
def Keyed : Shelf → Prop := Holds fun url s => s.url = url

/-- The body under an address is read as a schema of that address. -/
theorem url_of_ofBody {url : String} {body : Value} {s : Schema} (h : ofBody url body = .ok s) :
    s.url = url := by
  unfold ofBody at h
  split at h
  · split at h
    · obtain ⟨types, -, rfl⟩ := Outcome.map_eq_ok.1 h
      rfl
    · cases h
    · cases h
  · cases h

/-- What a source gives for an address is a schema of that address. -/
theorem gives_url (source : Source) : Gives source fun url s => s.url = url := by
  intro url s h
  unfold fetch at h
  split at h
  · cases h
  · split at h
    · cases h
    · rename_i hbody
      cases h
      exact url_of_ofBody hbody

/-- A load of an address that has passed gives a schema of that address, if
it gives one, -/
theorem url_of_loadPassed {url : String} {s : Schema} (h : Keyed shelf)
    (hs : (loadPassed source url shelf).1 = .ok s) : s.url = url := by
  cases hfresh : shelf.cache.fresh? shelf.now url with
  | some found =>
    rw [loadPassed_of_fresh hfresh] at hs
    cases hs
    exact h.of_fresh hfresh
  | none =>
    rw [loadPassed_of_stale hfresh] at hs
    exact gives_url source url s hs

/-- and asks the source at most for that address. -/
theorem fetched_loadPassed (source : Source) (url : String) (shelf : Shelf) :
    ∃ requests, (loadPassed source url shelf).2.fetched = shelf.fetched ++ requests ∧
      ∀ other ∈ requests, other = url := by
  cases hfresh : shelf.cache.fresh? shelf.now url with
  | some found =>
    rw [loadPassed_of_fresh hfresh]
    exact ⟨[], (List.append_nil _).symm, by simp⟩
  | none =>
    rw [loadPassed_of_stale hfresh]
    exact ⟨[url], (refetched_spec hfresh source).fetched, by simp⟩

namespace Call

/-- A load that breaks off has no outcome, -/
theorem outcome_of_breaksOff (h : shelf.BreaksOff (c.perform source shelf).2) :
    (c.seen source shelf).outcome = none := by
  rw [seen, if_pos h]

/-- and every other load has one. -/
theorem outcome_of_not_breaksOff (h : ¬ shelf.BreaksOff (c.perform source shelf).2) :
    (c.seen source shelf).outcome = some (c.perform source shelf).1 := by
  rw [seen, if_neg h]

/-- If the outcome is a schema, the load has come to it. -/
theorem outcome_eq_some {outcome : Except Fault Schema}
    (h : (c.seen source shelf).outcome = some outcome) :
    (c.perform source shelf).1 = outcome := by
  by_cases hbreaks : shelf.BreaksOff (c.perform source shelf).2
  · rw [outcome_of_breaksOff hbreaks] at h
    cases h
  · rw [outcome_of_not_breaksOff hbreaks] at h
    injection h

/-- What is asked for is added to what has been asked for. -/
theorem fetched_perform (c : Call) (source : Source) (shelf : Shelf) :
    (c.perform source shelf).2.fetched = shelf.fetched ++ (c.seen source shelf).requests := by
  have hprefix : ∃ requests, (c.perform source shelf).2.fetched = shelf.fetched ++ requests := by
    unfold perform load
    split
    · exact ⟨[], (List.append_nil _).symm⟩
    · rename_i u _
      obtain ⟨requests, hrequests, -⟩ := fetched_loadPassed source u.text shelf
      exact ⟨requests, hrequests⟩
  obtain ⟨requests, hrequests⟩ := hprefix
  simp [seen, hrequests]

/-- **Every load is guarded,** whatever has let the entries of the cache
in. -/
theorem guarded_seen (h : Keyed shelf) (c : Call) (source : Source) :
    (c.seen source shelf).Guarded := by
  have hfetched := c.fetched_perform source shelf
  cases hcheck : Vetting.checkAddress c.policy (Url.resolved c.base c.address) with
  | error violation =>
    -- neither the cache nor the source is asked
    have hrefused : c.perform source shelf = (.error (.security violation), shelf) := by
      simp only [perform, load, hcheck]
    refine ⟨?_, ?_⟩
    · intro url hurl
      simp [seen, hrefused] at hurl
    · intro s hs
      have hfound := outcome_eq_some hs
      rw [hrefused] at hfound
      cases hfound
  | ok u =>
    have hpassed : c.perform source shelf = loadPassed source u.text shelf := by
      simp only [perform, load, hcheck]
    have haccepts : c.Accepts u.text := ⟨u, hcheck, rfl⟩
    refine ⟨?_, ?_⟩
    · intro url hurl
      obtain ⟨requests, hrequests, honly⟩ := fetched_loadPassed source u.text shelf
      rw [hpassed, hrequests, List.append_cancel_left_eq] at hfetched
      rw [← hfetched] at hurl
      rw [honly url hurl]
      exact haccepts
    · intro s hs
      have hfound := outcome_eq_some hs
      rw [hpassed] at hfound
      rw [url_of_loadPassed h hfound]
      exact haccepts

/-- A load keeps every schema under its address. -/
theorem keyed_perform (h : Keyed shelf) (c : Call) (source : Source) :
    Keyed (c.perform source shelf).2 :=
  h.load (gives_url source) c.address

end Call

/-! ## Loads one after another -/

/-- Loads that are carried out are among those asked for, and guarded, -/
theorem guarded_watch (h : Keyed shelf) :
    ∀ o ∈ (watch halts source calls shelf).1, o.call ∈ calls ∧ o.Guarded := by
  induction calls generalizing shelf with
  | nil => simp [watch]
  | cons c rest ih =>
    have hfirst : (c.seen source shelf).Guarded := c.guarded_seen h source
    have hrest := ih (c.keyed_perform h source)
    intro o ho
    rw [watch] at ho
    dsimp only at ho
    split at ho
    · obtain rfl := List.mem_singleton.1 ho
      exact ⟨List.mem_cons_self, hfirst⟩
    · rcases List.mem_cons.1 ho with rfl | ho
      · exact ⟨List.mem_cons_self, hfirst⟩
      · obtain ⟨hcall, hguarded⟩ := hrest o ho
        exact ⟨List.mem_cons_of_mem _ hcall, hguarded⟩

/-- and what they ask for is all that is asked for. -/
theorem fetched_watch (halts : Bool) (source : Source) (calls : List Call) (shelf : Shelf) :
    (watch halts source calls shelf).2.fetched =
      shelf.fetched ++ (watch halts source calls shelf).1.flatMap Seen.requests := by
  induction calls generalizing shelf with
  | nil => simp [watch]
  | cons c rest ih =>
    have hfirst := c.fetched_perform source shelf
    rw [watch]
    dsimp only
    split
    · simp [hfirst]
    · simp [ih, hfirst]

/-- A load that breaks off is the last one, -/
theorem watch_of_breaksOff (h : shelf.BreaksOff (c.perform source shelf).2) (rest : List Call) :
    watch halts source (c :: rest) shelf =
      ([c.seen source shelf], (c.perform source shelf).2) := by
  have hends : (c.seen source shelf).ends halts = true := by
    rw [Seen.ends, Call.outcome_of_breaksOff h]
  rw [watch]
  dsimp only
  rw [if_pos hends]

/-- every other one is if it fails where `halts`, -/
theorem watch_of_fails {fault : Fault} (h : ¬ shelf.BreaksOff (c.perform source shelf).2)
    (hfails : (c.perform source shelf).1 = .error fault) (rest : List Call) :
    watch true source (c :: rest) shelf =
      ([c.seen source shelf], (c.perform source shelf).2) := by
  have hends : (c.seen source shelf).ends true = true := by
    rw [Seen.ends, Call.outcome_of_not_breaksOff h, hfails]
    rfl
  rw [watch]
  dsimp only
  rw [if_pos hends]

/-- and else the rest comes behind it. -/
theorem watch_of_goes (h : ¬ shelf.BreaksOff (c.perform source shelf).2)
    (hgoes : halts = true → (c.perform source shelf).1.isOk = true) (rest : List Call) :
    watch halts source (c :: rest) shelf =
      (c.seen source shelf :: (watch halts source rest (c.perform source shelf).2).1,
        (watch halts source rest (c.perform source shelf).2).2) := by
  have hcontinues : ¬ (c.seen source shelf).ends halts = true := by
    rw [Seen.ends, Call.outcome_of_not_breaksOff h]
    cases halts with
    | false => exact Bool.false_ne_true
    | true => simp [hgoes rfl]
  rw [watch]
  dsimp only
  rw [if_neg hcontinues]

/-- A load by itself is the only one. -/
theorem perform_eq_watch (c : Call) (source : Source) (shelf : Shelf) :
    let watched := watch false source [c] shelf
    (c.perform source shelf).2 = watched.2 ∧
      (¬ shelf.BreaksOff watched.2 →
        [(c.perform source shelf).1] = watched.1.filterMap Seen.outcome) := by
  by_cases hbreaks : shelf.BreaksOff (c.perform source shelf).2
  · rw [watch_of_breaksOff hbreaks]
    dsimp only
    exact ⟨rfl, fun hnot => absurd hbreaks hnot⟩
  · rw [watch_of_goes hbreaks (Bool.false_ne_true · |>.elim)]
    dsimp only [watch]
    refine ⟨rfl, fun _ => ?_⟩
    rw [List.filterMap_cons_some (Call.outcome_of_not_breaksOff hbreaks), List.filterMap_nil]

/-- **Loading every schema that can be had** comes down to its loads: it
leaves the shelf as they do, and has their outcomes if it does not break
off. -/
theorem loadEach_eq_watch (p : Policy) (source : Source) (base : Option String)
    (addresses : List String) (shelf : Shelf) :
    let watched := watch false source (addresses.map (Call.mk p base)) shelf
    (loadEach p source base addresses shelf).2 = watched.2 ∧
      (¬ shelf.BreaksOff watched.2 →
        (loadEach p source base addresses shelf).1 = watched.1.filterMap Seen.outcome) := by
  induction addresses generalizing shelf with
  | nil => exact ⟨rfl, fun _ => rfl⟩
  | cons address rest ih =>
    let c := Call.mk p base address
    have hload : load p source base address shelf = c.perform source shelf := rfl
    have hsteady : Steady shelf (c.perform source shelf).2 :=
      steady_load p source base address shelf
    obtain ⟨hshelf, houtcomes⟩ := ih (c.perform source shelf).2
    rw [List.map_cons, loadEach_cons, hload]
    by_cases hbreaks : shelf.BreaksOff (c.perform source shelf).2
    · rw [watch_of_breaksOff hbreaks, Shelf.goOn_of_breaksOff hbreaks]
      dsimp only
      exact ⟨rfl, fun hnot => absurd hbreaks hnot⟩
    · rw [watch_of_goes hbreaks (Bool.false_ne_true · |>.elim),
        Shelf.goOn_of_not_breaksOff hbreaks]
      dsimp only
      refine ⟨hshelf, fun hnot => ?_⟩
      rw [List.filterMap_cons_some (Call.outcome_of_not_breaksOff hbreaks),
        houtcomes (mt hsteady.breaksOff_of_later hnot)]

/-- **Loading up to the first that cannot be had** does as well. -/
theorem loadAll_eq_watch (p : Policy) (source : Source) (base : Option String)
    (addresses : List String) (shelf : Shelf) :
    let watched := watch true source (addresses.map (Call.mk p base)) shelf
    (loadAll p source base addresses shelf).2 = watched.2 ∧
      (¬ shelf.BreaksOff watched.2 →
        (loadAll p source base addresses shelf).1 =
          (watched.1.filterMap Seen.outcome).mapM id) := by
  induction addresses generalizing shelf with
  | nil => exact ⟨rfl, fun _ => rfl⟩
  | cons address rest ih =>
    let c := Call.mk p base address
    have hload : load p source base address shelf = c.perform source shelf := rfl
    have hsteady : Steady shelf (c.perform source shelf).2 :=
      steady_load p source base address shelf
    obtain ⟨hshelf, houtcomes⟩ := ih (c.perform source shelf).2
    rw [List.map_cons]
    by_cases hbreaks : shelf.BreaksOff (c.perform source shelf).2
    · rw [watch_of_breaksOff hbreaks]
      dsimp only
      refine ⟨?_, fun hnot => absurd hbreaks hnot⟩
      cases houtcome : (load p source base address shelf).1 with
      | error fault => rw [loadAll_cons_of_error houtcome, hload]
      | ok s => rw [loadAll_cons_of_ok houtcome, hload, Shelf.goOn_of_breaksOff hbreaks]
    · have hseen := Call.outcome_of_not_breaksOff hbreaks
      cases houtcome : (load p source base address shelf).1 with
      | error fault =>
        rw [loadAll_cons_of_error houtcome, watch_of_fails hbreaks houtcome, hload]
        rw [← hload, houtcome] at hseen
        dsimp only
        refine ⟨rfl, fun _ => ?_⟩
        rw [List.filterMap_cons_some hseen]
        rfl
      | ok s =>
        have hok : (c.perform source shelf).1.isOk = true := by
          rw [← hload, houtcome]
          rfl
        rw [loadAll_cons_of_ok houtcome, watch_of_goes hbreaks fun _ => hok, hload,
          Shelf.goOn_of_not_breaksOff hbreaks]
        rw [← hload, houtcome] at hseen
        dsimp only
        refine ⟨hshelf, fun hnot => ?_⟩
        rw [List.filterMap_cons_some hseen, houtcomes (mt hsteady.breaksOff_of_later hnot),
          List.mapM_cons]
        rfl

end Schema

/-! ## Refusals -/

namespace Compile

variable {p : Policy} {source : Schema.Source} {base : Option String} {doc : Value}
  {supplied : Option (Table Value)} {shelf : Schema.Shelf}

/-- The fault that a stage ends in. -/
def faultOf? {α : Type} : Except Fault α → Option Fault
  | .error fault => some fault
  | .ok _ => none

/-- The first fault of the stages before any schema is loaded: the vetting
of the document, the decoding of the template, and the vetting of the
supplied variables, each by itself. -/
def refusal? (p : Policy) (base : Option String) (doc : Value) (supplied : Option (Table Value)) :
    Option Fault :=
  (faultOf? (vetted (Vetting.checkDocument p base doc))).or
    ((faultOf? (Template.decode doc)).or
      (supplied.bind fun vars => faultOf? (vetted (Vetting.checkVariables p vars))))

/-- Preparing a document ends in that fault, if there is one. -/
theorem faultOf?_prepare : faultOf? (prepare p base doc supplied) = refusal? p base doc supplied := by
  unfold prepare refusal?
  cases vetted (Vetting.checkDocument p base doc) with
  | error fault => rfl
  | ok =>
    cases Template.decode doc with
    | error fault => rfl
    | ok template =>
      cases supplied with
      | none => rfl
      | some vars =>
        simp only [bind, Except.bind, Option.bind, faultOf?, Option.none_or]
        cases vetted (Vetting.checkVariables p vars) with
        | error fault => rfl
        | ok => rfl

/-- **A document that is refused** compiles to the first fault, and leaves
the shelf as it is. -/
theorem compile_of_refusal {fault : Fault} (h : refusal? p base doc supplied = some fault)
    (source : Schema.Source) (shelf : Schema.Shelf) :
    compile p source base doc supplied shelf = (.error fault, shelf) := by
  rw [← faultOf?_prepare] at h
  unfold compile
  cases hprepare : prepare p base doc supplied with
  | error found =>
    rw [hprepare] at h
    cases h
    rfl
  | ok prepared =>
    rw [hprepare] at h
    cases h

end Compile

/-! ## Turns of a session -/

namespace Action

open Schema

/-- The loads that an action asks for, in order. -/
def calls : Action → List Call
  | .load p base address => [⟨p, base, address⟩]
  | .loadAll p base addresses => addresses.map (Call.mk p base)
  | .compile p base doc supplied =>
    match Compile.prepare p base doc supplied with
    | .ok (template, _) => template.extensions.map (Call.mk p base)
    | .error _ => []
  | .validate p base doc =>
    match Template.structureErrors doc, Template.decode doc with
    | [], .ok template => template.extensions.map (Call.mk p base)
    | _, _ => []
  | _ => []

/-- Whether the first load that fails is the last one. -/
def halts : Action → Bool
  | .loadAll .. | .compile .. => true
  | _ => false

/-- The policy of the loader or the compiler that carries an action out. -/
def policy? : Action → Option Policy
  | .load p .. | .loadAll p .. | .compile p .. | .validate p .. => some p
  | _ => none

/-- The reply to a request with the outcomes of its loads. -/
def replyTo (outcomes : List (Except Fault Schema)) : Action → Reply
  | .loadAll .. => .loadedAll (outcomes.mapM id)
  | .compile p base doc supplied => .compiled do
    let (template, vars) ← Compile.prepare p base doc supplied
    let schemas ← outcomes.mapM id
    Compile.finish p template vars schemas
  | .validate p base doc =>
    let issues := Compile.documentIssues p base doc
    .report <| match Template.structureErrors doc, Template.decode doc with
      | [], .ok template => Report.ofTemplate template issues outcomes
      | [], .error fault => ⟨[fault.message], [], issues⟩
      | errors, _ => ⟨errors, [], issues⟩
  | _ => match outcomes with
    | [outcome] => .loaded outcome
    | _ => .done

/-- The loads of an action are by its own policy. -/
theorem policy_of_mem_calls {a : Action} {c : Call} (h : c ∈ a.calls) :
    a.policy? = some c.policy := by
  have hmap {p : Policy} {base : Option String} {addresses : List String}
      (h : c ∈ addresses.map (Call.mk p base)) : some p = some c.policy := by
    obtain ⟨address, -, rfl⟩ := List.mem_map.1 h
    rfl
  cases a with
  | load p base address =>
    obtain rfl := List.mem_singleton.1 h
    rfl
  | loadAll p base addresses => exact hmap h
  | compile p base doc supplied =>
    rw [calls] at h
    split at h
    · exact hmap h
    · cases h
  | validate p base doc =>
    rw [calls] at h
    split at h
    · exact hmap h
    · cases h
  | lookUp | store | clear | wait | setClock => cases h

end Action

namespace Session

open Schema

/-- A turn: an action, and the source as it answers at that time. -/
structure Turn where
  source : Source
  action : Action

namespace Turn

/-- Takes a turn. -/
def perform (t : Turn) (shelf : Shelf) : Reply × Shelf := Session.perform t.source shelf t.action

/-- What is seen of the loads of a turn, and the shelf that they leave. -/
def watch (t : Turn) (shelf : Shelf) : List Seen × Shelf :=
  Schema.watch t.action.halts t.source t.action.calls shelf

/-- The shelf after turns. -/
def after (shelf : Shelf) (turns : List Turn) : Shelf := turns.foldl (fun s t => (t.perform s).2) shelf

/-- **A turn keeps to the policy of its action:** a request comes down to
its loads, all that the source is asked for is asked for by these, and each
is by that policy and guarded. -/
structure Guarded (t : Turn) (shelf : Shelf) : Prop where
  byLoads : t.action.isRequest = true → (t.perform shelf).2 = (t.watch shelf).2 ∧
    (¬ shelf.BreaksOff (t.perform shelf).2 →
      (t.perform shelf).1 = t.action.replyTo ((t.watch shelf).1.filterMap Seen.outcome))
  fetched : (t.perform shelf).2.fetched =
    shelf.fetched ++ (t.watch shelf).1.flatMap Seen.requests
  loads : ∀ o ∈ (t.watch shelf).1,
    o.call ∈ t.action.calls ∧ t.action.policy? = some o.call.policy ∧ o.Guarded

variable {t : Turn} {shelf : Shelf}

/-- **A request comes down to its loads.** -/
theorem perform_eq (h : t.action.isRequest = true) (shelf : Shelf) :
    (t.perform shelf).2 = (t.watch shelf).2 ∧ (¬ shelf.BreaksOff (t.perform shelf).2 →
      (t.perform shelf).1 = t.action.replyTo ((t.watch shelf).1.filterMap Seen.outcome)) := by
  obtain ⟨source, a⟩ := t
  rw [perform, watch]
  dsimp only
  cases a with
  | load p base address =>
    obtain ⟨hshelf, houtcome⟩ := perform_eq_watch ⟨p, base, address⟩ source shelf
    rw [Session.perform, Prod.map_snd, Prod.map_fst, id]
    refine ⟨hshelf, fun hnot => ?_⟩
    dsimp only [Action.calls, Action.halts]
    rw [← houtcome (hshelf ▸ hnot)]
    rfl
  | loadAll p base addresses =>
    obtain ⟨hshelf, houtcome⟩ := loadAll_eq_watch p source base addresses shelf
    rw [Session.perform, Prod.map_snd, Prod.map_fst, id]
    refine ⟨hshelf, fun hnot => ?_⟩
    exact congrArg Reply.loadedAll (houtcome (hshelf ▸ hnot))
  | compile p base doc supplied =>
    rw [Session.perform, Prod.map_snd, Prod.map_fst, id, Compile.compile_snd, Compile.compile,
      Action.calls, Action.replyTo]
    cases Compile.prepare p base doc supplied with
    | error fault => exact ⟨rfl, fun _ => rfl⟩
    | ok prepared =>
      obtain ⟨template, vars⟩ := prepared
      obtain ⟨hshelf, houtcome⟩ := loadAll_eq_watch p source base template.extensions shelf
      refine ⟨hshelf, fun hnot => ?_⟩
      dsimp only [Action.halts]
      rw [← houtcome (hshelf ▸ hnot)]
      -- either some load has failed, and its fault is the reply, or all schemas are there
      rcases Schema.loadAll p source base template.extensions shelf with ⟨fault | ss, left⟩
      · rfl
      · rfl
  | validate p base doc =>
    rw [Session.perform, Prod.map_snd, Prod.map_fst, id, Compile.validate_snd, Compile.validate,
      Action.calls, Action.replyTo]
    cases Template.structureErrors doc with
    | cons error errors => exact ⟨rfl, fun _ => rfl⟩
    | nil =>
      cases Template.decode doc with
      | error fault => exact ⟨rfl, fun _ => rfl⟩
      | ok template =>
        obtain ⟨hshelf, houtcome⟩ := loadEach_eq_watch p source base template.extensions shelf
        refine ⟨hshelf, fun hnot => ?_⟩
        dsimp only [Action.halts]
        rw [← houtcome (hshelf ▸ hnot)]
  | lookUp | store | clear | wait | setClock => cases h

/-- Only requests ask the source for anything. -/
theorem fetched_perform (t : Turn) (shelf : Shelf) :
    (t.perform shelf).2.fetched = shelf.fetched ++ (t.watch shelf).1.flatMap Seen.requests := by
  cases hrequest : t.action.isRequest with
  | true =>
    rw [(perform_eq hrequest shelf).1]
    exact fetched_watch ..
  | false =>
    obtain ⟨source, a⟩ := t
    cases a with
    | load | loadAll | compile | validate => cases hrequest
    | store url body =>
      simp only [perform, Session.perform, Session.store]
      split
      · simp [watch, Action.calls, Schema.watch]
      · simp [watch, Action.calls, Schema.watch]
    | lookUp | clear | wait | setClock =>
      simp [perform, Session.perform, watch, Action.calls, Schema.watch]

/-- Turns keep every schema under its address, unless something is stored
by hand. -/
theorem keyed_after {turns : List Turn} (h : Keyed shelf)
    (hturns : ∀ t ∈ turns, t.action.stores = false) : Keyed (after shelf turns) := by
  induction turns generalizing shelf with
  | nil => exact h
  | cons t rest ih =>
    rw [List.forall_mem_cons] at hturns
    exact ih (Holds.perform h (gives_url t.source) hturns.1) hturns.2

/-- **No access without the consent of one's own policy.** Behind every
history of turns that starts with an empty shelf, by whatever policies and
with whatever sources, the next turn keeps to the policy of its action; and
a document that is refused before any schema is loaded compiles to the
first fault and leaves the shelf as it is. -/
theorem guarded_after (lifetime now : Int) {turns : List Turn}
    (hturns : ∀ t ∈ turns, t.action.stores = false) :
    (∀ t : Turn, t.Guarded (after (.opened lifetime now) turns)) ∧
    ∀ source p base doc supplied fault, Compile.refusal? p base doc supplied = some fault →
      perform ⟨source, .compile p base doc supplied⟩ (after (.opened lifetime now) turns) =
        (.compiled (.error fault), after (.opened lifetime now) turns) := by
  constructor
  · intro t
    have hkeyed : Keyed (after (.opened lifetime now) turns) :=
      keyed_after (holds_opened lifetime now) hturns
    refine ⟨fun hrequest => perform_eq hrequest _, fetched_perform t _, ?_⟩
    intro o ho
    obtain ⟨hcall, hguarded⟩ := guarded_watch hkeyed o ho
    exact ⟨hcall, Action.policy_of_mem_calls hcall, hguarded⟩
  · intro source p base doc supplied fault hrefusal
    simp only [perform, Session.perform, Compile.compile_of_refusal hrefusal]
    rfl

/-- An address of the machine itself, in normal form. -/
def localAddress : String := "https://[::1]/types.json"

/-- A source with a schema under every address. -/
def anySource : Source := fun _ => .ok (.object (Table.ofList [("instructionTypes", .object .nil)]))

/-- A loader for work on one machine has put a schema there. -/
def localHistory : List Turn := [⟨anySource, .load .development none localAddress⟩]

/-- It is still fresh, but a strict loader neither is given it nor asks for
it, and a strict compiler that is given no document leaves it there. -/
theorem strict_guarded_after_development :
    let shelf := after (.opened 3600000 0) localHistory
    let strict : Turn := ⟨anySource, .load .strict none localAddress⟩
    (shelf.cache.fresh? shelf.now localAddress).isSome = true ∧
      (∀ t ∈ localHistory, t.action.stores = false) ∧
      (∀ o ∈ (strict.watch shelf).1, o.requests = [] ∧ ∀ s, o.outcome ≠ some (.ok s)) ∧
      ∃ fault, Compile.refusal? .strict none .null none = some fault ∧
        perform ⟨anySource, .compile .strict none .null none⟩ shelf =
          (.compiled (.error fault), shelf) := by
  intro shelf strict
  have hstores : ∀ t ∈ localHistory, t.action.stores = false := by
    simp [localHistory, Action.stores]
  obtain ⟨hguarded, hrefused⟩ := guarded_after 3600000 0 hstores
  have hnone : (Vetting.checkAddress .strict (Url.resolved none localAddress)).toOption = none := by
    decide +kernel
  refine ⟨by decide +kernel, hstores, ?_, ?_⟩
  · intro o ho
    obtain ⟨hcall, -, hrequests, houtcome⟩ := (hguarded strict).loads o ho
    have hrefuses : ∀ url, ¬ o.call.Accepts url := by
      rintro url ⟨u, hu, -⟩
      rw [List.mem_singleton.1 hcall] at hu
      rw [Outcome.toOption_eq_some.2 hu] at hnone
      cases hnone
    refine ⟨List.eq_nil_iff_forall_not_mem.2 fun url hurl => hrefuses url (hrequests url hurl), ?_⟩
    intro s hs
    exact hrefuses s.url (houtcome s hs)
  · obtain ⟨fault, hfault⟩ :=
      Option.isSome_iff_exists.1
        (show (Compile.refusal? .strict none .null none).isSome = true by decide +kernel)
    exact ⟨fault, hfault, hrefused anySource .strict none .null none fault hfault⟩

end Turn

end Session

end PromptTemplate
