import PromptTemplate.Proofs.Schema.Breaks
/-!
# PromptTemplate — the cache is transparent

Loaders and compilers that share a shelf leave one another a cache, and
none of them can tell. What is compiled from the source itself
(`Compile.direct`), and what is reported from it (`Compile.directReport`),
are functions of the source alone; on every faithful shelf compiling and
reporting come to just that (`compile_spec`, `validate_spec`), as loading
does. A request that breaks off on a faithful shelf breaks off on an empty
one as well (`breaksOff_opened`): the cache can spare a load from breaking
off, and never makes one do so.

Sessions keep shelves faithful, so a request has the same reply behind
every history as on a shelf that has just been made: `reply_after_eq`.
Only a look-up of the cache itself is not a request.
-/

namespace PromptTemplate

namespace Schema

variable {p : Policy} {source : Source} {base : Option String} {shelf : Shelf}

/-- **Loading schemas up to the first that cannot be had** has the outcome
that it has without a cache. -/
theorem loadAll_spec (h : Faithful source shelf) (addresses : List String) :
    (loadAll p source base addresses shelf).1 = addresses.mapM (direct p source base) := by
  induction addresses generalizing shelf with
  | nil => rfl
  | cons address rest ih =>
    obtain ⟨houtcome, hload⟩ := @load_spec p source base shelf h address
    rw [List.mapM_cons, ← houtcome, ← ih hload]
    cases hfirst : (load p source base address shelf).1 with
    | error fault =>
      rw [loadAll_cons_of_error hfirst]
      rfl
    | ok s =>
      rw [loadAll_cons_of_ok hfirst]
      rfl

end Schema

namespace Compile

variable {p : Policy} {source : Schema.Source} {base : Option String} {doc : Value}
  {supplied : Option (Table Value)} {shelf : Schema.Shelf}

/-- What compiling comes to if every schema is taken from the source. -/
def direct (p : Policy) (source : Schema.Source) (base : Option String) (doc : Value)
    (supplied : Option (Table Value)) : Except Fault Compiled := do
  let (template, vars) ← prepare p base doc supplied
  let schemas ← template.extensions.mapM (Schema.direct p source base)
  finish p template vars schemas

/-- What a report comes to if every schema is taken from the source. -/
def directReport (p : Policy) (source : Schema.Source) (base : Option String) (doc : Value) :
    Report :=
  let issues := documentIssues p base doc
  match Template.structureErrors doc, Template.decode doc with
  | [], .ok template =>
    Report.ofTemplate template issues (template.extensions.map (Schema.direct p source base))
  | [], .error fault => ⟨[fault.message], [], issues⟩
  | errors, _ => ⟨errors, [], issues⟩

/-- **Compiling** does not see the cache. -/
theorem compile_spec (h : Schema.Faithful source shelf) :
    (compile p source base doc supplied shelf).1 = direct p source base doc supplied := by
  unfold compile direct
  rcases prepare p base doc supplied with fault | ⟨template, vars⟩
  · rfl
  · have hload := @Schema.loadAll_spec p source base shelf h template.extensions
    rcases hall : Schema.loadAll p source base template.extensions shelf with ⟨fault | ss, shelf'⟩
    all_goals
      rw [hall] at hload
      simp only [bind, Except.bind, ← hload, hall]

/-- Compiling leaves the shelf as the loading of the schemas does. -/
theorem compile_snd (p : Policy) (source : Schema.Source) (base : Option String) (doc : Value)
    (supplied : Option (Table Value)) (shelf : Schema.Shelf) :
    (compile p source base doc supplied shelf).2 =
      match prepare p base doc supplied with
      | .error _ => shelf
      | .ok (template, _) => (Schema.loadAll p source base template.extensions shelf).2 := by
  unfold compile
  rcases prepare p base doc supplied with fault | ⟨template, vars⟩
  · rfl
  · dsimp only
    rcases Schema.loadAll p source base template.extensions shelf with ⟨fault | ss, left⟩
    · rfl
    · rfl

/-- So does reporting. -/
theorem validate_snd (p : Policy) (source : Schema.Source) (base : Option String) (doc : Value)
    (shelf : Schema.Shelf) :
    (validate p source base doc shelf).2 =
      match Template.structureErrors doc, Template.decode doc with
      | [], .ok template => (Schema.loadEach p source base template.extensions shelf).2
      | _, _ => shelf := by
  unfold validate
  cases Template.structureErrors doc with
  | cons error errors => rfl
  | nil =>
    cases Template.decode doc with
    | error fault => rfl
    | ok template => rfl

/-- **Reporting** does not see the cache. -/
theorem validate_spec (h : Schema.Faithful source shelf) :
    (validate p source base doc shelf).1 = directReport p source base doc := by
  unfold validate directReport
  cases Template.structureErrors doc with
  | cons error errors => rfl
  | nil =>
    cases Template.decode doc with
    | error fault => rfl
    | ok template =>
      obtain ⟨houtcomes, -⟩ := @Schema.loadEach_spec p source base shelf h template.extensions
      simp only [houtcomes]

end Compile

/-! ## Sessions -/

/-- Whether an action asks for schemas, or for what is made of them. -/
def Action.isRequest : Action → Bool
  | .load .. | .loadAll .. | .compile .. | .validate .. => true
  | _ => false

namespace Session

open Schema

variable {source : Source} {shelf shelf' : Shelf}

/-- A request has the same reply on all faithful shelves. -/
theorem reply_eq_of_faithful {a : Action} (h : Faithful source shelf) (h' : Faithful source shelf')
    (ha : a.isRequest = true) : (perform source shelf a).1 = (perform source shelf' a).1 := by
  cases a with
  | load p base address =>
    simp only [perform, Prod.map_fst, (load_spec h address).1, (load_spec h' address).1]
  | loadAll p base addresses =>
    simp only [perform, Prod.map_fst, loadAll_spec h, loadAll_spec h']
  | compile p base doc supplied =>
    simp only [perform, Prod.map_fst, Compile.compile_spec h, Compile.compile_spec h']
  | validate p base doc =>
    simp only [perform, Prod.map_fst, Compile.validate_spec h, Compile.validate_spec h']
  | lookUp | store | clear | wait | setClock => cases ha

/-- **A request that breaks off** on a faithful shelf breaks off on an empty
one, too, with the same time to live and at the same time. -/
theorem breaksOff_opened {a : Action} (h : Faithful source shelf) (ha : a.isRequest = true)
    (hbreaks : shelf.BreaksOff (perform source shelf a).2) :
    let fresh := Shelf.opened shelf.cache.lifetime shelf.now
    fresh.BreaksOff (perform source fresh a).2 := by
  intro fresh
  have hbare : fresh.Bare := bare_opened shelf.cache.lifetime shelf.now
  have hlasts : fresh.Lasts ↔ shelf.Lasts := Iff.rfl
  have heach {p : Policy} {base : Option String} {addresses : List String}
      (h' : shelf.BreaksOff (loadEach p source base addresses shelf).2) :
      fresh.BreaksOff (loadEach p source base addresses fresh).2 := by
    obtain ⟨⟨address, haddress, hdirect⟩, hbeyond⟩ := breaksOff_loadEach h'
    exact breaksOff_loadEach_of_bare hbare (mt hlasts.1 hbeyond) haddress hdirect
  have hall {p : Policy} {base : Option String} {addresses : List String}
      (h' : shelf.BreaksOff (Schema.loadAll p source base addresses shelf).2) :
      fresh.BreaksOff (Schema.loadAll p source base addresses fresh).2 := by
    obtain ⟨⟨address, haddress, hdirect⟩, hbeyond⟩ := breaksOff_loadAll h h'
    exact breaksOff_loadAll_of_bare hbare (mt hlasts.1 hbeyond) haddress hdirect
  have hnever {shelf : Shelf} : ¬ shelf.BreaksOff shelf := Shelf.not_breaksOff rfl
  cases a with
  | load p base address =>
    rw [perform, Prod.map_snd, id] at hbreaks ⊢
    obtain ⟨hdirect, hbeyond⟩ := breaksOff_load hbreaks
    exact breaksOff_load_of_bare hbare (mt hlasts.1 hbeyond) hdirect
  | loadAll p base addresses =>
    rw [perform, Prod.map_snd, id] at hbreaks ⊢
    exact hall hbreaks
  | compile p base doc supplied =>
    rw [perform, Prod.map_snd, id, Compile.compile_snd] at hbreaks ⊢
    split at hbreaks
    · exact absurd hbreaks hnever
    · exact hall hbreaks
  | validate p base doc =>
    rw [perform, Prod.map_snd, id, Compile.validate_snd] at hbreaks ⊢
    split at hbreaks
    · exact heach hbreaks
    · exact absurd hbreaks hnever
  | lookUp | store | clear | wait | setClock => cases ha

/-- **The cache is transparent.** Behind every history of loading,
compiling, reporting, clearing and changes of the clock, by whatever
policies, a request has the reply that it has on a shelf that has just been
made, whatever its time to live and its time. And a request does not break
off if it does not on a shelf that has just been made with the same time to
live and at the same time. -/
theorem reply_after_eq (source : Source) (lifetime now lifetime' now' : Int)
    {actions : List Action} (hactions : ∀ a ∈ actions, a.stores = false) {a : Action}
    (ha : a.isRequest = true) :
    let shelf := after source (.opened lifetime now) actions
    let fresh := Shelf.opened shelf.cache.lifetime shelf.now
    (perform source shelf a).1 = (perform source (.opened lifetime' now') a).1 ∧
      (shelf.BreaksOff (perform source shelf a).2 →
        fresh.BreaksOff (perform source fresh a).2) := by
  intro shelf fresh
  have hfaithful : Faithful source shelf :=
    faithful_after (faithful_opened source lifetime now) hactions
  exact ⟨reply_eq_of_faithful hfaithful (faithful_opened source lifetime' now') ha,
    breaksOff_opened hfaithful ha⟩

/-- An address of a schema. -/
def sampleAddress : String := "https://[1::2]/types.json"

/-- A source that has one schema. -/
def sampleSource : Source := fun url =>
  if url = sampleAddress then .ok (.object (Table.ofList [("instructionTypes", .object .nil)]))
  else .error "not found"

/-- A second after it was loaded a schema is still fresh, so that the source
is not asked again; the reply is that of a shelf that has just been made. A
load that does not break off there does not here. -/
theorem reply_after_load :
    let history : List Action := [.load .strict none sampleAddress, .wait 1000]
    let shelf := after sampleSource (.opened 3600000 0) history
    let again : Action := .load .strict none sampleAddress
    (shelf.cache.fresh? shelf.now sampleAddress).isSome = true ∧
      (∀ a ∈ history, a.stores = false) ∧
      (perform sampleSource shelf again).1 = (perform sampleSource (.opened 3600000 1000) again).1 ∧
      ¬ shelf.BreaksOff (perform sampleSource shelf again).2 := by
  intro history shelf again
  have hstores : ∀ a ∈ history, a.stores = false := by
    simp [history, Action.stores]
  obtain ⟨hreply, hbreaks⟩ :=
    reply_after_eq sampleSource 3600000 0 3600000 1000 hstores (a := again) rfl
  have hfresh : let fresh := Shelf.opened shelf.cache.lifetime shelf.now
      ¬ fresh.BreaksOff (perform sampleSource fresh again).2 := by
    decide +kernel
  exact ⟨by decide +kernel, hstores, hreply, mt hbreaks hfresh⟩

end Session

end PromptTemplate
