import Mathlib
import PromptTemplate.Proofs.Table
import PromptTemplate.Schema.Layers
/-!
# PromptTemplate — the audit trail of overridden types

Instruction types are defined layer upon layer. `Definition` is one
definition with the position of its layer; `definitions` lists them by layer
and then by name, and `history` those of one name.

Adding a layer is described once, by what it leaves in force and what it
records (`find?_addLayer`, `overrides_addLayer`). From this `Audited` is
carried from layer to layer: the last definition of a name is in force, and
the records of a name link each of its definitions to the one before it.
`resolve_audited` says so of the schemas and the own types of a template.
-/

namespace PromptTemplate

/-- A definition of an instruction type, in the layer at a place counted
from the bottom. -/
structure Definition where
  place : Nat
  name : String
  type : InstructionType
  kind : OverrideKind

namespace Definition

/-- The record of a definition that replaces an earlier one. -/
def overriding (later earlier : Definition) : Override :=
  ⟨later.name, later.type.source, earlier.type.source, later.kind⟩

/-- A definition stands before another one: in a lower layer, or in the same
one under a smaller name. -/
def Before (d e : Definition) : Prop := d.place < e.place ∨ d.place = e.place ∧ d.name < e.name

end Definition

namespace Layer

/-- The definition of a name in a layer at a place, if there is one. -/
def definition? (l : Layer) (place : Nat) (name : String) : Option Definition :=
  (l.types.find? name).map fun spec => ⟨place, name, ⟨spec, l.source⟩, l.kind⟩

/-- The definitions of a layer at a place, by name. -/
def definitions (l : Layer) (place : Nat) : List Definition :=
  l.types.toList.map fun e => ⟨place, e.1, ⟨e.2, l.source⟩, l.kind⟩

end Layer

namespace Resolution

/-- All definitions in layers, from the lowest layer up and by name in each
of them. -/
def definitions (layers : List Layer) : List Definition :=
  layers.zipIdx.flatMap fun (l, place) => l.definitions place

/-- The definitions of a name, from the lowest layer up. -/
def history (layers : List Layer) (name : String) : List Definition :=
  (definitions layers).filter (·.name == name)

/-- The records of a row of definitions, each of which replaces the one
before it. -/
def chain (ds : List Definition) : List Override :=
  List.zipWith (fun earlier later => later.overriding earlier) ds ds.tail

/-- What a definition replaces: the last definition of its name in the
layers below. -/
def replaced? (layers : List Layer) (d : Definition) : Option Definition :=
  (history (layers.take d.place) d.name).getLast?

/-! ## One layer -/

variable {r : Resolution} {l : Layer} {layers : List Layer}

/-- What a layer records above what is in force: each of its definitions of
a name that is. -/
def records (r : Resolution) (l : Layer) : List Override :=
  l.types.toList.filterMap fun e =>
    (r.types.find? e.1).map fun previous => ⟨e.1, l.source, previous.source, l.kind⟩

@[simp] theorem types_define (l : Layer) (r : Resolution) (e : String × InstructionSpec) :
    (define l r e).types = r.types.insert e.1 ⟨e.2, l.source⟩ := by
  unfold define
  dsimp only
  split <;> rfl

@[simp] theorem overrides_define (l : Layer) (r : Resolution) (e : String × InstructionSpec) :
    (define l r e).overrides = r.overrides ++
      ((r.types.find? e.1).map fun previous =>
        (⟨e.1, l.source, previous.source, l.kind⟩ : Override)).toList := by
  unfold define
  dsimp only
  split
  · rename_i hnone
    simp [hnone]
  · rename_i previous hprevious
    simp [hprevious]

/-- What a layer defines is in force above what was. -/
theorem find?_addLayer (r : Resolution) (l : Layer) (name : String) :
    (r.addLayer l).types.find? name =
      ((l.types.find? name).map (⟨·, l.source⟩)).or (r.types.find? name) := by
  suffices h : ∀ {lo : Option String} (t : Entries InstructionSpec lo) (r : Resolution),
      (t.toList.foldl (define l) r).types.find? name =
        ((t.find? name).map (⟨·, l.source⟩)).or (r.types.find? name) from h l.types r
  intro lo t
  induction t with
  | nil => exact fun r => rfl
  | cons k hk spec rest ih =>
    intro r
    rw [Entries.toList, List.foldl_cons, ih, types_define, Table.find?_insert, Entries.find?]
    by_cases hname : name = k
    · subst hname
      simp [Entries.find?_rest]
    · simp [hname]

/-- A layer adds its records to those that are there. -/
theorem overrides_addLayer (r : Resolution) (l : Layer) :
    (r.addLayer l).overrides = r.overrides ++ r.records l := by
  suffices h : ∀ {lo : Option String} (t : Entries InstructionSpec lo) (r : Resolution),
      (t.toList.foldl (define l) r).overrides = r.overrides ++ t.toList.filterMap fun e =>
        (r.types.find? e.1).map fun previous => ⟨e.1, l.source, previous.source, l.kind⟩ from
    h l.types r
  intro lo t
  induction t with
  | nil => exact fun r => (List.append_nil _).symm
  | cons k hk spec rest ih =>
    intro r
    -- the names behind the first one are others, so what was in force of them still is
    have hrest : ∀ e ∈ rest.toList,
        (define l r (k, spec)).types.find? e.1 = r.types.find? e.1 := by
      intro e he
      have hne : e.1 ≠ k := Entries.key_ne_of_above (Entries.above_of_mem he)
      simp [hne]
    have hrecords : (rest.toList.filterMap fun e =>
          ((define l r (k, spec)).types.find? e.1).map fun previous =>
            (⟨e.1, l.source, previous.source, l.kind⟩ : Override)) =
        rest.toList.filterMap fun e => (r.types.find? e.1).map fun previous =>
          ⟨e.1, l.source, previous.source, l.kind⟩ :=
      List.filterMap_congr fun e he => by rw [hrest e he]
    rw [Entries.toList, List.foldl_cons, ih, hrecords, overrides_define, List.append_assoc]
    cases hk : r.types.find? k <;> simp [hk]

/-- Of a name a layer records at most one definition. -/
theorem filter_records (r : Resolution) (l : Layer) (name : String) :
    (r.records l).filter (·.type == name) =
      ((l.types.find? name).bind fun _ => (r.types.find? name).map fun previous =>
        (⟨name, l.source, previous.source, l.kind⟩ : Override)).toList := by
  have hfilter : (r.records l).filter (·.type == name) =
      (l.types.toList.filter (·.1 == name)).filterMap fun e =>
        (r.types.find? e.1).map fun previous => ⟨e.1, l.source, previous.source, l.kind⟩ := by
    rw [records, List.filter_filterMap, List.filterMap_filter]
    refine List.filterMap_congr fun e _ => ?_
    by_cases hname : e.1 = name <;> cases r.types.find? e.1 <;> simp [hname]
  rw [hfilter, Entries.filter_toList]
  cases l.types.find? name with
  | none => rfl
  | some spec => cases hname : r.types.find? name <;> simp [hname]

/-- Every definition either is the first one of its name or leaves a
record. -/
theorem length_addLayer (r : Resolution) (l : Layer) :
    (r.addLayer l).overrides.length + (r.addLayer l).types.size =
      r.overrides.length + r.types.size + l.types.toList.length := by
  unfold addLayer
  generalize l.types.toList = es
  induction es generalizing r with
  | nil => rfl
  | cons e es ih =>
    have hstep : (define l r e).overrides.length + (define l r e).types.size =
        r.overrides.length + r.types.size + 1 := by
      rw [overrides_define, types_define, Table.size_insert, List.length_append]
      cases r.types.find? e.1 with
      | none => simp; omega
      | some previous => simp; omega
    rw [List.foldl_cons, ih, hstep, List.length_cons]
    omega

/-! ## Definitions -/

theorem definitions_append (layers : List Layer) (l : Layer) :
    definitions (layers ++ [l]) = definitions layers ++ l.definitions layers.length := by
  simp [definitions, List.zipIdx_append]

/-- A definition stands in one of the layers. -/
theorem place_lt {d : Definition} (h : d ∈ definitions layers) : d.place < layers.length := by
  obtain ⟨⟨l, place⟩, hl, hd⟩ := List.mem_flatMap.1 h
  obtain ⟨e, -, rfl⟩ := List.mem_map.1 hd
  have hplace := List.mem_zipIdx' hl
  exact hplace.1

/-- **Definitions are listed by layer and then by name.** -/
theorem pairwise_definitions (layers : List Layer) :
    (definitions layers).Pairwise Definition.Before := by
  induction layers using List.reverseRecOn with
  | nil => exact .nil
  | append_singleton layers l ih =>
    rw [definitions_append, List.pairwise_append]
    refine ⟨ih, ?_, ?_⟩
    · exact List.pairwise_map.2 (l.types.pairwise_toList.imp fun h => .inr ⟨rfl, h⟩)
    · intro d hd e he
      obtain ⟨entry, -, rfl⟩ := List.mem_map.1 he
      exact .inl (place_lt hd)

/-- A layer has at most one definition of a name. -/
theorem filter_definitions (l : Layer) (place : Nat) (name : String) :
    (l.definitions place).filter (·.name == name) = (l.definition? place name).toList := by
  rw [Layer.definitions, List.filter_map]
  have hnames : l.types.toList.filter ((fun d : Definition => d.name == name) ∘
      fun e => ⟨place, e.1, ⟨e.2, l.source⟩, l.kind⟩) = l.types.toList.filter (·.1 == name) := rfl
  rw [hnames, Entries.filter_toList, Layer.definition?]
  cases l.types.find? name <;> rfl

theorem history_append (layers : List Layer) (l : Layer) (name : String) :
    history (layers ++ [l]) name =
      history layers name ++ (l.definition? layers.length name).toList := by
  rw [history, definitions_append, List.filter_append, filter_definitions, history]

/-- A name has a history exactly if some layer defines it. -/
theorem history_ne_nil {name : String} :
    history layers name ≠ [] ↔ ∃ l ∈ layers, name ∈ l.types.keys := by
  induction layers using List.reverseRecOn with
  | nil => simp [history, definitions]
  | append_singleton layers l ih =>
    rw [history_append, Ne, List.append_eq_nil_iff, not_and_or, ← Ne, ih]
    simp only [List.mem_append, List.mem_singleton, or_and_right, exists_or, exists_eq_left,
      Entries.mem_keys, Layer.definition?]
    cases l.types.find? name <;> simp

/-- One more definition replaces the last one. -/
theorem chain_append (ds : List Definition) (d : Definition) :
    chain (ds ++ [d]) = chain ds ++ (ds.getLast?.map d.overriding).toList := by
  induction ds with
  | nil => rfl
  | cons e ds ih =>
    cases ds with
    | nil => rfl
    | cons f ds =>
      have hlast : (e :: f :: ds).getLast? = (f :: ds).getLast? := List.getLast?_cons_cons
      rw [hlast]
      exact congrArg (f.overriding e :: ·) ih

theorem length_chain (ds : List Definition) : (chain ds).length = ds.length - 1 := by
  simp [chain]

/-! ## The trail -/

/-- **The trail of layers:** what is in force above them, and what has been
recorded. -/
structure Audited (layers : List Layer) (r : Resolution) : Prop where
  /-- The last definition of a name is in force. -/
  current (name : String) : r.types.find? name = (history layers name).getLast?.map (·.type)
  /-- The records of a name link each of its definitions to the one before
  it, in this order. -/
  linked (name : String) : r.overrides.filter (·.type == name) = chain (history layers name)
  /-- The records stand in the order of the definitions that made them. -/
  ordered : r.overrides =
    (definitions layers).filterMap fun d => (replaced? layers d).map d.overriding
  /-- There is a record for every definition that is not the first one of its
  name. -/
  counted : r.overrides.length + r.types.size = (definitions layers).length

theorem audited_empty : Audited [] empty where
  current _ := rfl
  linked _ := rfl
  ordered := rfl
  counted := rfl

/-- **Every layer keeps the trail.** -/
theorem Audited.addLayer (h : Audited layers r) (l : Layer) :
    Audited (layers ++ [l]) (r.addLayer l) where
  current name := by
    rw [find?_addLayer, h.current, history_append, Layer.definition?]
    cases l.types.find? name with
    | none => simp
    | some spec => simp
  linked name := by
    rw [overrides_addLayer, List.filter_append, h.linked, filter_records, h.current,
      history_append, Layer.definition?]
    cases l.types.find? name with
    | none => simp
    | some spec =>
      cases hlast : (history layers name).getLast? with
      | none => simp [chain_append, hlast]
      | some d => simp [chain_append, hlast, Definition.overriding]
  ordered := by
    have hbelow : ∀ d ∈ definitions layers, replaced? (layers ++ [l]) d = replaced? layers d := by
      intro d hd
      have hplace : d.place ≤ layers.length := (place_lt hd).le
      rw [replaced?, List.take_append_of_le_length hplace, replaced?]
    have htop : (l.definitions layers.length).filterMap
          (fun d => (replaced? (layers ++ [l]) d).map d.overriding) = r.records l := by
      rw [Layer.definitions, List.filterMap_map]
      refine List.filterMap_congr fun e _ => ?_
      have hlast : replaced? (layers ++ [l]) ⟨layers.length, e.1, ⟨e.2, l.source⟩, l.kind⟩ =
          (history layers e.1).getLast? := by simp [replaced?]
      rw [Function.comp_apply, hlast, h.current]
      cases (history layers e.1).getLast? <;> rfl
    rw [overrides_addLayer, definitions_append, List.filterMap_append, htop, h.ordered]
    congr 1
    exact List.filterMap_congr fun d hd => by rw [hbelow d hd]
  counted := by
    have hlength : (l.definitions layers.length).length = l.types.toList.length :=
      List.length_map ..
    rw [length_addLayer, definitions_append, List.length_append, ← h.counted, hlength]

/-- **All layers have a trail.** -/
theorem audited_ofLayers (layers : List Layer) : Audited layers (ofLayers layers) := by
  induction layers using List.reverseRecOn with
  | nil => exact audited_empty
  | append_singleton layers l ih =>
    have hlayers : ofLayers (layers ++ [l]) = (ofLayers layers).addLayer l := by simp [ofLayers]
    rw [hlayers]
    exact ih.addLayer l

/-! ## Templates -/

/-- Above schemas the last one that defines a name prevails. -/
theorem find?_ofLayers_schemas (schemas : List Schema) (name : String) :
    (ofLayers (schemas.map Schema.layer)).types.find? name =
      schemas.reverse.findSome? fun s => (s.types.find? name).map (⟨·, s.url⟩) := by
  induction schemas using List.reverseRecOn with
  | nil => rfl
  | append_singleton schemas s ih =>
    have hlayers : ofLayers ((schemas ++ [s]).map Schema.layer) =
        (ofLayers (schemas.map Schema.layer)).addLayer s.layer := by simp [ofLayers]
    rw [hlayers, find?_addLayer, ih, List.reverse_append, List.reverse_singleton,
      List.singleton_append, List.findSome?_cons]
    cases hs : s.types.find? name <;> simp [Schema.layer, hs]

/-- The own types of a template lie on top, and only they are custom. -/
theorem kind_eq_custom_iff {schemas : List Schema} {custom : Table InstructionSpec}
    {d : Definition} (h : d ∈ definitions (schemas.map Schema.layer ++ [customLayer custom])) :
    d.kind = .custom ↔ d.place = schemas.length := by
  rw [definitions_append, List.mem_append, List.length_map] at h
  rcases h with h | h
  · have hplace := place_lt h
    rw [List.length_map] at hplace
    obtain ⟨⟨l, place⟩, hl, hd⟩ := List.mem_flatMap.1 h
    obtain ⟨e, -, rfl⟩ := List.mem_map.1 hd
    obtain ⟨s, -, rfl⟩ := List.mem_map.1 (List.fst_mem_of_mem_zipIdx hl)
    exact iff_of_false (by simp [Schema.layer]) hplace.ne
  · obtain ⟨e, -, rfl⟩ := List.mem_map.1 h
    exact iff_of_true rfl rfl

/-- **The last definition wins, and every other one is on record.** For all
schemas and all types of a template's own: exactly the names that are
defined anywhere are in force. Each has its last definition, which is the
template's own if there is one and else that of the last schema that defines
it, with its source. A name that is defined `n` times has `n - 1` records,
which link its definitions in their order, and those of the template's own
are the custom ones. All records stand in the order of layers and then of
names, and there are as many as there are definitions above the number of
names. -/
theorem resolve_audited (schemas : List Schema) (custom : Table InstructionSpec) :
    let layers := schemas.map Schema.layer ++ [customLayer custom]
    let r := resolve schemas custom
    (∀ name, name ∈ r.types.keys ↔ ∃ l ∈ layers, name ∈ l.types.keys) ∧
    (∀ name, r.types.find? name =
      ((custom.find? name).map (⟨·, customSource⟩)).or
        (schemas.reverse.findSome? fun s => (s.types.find? name).map (⟨·, s.url⟩))) ∧
    Audited layers r ∧
    (∀ name, (r.overrides.filter (·.type == name)).length = (history layers name).length - 1) ∧
    (∀ d ∈ definitions layers, d.kind = .custom ↔ d.place = schemas.length) ∧
    (definitions layers).Pairwise Definition.Before := by
  intro layers r
  have haudited : Audited layers r := audited_ofLayers layers
  refine ⟨fun name => ?_, fun name => ?_, haudited, fun name => ?_, fun d => kind_eq_custom_iff,
    pairwise_definitions layers⟩
  · rw [Entries.mem_keys, haudited.current, ← history_ne_nil, Option.isSome_map,
      List.getLast?_isSome]
  · have htop : r = (ofLayers (schemas.map Schema.layer)).addLayer (customLayer custom) := by
      simp [r, resolve, ofLayers]
    rw [htop, find?_addLayer, find?_ofLayers_schemas]
    rfl
  · rw [haudited.linked, length_chain]

/-- A type that two schemas and the template define leaves two records. -/
example :
    let types := Table.ofList [("list", (⟨"Items", none, none⟩ : InstructionSpec))]
    (resolve [⟨"https://a", types⟩, ⟨"https://b", types⟩] types).overrides =
      [⟨"list", "https://b", "https://a", .extension⟩,
        ⟨"list", "custom", "https://b", .custom⟩] := by
  decide

end Resolution

end PromptTemplate
