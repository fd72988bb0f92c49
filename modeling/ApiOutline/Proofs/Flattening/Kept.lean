import ApiOutline.Proofs.Flattening.Repeats
import ApiOutline.Proofs.Flattening.Termination

/-!
Which sets are kept. In every state that flattening comes to, the names kept are those that were
looked up, are not on the path, and have a schema from which no circle is reachable (`Tracks`).

Circles are never looked for. The numbers of references cut before and after a walk are compared,
and `Agrees` says that these are equal exactly if no circle is reachable. A walk in which kept sets
were met is no exception: such sets come from schemas without circles, where a walk would not have
cut anything either.
-/

set_option autoImplicit false
set_option relaxedAutoImplicit false

namespace ApiOutline.Flattening

open OpenApi (Components Schema refName)

/-- A name of the table from whose schema no circle is reachable. -/
def Calm (schemas : Table Schema) (name : String) : Prop :=
  ∃ target, schemas.get? name = some target ∧ Acyclic schemas target

/-- Some names were looked up before a state. What is kept in it is right, and kept are the calm
ones among the names, except those whose schemas are being walked. -/
structure Tracks (schemas : Table Schema) (names : List String) (state : Flattening) : Prop where
  sound : CacheSound schemas state
  mem_cache_iff : ∀ name, name ∈ state.cache.map Prod.fst ↔
    name ∈ names ∧ name ∉ state.path ∧ Calm schemas name

/-- A call for a schema to which the walk leads from every name of the path. -/
def Call.Below (schemas : Table Schema) (state : Flattening) : Call → Prop
  | .component name schema =>
    schemas.get? name = some schema ∧ name ∉ state.path ∧ Above schemas state.path schema
  | .collect schema _ => Above schemas state.path schema
  | .collectAll list _ => ∀ schema ∈ list, Above schemas state.path schema

/-- Names were looked up before a state of flattening: one between the schemas of the table, or one
before or after a call in the course of the lookup of a schema. -/
inductive Reached (schemas : Table Schema) : List String → Flattening → Prop
  | between {names : List String} {rest : List (String × Schema)} {state : Flattening}
      (hpasses : Passes schemas schemas.entries .start names rest state) :
      Reached schemas names state
  | called {names further : List String} {name : String} {schema : Schema} {inner : Call}
      {rest : List (String × Schema)} {state moment : Flattening}
      (hpasses : Passes schemas schemas.entries .start names ((name, schema) :: rest) state)
      (hmakes : Makes schemas (.component name schema) state further inner moment) :
      Reached schemas (names ++ further) moment
  | returned {names further more : List String} {name : String} {schema : Schema} {inner : Call}
      {rest : List (String × Schema)} {state moment after : Flattening} {set : PropertySet}
      (hpasses : Passes schemas schemas.entries .start names ((name, schema) :: rest) state)
      (hmakes : Makes schemas (.component name schema) state further inner moment)
      (hreturns : Returns schemas inner moment more (set, after)) :
      Reached schemas (names ++ further ++ more) after

variable {schemas : Table Schema} {call inner : Call} {state before after moment : Flattening}
  {name : String} {schema : Schema} {set : PropertySet} {names further : List String}
  {result : PropertySet × Flattening}

theorem calm_iff (hget : schemas.get? name = some schema) :
    Calm schemas name ↔ Acyclic schemas schema := by
  rw [Calm, hget]
  simp

/-! ### Calls below a path -/

theorem Call.Below.fresh (h : call.Below schemas state) : call.Fresh schemas state := by
  cases call with
  | component name schema => exact ⟨h.1, h.2.1⟩
  | _ => trivial

theorem Call.Below.walk (h : (Call.component name schema).Below schemas state) (set : PropertySet) :
    (Call.collect schema set).Below schemas (state.enter name) :=
  h.2.2.cons h.1

theorem Call.Below.target {target : Schema} {ref : String}
    (h : (Call.collect schema set).Below schemas state) (href : schema.ref = some ref)
    (hpath : refName ref ∉ state.path) (hget : schemas.get? (refName ref) = some target) :
    (Call.component (refName ref) target).Below schemas state :=
  ⟨hget, hpath, Above.leads h (.ofRef href hget)⟩

theorem Call.Below.plain (h : (Call.collect schema set).Below schemas state)
    (hplain : schema.ref = none) : (Call.collectAll (members schema) set).Below schemas state :=
  fun _ hmember ↦ Above.leads h (.member hplain hmember)

theorem Call.Below.first {rest : List Schema}
    (h : (Call.collectAll (schema :: rest) set).Below schemas state) :
    (Call.collect schema set).Below schemas state :=
  h schema List.mem_cons_self

theorem Call.Below.rest {rest : List Schema} {collected : PropertySet}
    (h : (Call.collectAll (schema :: rest) set).Below schemas state)
    (hfirst : Returns schemas (.collect schema set) state names (collected, moment)) :
    (Call.collectAll rest collected).Below schemas moment := by
  intro next hnext
  have hpath : moment.path = state.path := hfirst.path_eq
  rw [hpath]
  exact h next (List.mem_cons_of_mem schema hnext)

/-- What is looked up is what plain flattening gives, and nothing is cut exactly if no circle is
reachable. -/
theorem Returns.component_agrees
    (h : Returns schemas (.component name schema) state names result)
    (hbelow : (Call.component name schema).Below schemas state)
    (hsound : CacheSound schemas state) :
    Agrees schemas (Acyclic schemas schema) (Plain.component schemas state.path name schema) state
      result := by
  have hroom := room_le schemas state.path
  rw [← h.run_eq hbelow.fresh hroom]
  exact component_exact schemas _ name schema state hbelow.1 hbelow.2.1 ⟨hsound, hbelow.2.2, hroom⟩

theorem Returns.collect_agrees (h : Returns schemas (.collect schema set) state names result)
    (hbelow : (Call.collect schema set).Below schemas state) (hsound : CacheSound schemas state) :
    Agrees schemas (Acyclic schemas schema) (Plain.collect schemas state.path schema set) state
      result := by
  have hroom := room_le schemas state.path
  rw [← h.run_eq hbelow.fresh hroom]
  exact Flattening.collect_agrees (component_exact schemas _) schema set state
    ⟨hsound, hbelow, hroom⟩

/-! ### What a lookup does to the names kept -/

theorem Tracks.start : Tracks schemas [] .start where
  sound := CacheSound.start
  mem_cache_iff := by simp [Flattening.start]

theorem Tracks.cut (h : Tracks schemas names state) : Tracks schemas names state.cut :=
  ⟨h.sound, h.mem_cache_iff⟩

/-- Looking up a name that is kept adds none. -/
theorem Tracks.again (h : Tracks schemas names state)
    (hcache : state.cache.lookup name = some set) : Tracks schemas (names ++ [name]) state where
  sound := h.sound
  mem_cache_iff := by
    intro other
    have hkept := (h.mem_cache_iff name).mp (mem_cache_of_lookup hcache)
    rw [h.mem_cache_iff, List.mem_append, List.mem_singleton]
    constructor
    · exact fun ⟨hother, hcalm⟩ ↦ ⟨.inl hother, hcalm⟩
    · rintro ⟨hother | rfl, hcalm⟩
      · exact ⟨hother, hcalm⟩
      · exact hkept

/-- A name that is looked up and not kept goes onto the path, where none is kept. -/
theorem Tracks.enter (h : Tracks schemas names state)
    (hcache : state.cache.lookup name = none) :
    Tracks schemas (names ++ [name]) (state.enter name) where
  sound := h.sound
  mem_cache_iff := by
    intro other
    change other ∈ state.cache.map Prod.fst ↔ other ∈ names ++ [name] ∧
      other ∉ name :: state.path ∧ Calm schemas other
    rw [List.mem_append, List.mem_singleton, List.mem_cons, not_or]
    constructor
    · intro hother
      have hne : other ≠ name := fun heq ↦ lookup_cache_eq_none_iff.mp hcache (heq ▸ hother)
      obtain ⟨hnames, hpath, hcalm⟩ := (h.mem_cache_iff other).mp hother
      exact ⟨.inl hnames, ⟨hne, hpath⟩, hcalm⟩
    · rintro ⟨hnames | rfl, ⟨hne, hpath⟩, hcalm⟩
      · exact (h.mem_cache_iff other).mpr ⟨hnames, hpath, hcalm⟩
      · exact absurd rfl hne

theorem mem_cache_leaveSince {other : String} :
    other ∈ (after.leaveSince before name set).cache.map Prod.fst ↔
      other ∈ after.cache.map Prod.fst ∨ other = name ∧ after.cuts = before.cuts := by
  rw [leaveSince]
  split
  · next hcuts =>
    change other ∈ name :: after.cache.map Prod.fst ↔ _
    rw [List.mem_cons, or_comm, and_iff_left hcuts]
  · next hcuts =>
    change other ∈ after.cache.map Prod.fst ↔ _
    rw [or_iff_left fun h ↦ hcuts h.2]

/-- On leaving the schema of a name, that name is kept exactly if it is calm, and of the others
those that were. -/
theorem Tracks.leaveSince (h : Tracks schemas names after) (hname : name ∈ names)
    (hfresh : name ∉ before.path) (hpath : after.path = name :: before.path)
    (hcuts : after.cuts = before.cuts ↔ Calm schemas name)
    (hsound : CacheSound schemas (after.leaveSince before name set)) :
    Tracks schemas names (after.leaveSince before name set) where
  sound := hsound
  mem_cache_iff := by
    intro other
    rw [mem_cache_leaveSince, path_leaveSince, h.mem_cache_iff, hpath, List.erase_cons_head,
      List.mem_cons, not_or, hcuts]
    by_cases heq : other = name
    · subst heq
      simp [hname, hfresh]
    · simp [heq]

/-! ### What a call keeps -/

theorem Returns.tracks (h : Returns schemas call state further result)
    (hbelow : call.Below schemas state) (htracks : Tracks schemas names state) :
    Tracks schemas (names ++ further) result.2 := by
  induction h generalizing names with
  | kept hcache => exact htracks.again hcache
  | @walked name schema state after further set hcache hwalk ih =>
    have hentered := htracks.enter hcache
    have hagrees := hwalk.collect_agrees (hbelow.walk .empty) hentered.sound
    have hafter : Tracks schemas (names ++ name :: further) after := by
      have hwalked := ih (hbelow.walk .empty) hentered
      rwa [List.append_assoc] at hwalked
    -- A reference cut below because of a name of the path closes a circle through that name, so it
    -- is no mistake that the comparison counts it too.
    have hcuts : after.cuts = state.cuts ↔ Calm schemas name :=
      hagrees.cuts_eq_iff.trans (calm_iff hbelow.1).symm
    have hsound := ((Returns.walked hcache hwalk).component_agrees hbelow htracks.sound).sound
    exact hafter.leaveSince (by simp) hbelow.2.1 hagrees.path_eq hcuts hsound
  | cut => exact (List.append_nil names).symm ▸ htracks.cut
  | dangling | nil => exact (List.append_nil names).symm ▸ htracks
  | target href hpath hget _ ih => exact ih (hbelow.target href hpath hget) htracks
  | plain hplain _ ih => exact ih (hbelow.plain hplain) htracks
  | cons hfirst _ ihfirst ihrest =>
    rw [← List.append_assoc]
    exact ihrest (hbelow.rest hfirst) (ihfirst hbelow.first htracks)

theorem Makes.tracks (h : Makes schemas call state further inner moment)
    (hbelow : call.Below schemas state) (htracks : Tracks schemas names state) :
    inner.Below schemas moment ∧ Tracks schemas (names ++ further) moment := by
  induction h generalizing names with
  | self => exact ⟨hbelow, (List.append_nil names).symm ▸ htracks⟩
  | walk hcache _ ih =>
    rw [List.append_cons]
    exact ih (hbelow.walk .empty) (htracks.enter hcache)
  | target href hpath hget _ ih => exact ih (hbelow.target href hpath hget) htracks
  | plain hplain _ ih => exact ih (hbelow.plain hplain) htracks
  | first _ ih => exact ih hbelow.first htracks
  | rest hfirst _ ih =>
    rw [← List.append_assoc]
    exact ih (hbelow.rest hfirst) (hfirst.tracks hbelow.first htracks)

/-! ### What a run keeps -/

/-- With nothing on the path, every schema of the table can be looked up. -/
theorem below_of_path_eq_nil {entry : String × Schema} (hentry : entry ∈ schemas.entries)
    (hpath : state.path = []) : (Call.component entry.1 entry.2).Below schemas state := by
  obtain ⟨hget, hfresh⟩ := fresh_of_path_eq_nil hentry hpath
  exact ⟨hget, hfresh, hpath ▸ Above.nil entry.2⟩

theorem Passes.tracks {list remaining : List (String × Schema)}
    (h : Passes schemas list state further remaining after) (hlist : list ⊆ schemas.entries)
    (hpath : state.path = []) (htracks : Tracks schemas names state) :
    Tracks schemas (names ++ further) after := by
  induction h generalizing names with
  | here => exact (List.append_nil names).symm ▸ htracks
  | next hentry _ ih =>
    obtain ⟨hmem, hrest⟩ := List.cons_subset.mp hlist
    have hfirst := hentry.tracks (below_of_path_eq_nil hmem hpath) htracks
    rw [← List.append_assoc]
    exact ih hrest (hentry.path_eq.trans hpath) hfirst

theorem Passes.tracks_entries {rest : List (String × Schema)}
    (h : Passes schemas schemas.entries .start names rest state) : Tracks schemas names state := by
  have htracks := h.tracks (List.Subset.refl _) rfl .start
  rwa [List.nil_append] at htracks

theorem Makes.tracks_entries {rest : List (String × Schema)}
    (h : Makes schemas (.component name schema) state further inner moment)
    (hpasses : Passes schemas schemas.entries .start names ((name, schema) :: rest) state) :
    inner.Below schemas moment ∧ Tracks schemas (names ++ further) moment :=
  h.tracks (below_of_path_eq_nil (hpasses.subset List.mem_cons_self) (hpasses.path_eq_nil rfl))
    hpasses.tracks_entries

theorem Reached.tracks (h : Reached schemas names state) : Tracks schemas names state := by
  cases h with
  | between hpasses => exact hpasses.tracks_entries
  | called hpasses hmakes => exact (hmakes.tracks_entries hpasses).2
  | returned hpasses hmakes hreturns =>
    obtain ⟨hbelow, htracks⟩ := hmakes.tracks_entries hpasses
    exact hreturns.tracks hbelow htracks

theorem Tracks.of_lookup (h : Tracks schemas names state)
    (hcache : state.cache.lookup name = some set) : name ∉ state.path ∧
      ∃ target, schemas.get? name = some target ∧ Acyclic schemas target ∧
        set = Plain.component schemas [] name target :=
  ⟨((h.mem_cache_iff name).mp (mem_cache_of_lookup hcache)).2.1, h.sound name set hcache⟩

/-- The run over a table comes to each of its schemas. Between them, the names kept are those that
were looked up and from whose schemas no circle is reachable. Before and after every call in the
course of the run that is so for the names outside the path, none of the path is kept, and every set
kept is the one that flattening the schema of its name from an empty path gives without keeping
any. -/
theorem kept_exactly_acyclic (components : Components) :
    (∀ done rest, components.schemas.entries = done ++ rest → ∃ names,
      Passes components.schemas components.schemas.entries .start names rest
        (Flattening.components components.schemas done .start).2) ∧
      (∀ names rest state,
        Passes components.schemas components.schemas.entries .start names rest state →
          ∀ name, name ∈ state.cache.map Prod.fst ↔
            name ∈ names ∧ Calm components.schemas name) ∧
      ∀ names state, Reached components.schemas names state →
        (∀ name, name ∈ state.cache.map Prod.fst ↔
          name ∈ names ∧ name ∉ state.path ∧ Calm components.schemas name) ∧
        ∀ name set, state.cache.lookup name = some set → name ∉ state.path ∧
          ∃ target, components.schemas.get? name = some target ∧
            Acyclic components.schemas target ∧
            set = Plain.component components.schemas [] name target := by
  refine ⟨?_, ?_, ?_⟩
  · intro done rest hentries
    rw [hentries]
    exact exists_passes (hentries ▸ List.subset_append_left done rest) rest rfl
  · intro names rest state hpasses name
    have hpath : state.path = [] := hpasses.path_eq_nil rfl
    rw [hpasses.tracks_entries.mem_cache_iff, hpath]
    simp
  · intro names state hreached
    exact ⟨hreached.tracks.mem_cache_iff, fun name set ↦ hreached.tracks.of_lookup⟩

private def allOfNamed (name : String) : Schema :=
  { Schema.blank with allOf := [{ Schema.blank with ref := some name }] }

/-- The set of a schema that refers to another one is kept, that of one that refers to itself is
not. -/
theorem kept_exactly_acyclic_named :
    let named : Schema := { Schema.blank with properties := [("name", .blank)] }
    let schemas : Table Schema :=
      .ofList [("Pet", allOfNamed "Named"), ("Named", named), ("Loop", allOfNamed "Loop")]
    let state := (Flattening.components schemas schemas.entries .start).2
    let set : PropertySet := ⟨[("name", .blank)], []⟩
    state.cache.map Prod.fst = ["Pet", "Named"] ∧ state.cache.lookup "Pet" = some set ∧
      ∃ names, Passes schemas schemas.entries .start names [] state ∧
        (∀ name, name ∈ state.cache.map Prod.fst ↔ name ∈ names ∧ Calm schemas name) ∧
        Reached schemas names state ∧
        (∀ name, name ∈ state.cache.map Prod.fst ↔
          name ∈ names ∧ name ∉ state.path ∧ Calm schemas name) ∧
        "Pet" ∉ state.path ∧ ∃ target, schemas.get? "Pet" = some target ∧
          Acyclic schemas target ∧ set = Plain.component schemas [] "Pet" target := by
  intro named schemas state set
  have hlookup : state.cache.lookup "Pet" = some set := rfl
  obtain ⟨hcomes, hbetween, hreached⟩ := kept_exactly_acyclic { Components.empty with schemas }
  obtain ⟨names, hpasses⟩ := hcomes schemas.entries [] (List.append_nil _).symm
  obtain ⟨hkept, hsets⟩ := hreached names state (.between hpasses)
  exact ⟨rfl, hlookup, names, hpasses, hbetween names [] state hpasses, .between hpasses, hkept,
    hsets "Pet" set hlookup⟩

end ApiOutline.Flattening
