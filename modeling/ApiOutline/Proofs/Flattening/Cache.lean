import ApiOutline.Proofs.Flattening.Plain

/-!
The sets kept while flattening change nothing. A set is kept if no reference was cut while it was
made, and that is so exactly if no circle is reachable from its schema (`Agrees.cuts_eq_iff`). Such
a set does not depend on the path it was made below, and so is right below every other.

`component_exact` is the step: a lookup gives the set of plain flattening below the current path,
restores the path, and keeps only right sets. It is an induction on the allowance, which never runs
out as long as it covers the names outside the path. `ofSchemas_eq_plainOfSchemas` is the run over
all schemas of a table.
-/

set_option autoImplicit false
set_option relaxedAutoImplicit false

namespace ApiOutline.Flattening

open OpenApi (Schema refName)

variable {schemas : Table Schema} {find : Lookup} {allowance : ℕ}

/-! ### What a step of flattening does -/

/-- Every set kept is that of a schema of the table from which no circle is reachable. -/
def CacheSound (schemas : Table Schema) (state : Flattening) : Prop :=
  ∀ name set, state.cache.lookup name = some set → ∃ target, schemas.get? name = some target ∧
    Acyclic schemas target ∧ set = Plain.component schemas [] name target

/-- A state in which a schema can be walked: what is kept is right, the names of the path are those
of schemas above, and the allowance covers the names outside the path. -/
structure Ready (schemas : Table Schema) (allowance : ℕ) (schema : Schema) (state : Flattening) :
    Prop where
  sound : CacheSound schemas state
  above : Above schemas state.path schema
  room_le : room schemas state.path ≤ allowance

/-- A step from a state gives the set of plain flattening and a sound state with the same path. It
cuts no reference exactly if what it walks is `calm`: no circle is reachable from there. -/
structure Agrees (schemas : Table Schema) (calm : Prop) (plain : PropertySet) (before : Flattening)
    (result : PropertySet × Flattening) : Prop where
  set_eq : result.1 = plain
  path_eq : result.2.path = before.path
  sound : CacheSound schemas result.2
  cuts_le : before.cuts ≤ result.2.cuts
  cuts_eq_iff : result.2.cuts = before.cuts ↔ calm

/-- A lookup agrees with plain flattening for every name that is not on the path. -/
def Exact (schemas : Table Schema) (allowance : ℕ) (find : Lookup) : Prop :=
  ∀ name target state, schemas.get? name = some target → name ∉ state.path →
    Ready schemas allowance target state →
    Agrees schemas (Acyclic schemas target) (Plain.component schemas state.path name target) state
      (find name target state)

theorem Ready.leads {schema next : Schema} {state : Flattening}
    (h : Ready schemas allowance schema state) (hnext : Leads schemas schema next) :
    Ready schemas allowance next state :=
  ⟨h.sound, h.above.leads hnext, h.room_le⟩

/-- A step leaves a state in which everything can be walked that could be before. -/
theorem Ready.after {schema : Schema} {calm : Prop} {plain : PropertySet} {before : Flattening}
    {result : PropertySet × Flattening} (h : Ready schemas allowance schema before)
    (hstep : Agrees schemas calm plain before result) :
    Ready schemas allowance schema result.2 where
  sound := hstep.sound
  above := hstep.path_eq ▸ h.above
  room_le := hstep.path_eq ▸ h.room_le

/-- Entering the schema of a name uses up one of the names outside the path. -/
theorem Ready.enter {name : String} {target : Schema} {state : Flattening}
    (h : Ready schemas (allowance + 1) target state) (hget : schemas.get? name = some target)
    (hname : name ∉ state.path) : Ready schemas allowance target (state.enter name) where
  sound := h.sound
  above := h.above.cons hget
  room_le := by
    have hless := room_cons_lt hname (Table.mem_keys_of_get? hget)
    have hroom := h.room_le
    change room schemas (name :: state.path) ≤ allowance
    omega

/-- The allowance has not run out where the schema of a name is entered. -/
theorem not_ready_zero {name : String} {target : Schema} {state : Flattening}
    (hget : schemas.get? name = some target) (hname : name ∉ state.path) :
    ¬ Ready schemas 0 target state := by
  intro h
  have hless := room_cons_lt hname (Table.mem_keys_of_get? hget)
  have hroom := h.room_le
  omega

/-- Between the walks of a table any of its schemas can be walked. -/
theorem ready_of_path_eq_nil (schema : Schema) {state : Flattening} (hpath : state.path = [])
    (hsound : CacheSound schemas state) : Ready schemas schemas.entries.length schema state :=
  ⟨hsound, hpath ▸ Above.nil schema, room_le schemas state.path⟩

/-- A step that does nothing, where there is nothing to walk. -/
theorem Agrees.still {calm : Prop} {state : Flattening} {set : PropertySet} (hcalm : calm)
    (hsound : CacheSound schemas state) : Agrees schemas calm set state (set, state) where
  set_eq := rfl
  path_eq := rfl
  sound := hsound
  cuts_le := Nat.le_refl state.cuts
  cuts_eq_iff := by simp [hcalm]

/-- The number of cuts is kept over two steps exactly if each step keeps it. -/
theorem Agrees.trans {first second : Prop} {plain plain' : PropertySet} {before : Flattening}
    {middle after : PropertySet × Flattening} (h : Agrees schemas first plain before middle)
    (h' : Agrees schemas second plain' middle.2 after) :
    Agrees schemas (first ∧ second) plain' before after where
  set_eq := h'.set_eq
  path_eq := h'.path_eq.trans h.path_eq
  sound := h'.sound
  cuts_le := Nat.le_trans h.cuts_le h'.cuts_le
  cuts_eq_iff := by
    have hle := h.cuts_le
    have hle' := h'.cuts_le
    rw [← h.cuts_eq_iff, ← h'.cuts_eq_iff]
    omega

/-! ### The recursion through members -/

theorem collectReference_agrees (hfind : Exact schemas allowance find) {schema : Schema}
    {ref : String} (href : schema.ref = some ref) (set : PropertySet) {state : Flattening}
    (hready : Ready schemas allowance schema state) :
    Agrees schemas (Acyclic schemas schema) (Plain.collect schemas state.path schema set) state
      (collectReference find schemas ref set state) := by
  by_cases hpath : refName ref ∈ state.path
  · rw [collectReference, if_pos hpath, Plain.collect_of_cut href hpath]
    refine ⟨rfl, rfl, hready.sound, Nat.le_succ state.cuts, ?_⟩
    have hcircle := hready.above.not_acyclic href hpath
    simp [cut, hcircle]
  · rw [collectReference, if_neg hpath]
    cases hget : schemas.get? (refName ref) with
    | none =>
      rw [Plain.collect_of_dangling href hget]
      exact Agrees.still (acyclic_of_dangling href hget) hready.sound
    | some target =>
      have hfound := hfind (refName ref) target state hget hpath
        (hready.leads (.ofRef href hget))
      rw [Plain.collect_of_target href hpath hget, acyclic_of_ref href hget, ← hfound.set_eq]
      exact { hfound with set_eq := rfl }

theorem collectAll_agrees {list : List Schema}
    (hlist : ∀ schema ∈ list, ∀ set state, Ready schemas allowance schema state →
      Agrees schemas (Acyclic schemas schema) (Plain.collect schemas state.path schema set) state
        (collect find schemas schema set state))
    (set : PropertySet) (state : Flattening) (hsound : CacheSound schemas state)
    (hready : ∀ schema ∈ list, Ready schemas allowance schema state) :
    Agrees schemas (∀ schema ∈ list, Acyclic schemas schema)
      (Plain.collectAll schemas state.path list set) state
      (collectAll find schemas list set state) := by
  induction list generalizing set state with
  | nil =>
    rw [collectAll, Plain.collectAll]
    exact Agrees.still (by simp) hsound
  | cons schema rest ih =>
    obtain ⟨hlistFirst, hlistRest⟩ := List.forall_mem_cons.mp hlist
    obtain ⟨hreadyFirst, hreadyRest⟩ := List.forall_mem_cons.mp hready
    have hfirst := hlistFirst set state hreadyFirst
    have hrest := ih hlistRest (collect find schemas schema set state).1
      (collect find schemas schema set state).2 hfirst.sound
      fun next hnext ↦ (hreadyRest next hnext).after hfirst
    rw [hfirst.path_eq] at hrest
    rw [collectAll, Plain.collectAll, List.forall_mem_cons, ← hfirst.set_eq]
    exact hfirst.trans hrest

/-- A schema is collected as by plain flattening, if the schemas of names are. -/
theorem collect_agrees (hfind : Exact schemas allowance find) (schema : Schema) (set : PropertySet)
    (state : Flattening) (hready : Ready schemas allowance schema state) :
    Agrees schemas (Acyclic schemas schema) (Plain.collect schemas state.path schema set) state
      (collect find schemas schema set state) := by
  induction schema using members_induction generalizing set state with
  | step schema ih =>
    cases href : schema.ref with
    | some ref =>
      rw [collect_of_ref href]
      exact collectReference_agrees hfind href set hready
    | none =>
      have hall := collectAll_agrees ih set state hready.sound
        fun member hmember ↦ hready.leads (.member href hmember)
      rw [collect_of_plain href, Plain.collect_of_plain href, acyclic_of_plain href, ← hall.set_eq]
      exact { hall with set_eq := rfl }

/-! ### The lookup of names -/

theorem CacheSound.start : CacheSound schemas start := by
  intro name set hset
  simp [Flattening.start] at hset

theorem CacheSound.keep {state : Flattening} {name : String} {set : PropertySet} {target : Schema}
    (h : CacheSound schemas state) (hget : schemas.get? name = some target)
    (hacyclic : Acyclic schemas target) (hset : set = Plain.component schemas [] name target) :
    CacheSound schemas (state.keep name set) := by
  intro other otherSet hother
  by_cases hname : other = name
  · subst hname
    simp only [Flattening.keep, List.lookup_cons_self, Option.some.injEq] at hother
    exact ⟨target, hget, hacyclic, hother ▸ hset⟩
  · rw [Flattening.keep, List.lookup_cons, beq_eq_false_iff_ne.mpr hname] at hother
    exact h other otherSet hother

/-- The set of an acyclic schema is the same below every path of names above. -/
theorem Plain.component_congr_path {path : List String} {name : String} {target : Schema}
    (hget : schemas.get? name = some target) (hacyclic : Acyclic schemas target)
    (habove : Above schemas path target) :
    Plain.component schemas path name target = Plain.component schemas [] name target :=
  Plain.collect_congr_path hacyclic (habove.cons hget) ((Above.nil target).cons hget) .empty

/-- Where a name is not kept yet. What is then kept is right: nothing was cut, so no circle is
reachable, and the path does not matter. -/
theorem component_miss_agrees {name : String} {target : Schema} {state : Flattening}
    (hfind : Exact schemas allowance find) (hget : schemas.get? name = some target)
    (hname : name ∉ state.path) (hready : Ready schemas (allowance + 1) target state) :
    let (set, after) := collect find schemas target .empty (state.enter name)
    Agrees schemas (Acyclic schemas target) (Plain.component schemas state.path name target) state
      (set, if (after.leave name).cuts = state.cuts then (after.leave name).keep name set
        else after.leave name) := by
  have hwalk : Agrees schemas (Acyclic schemas target)
      (Plain.component schemas state.path name target) (state.enter name)
      (collect find schemas target .empty (state.enter name)) :=
    collect_agrees hfind target .empty (state.enter name) (hready.enter hget hname)
  have hpath : ((collect find schemas target .empty (state.enter name)).2.leave name).path =
      state.path := by
    rw [leave, hwalk.path_eq]
    exact List.erase_cons_head name state.path
  dsimp only
  split
  · next hcuts =>
    have hacyclic : Acyclic schemas target := hwalk.cuts_eq_iff.mp hcuts
    have hset := hwalk.set_eq.trans (Plain.component_congr_path hget hacyclic hready.above)
    exact ⟨hwalk.set_eq, hpath, CacheSound.keep hwalk.sound hget hacyclic hset, hwalk.cuts_le,
      hwalk.cuts_eq_iff⟩
  · exact ⟨hwalk.set_eq, hpath, hwalk.sound, hwalk.cuts_le, hwalk.cuts_eq_iff⟩

theorem component_exact (schemas : Table Schema) (allowance : ℕ) :
    Exact schemas allowance (component schemas allowance) := by
  induction allowance with
  | zero =>
    intro name target state hget hname hready
    exact absurd hready (not_ready_zero hget hname)
  | succ allowance ih =>
    intro name target state hget hname hready
    rw [component]
    cases hcache : state.cache.lookup name with
    | none => exact component_miss_agrees ih hget hname hready
    | some set =>
      obtain ⟨target', hget', hacyclic, hset⟩ := hready.sound name set hcache
      obtain rfl : target = target' := Option.some.inj (hget.symm.trans hget')
      rw [Plain.component_congr_path hget hacyclic hready.above, ← hset]
      exact Agrees.still hacyclic hready.sound

/-! ### The run over a table -/

theorem components_eq_map {list : List (String × Schema)} (hlist : list ⊆ schemas.entries)
    {state : Flattening} (hpath : state.path = []) (hsound : CacheSound schemas state) :
    (components schemas list state).1 =
      list.map fun entry ↦ Plain.component schemas [] entry.1 entry.2 := by
  induction list generalizing state with
  | nil => rw [components, List.map_nil]
  | cons entry rest ih =>
    obtain ⟨name, schema⟩ := entry
    obtain ⟨hentry, hrest⟩ := List.cons_subset.mp hlist
    have hget : schemas.get? name = some schema := Table.get?_eq_some_iff.mpr hentry
    have hstep := component_exact schemas schemas.entries.length name schema state hget
      (by simp [hpath]) (ready_of_path_eq_nil schema hpath hsound)
    rw [components, List.map_cons, ← ih hrest (hstep.path_eq.trans hpath) hstep.sound,
      ← hpath, ← hstep.set_eq]

end ApiOutline.Flattening

namespace ApiOutline

open OpenApi (Components)

theorem Model.ofSchemas_eq_map (schemas : Table OpenApi.Schema) :
    Model.ofSchemas schemas = schemas.entries.map fun entry ↦
      .ofSchema entry.1 entry.2 (Flattening.Plain.component schemas [] entry.1 entry.2) := by
  have hsets := Flattening.components_eq_map (List.Subset.refl schemas.entries)
    (show Flattening.start.path = [] from rfl) Flattening.CacheSound.start
  have hzip : ∀ set : String × OpenApi.Schema → PropertySet,
      schemas.entries.zip (schemas.entries.map set) =
        schemas.entries.map fun entry ↦ (entry, set entry) := by
    intro set
    rw [← List.zip_map', List.map_id']
  rw [Model.ofSchemas, hsets, hzip, List.map_map]
  rfl

/-- Keeping sets while flattening changes no model: each is the one that flattening from scratch
gives. -/
theorem Model.ofSchemas_eq_plainOfSchemas (components : Components) :
    Model.ofSchemas components.schemas = Model.plainOfSchemas components.schemas :=
  Model.ofSchemas_eq_map components.schemas

end ApiOutline
