import ApiOutline.Proofs.Flattening.Gathering
import ApiOutline.Proofs.Flattening.Locality

/-!
How often the schema of a name is walked. Each schema of a table is walked, and those from which no
circle is reachable are walked once, however many references lead to them. A set that was made while
a reference was cut is not kept, so the schema of a name from which a circle is reachable is walked
each time that it is met, and that is more than once exactly if the walk from another name comes to
it (`walkedNames_repeat_iff`).

`Counts` says what a step adds to the names walked, and follows the recursion as `Agrees` does. What
a walk from scratch would meet is listed by `entered`.
-/

set_option autoImplicit false
set_option relaxedAutoImplicit false

namespace ApiOutline.Flattening

open OpenApi (Components Schema isLastSegment_iff refName)
open Relation (ReflTransGen)

variable {schemas : Table Schema} {find : Lookup} {allowance : ℕ}

/-- The names whose schemas are walked while a table is flattened, the first one first. -/
def walkedNames (schemas : Table Schema) : List String :=
  (components schemas schemas.entries .start).2.walked.reverse

/-- A circle is reachable from the schema of a name. -/
def Circular (schemas : Table Schema) (name : String) : Prop :=
  ∃ target, schemas.get? name = some target ∧ ¬ Acyclic schemas target

theorem not_circular_of_acyclic {name : String} {target : Schema}
    (hget : schemas.get? name = some target) (hacyclic : Acyclic schemas target) :
    ¬ Circular schemas name := by
  rintro ⟨target', hget', hcircle⟩
  obtain rfl : target = target' := Option.some.inj (hget.symm.trans hget')
  exact hcircle hacyclic

/-! ### Names entered -/

/-- The names entered from a schema below a path, each as often as it is. -/
def entered (schemas : Table Schema) (path : List String) (schema : Schema) : List String :=
  gather schemas (fun name ↦ [name]) (fun _ ↦ []) path schema

theorem mem_entered {path : List String} {schema : Schema} {name : String} :
    name ∈ entered schemas path schema ↔ Enters schemas path schema name := by
  rw [entered, mem_gather]
  simp

theorem Enters.exists_reference {path : List String} {schema : Schema} {name : String}
    (h : Enters schemas path schema name) : name ∉ path ∧ ∃ node target ref,
      ReflTransGen (Leads schemas) schema node ∧ node.ref = some ref ∧ refName ref = name ∧
        schemas.get? name = some target := by
  induction h with
  | reference href hpath hget => exact ⟨hpath, _, _, _, .refl, href, rfl, hget⟩
  | member hplain hmember _ ih =>
    obtain ⟨hpath, node, target, ref, hwalk, hnode⟩ := ih
    exact ⟨hpath, node, target, ref, hwalk.head (.member hplain hmember), hnode⟩
  | target href _ hget _ ih =>
    obtain ⟨hpath, node, target, ref, hwalk, hnode⟩ := ih
    exact ⟨fun hmem ↦ hpath (List.mem_cons_of_mem _ hmem), node, target, ref,
      hwalk.head (.ofRef href hget), hnode⟩

/-- The names entered below a name are the others that the walk from it comes to. -/
theorem enters_iff_reaches {other name : String} {schema : Schema}
    (hget : schemas.get? other = some schema) :
    Enters schemas [other] schema name ↔ other ≠ name ∧ Reaches schemas other name := by
  constructor
  · intro h
    obtain ⟨hpath, node, target, ref, hwalk, href, rfl, htarget⟩ := h.exists_reference
    exact ⟨fun hname ↦ hpath (List.mem_singleton.mpr hname.symm), .ofRef hget hwalk href htarget⟩
  · rintro ⟨hname, hreaches⟩
    cases hreaches with
    | self => exact absurd rfl hname
    | @reference schema' node target ref _ hget' hwalk href hsegment htarget =>
      obtain rfl : schema = schema' := Option.some.inj (hget.symm.trans hget')
      obtain rfl := isLastSegment_iff.mp hsegment
      refine induct_to_goal
        (motive := fun path schema ↦ refName ref ∉ path → Enters schemas path schema (refName ref))
        (fun node ↦ ∃ path, node.ref = some path ∧ refName path = refName ref)
        ?_ ?_ ?_ hget hwalk ⟨ref, href, rfl⟩ (by simpa using hname.symm)
      · rintro path schema ⟨last, hlast, heq⟩ hpath
        exact heq ▸ .reference hlast (heq ▸ hpath) (heq ▸ htarget)
      · exact fun path schema member _ hplain hmember ih hpath ↦ .member hplain hmember (ih hpath)
      · intro path schema first target hnot hfirst hfresh hget ih hpath
        have hne : refName ref ≠ refName first := fun heq ↦ hnot ⟨first, hfirst, heq.symm⟩
        exact .target hfirst hfresh hget (ih (by simp [hne, hpath]))

theorem Enters.not_circular {path : List String} {schema : Schema} {name : String}
    (h : Enters schemas path schema name) (hacyclic : Acyclic schemas schema) :
    ¬ Circular schemas name := by
  obtain ⟨-, node, target, ref, hwalk, href, rfl, hget⟩ := h.exists_reference
  have hreach := hwalk.tail (.ofRef href hget)
  exact not_circular_of_acyclic hget fun next hnext ↦ hacyclic next (hreach.trans hnext)

/-! ### What a step adds to the names walked -/

/-- The names whose sets are kept and those whose schemas are being walked. -/
def seen (state : Flattening) : List String :=
  state.cache.map Prod.fst ++ state.path

theorem lookup_cache_eq_none_iff {state : Flattening} {name : String} :
    state.cache.lookup name = none ↔ name ∉ state.cache.map Prod.fst := by
  rw [List.lookup_eq_none_iff]
  simp only [bne_iff_ne, List.mem_map, not_exists, not_and]
  exact forall₂_congr fun _ _ ↦ ne_comm

theorem not_mem_seen {state : Flattening} {name : String} (hcache : state.cache.lookup name = none)
    (hpath : name ∉ state.path) : name ∉ state.seen := by
  rw [seen, List.mem_append, not_or]
  exact ⟨lookup_cache_eq_none_iff.mp hcache, hpath⟩

theorem mem_cache_of_lookup {state : Flattening} {name : String} {set : PropertySet}
    (hcache : state.cache.lookup name = some set) : name ∈ state.cache.map Prod.fst := by
  rw [← not_not (a := name ∈ _), ← lookup_cache_eq_none_iff, hcache]
  exact Option.some_ne_none set

theorem mem_seen_of_lookup {state : Flattening} {name : String} {set : PropertySet}
    (hcache : state.cache.lookup name = some set) : name ∈ state.seen :=
  List.mem_append_left _ (mem_cache_of_lookup hcache)

/-- A name that is not circular was walked once if it is seen, and not at all otherwise. -/
def WalkedOnce (schemas : Table Schema) (state : Flattening) : Prop :=
  ∀ name, ¬ Circular schemas name →
    state.walked.count name = if name ∈ state.seen then 1 else 0

/-- What is walked in a step that meets some names. -/
structure Counts (schemas : Table Schema) (names : List String) (before after : Flattening) :
    Prop where
  again : ∀ name, Circular schemas name →
    after.walked.count name = before.walked.count name + names.count name
  once : WalkedOnce schemas before → WalkedOnce schemas after
  grows : before.walked ⊆ after.walked

/-- Nothing need be walked where no circular name is met. -/
theorem Counts.still {names : List String} {state : Flattening}
    (hnames : ∀ name ∈ names, ¬ Circular schemas name) : Counts schemas names state state where
  again := by
    intro name hname
    rw [List.count_eq_zero_of_not_mem fun hmem ↦ hnames name hmem hname, Nat.add_zero]
  once := id
  grows := List.Subset.refl _

theorem Counts.trans {first second : List String} {before middle after : Flattening}
    (h : Counts schemas first before middle) (h' : Counts schemas second middle after) :
    Counts schemas (first ++ second) before after where
  again := by
    intro name hname
    rw [h'.again name hname, h.again name hname, List.count_append, Nat.add_assoc]
  once := h'.once ∘ h.once
  grows := List.Subset.trans h.grows h'.grows

/-- A lookup walks what a walk from scratch meets, except for what need not be walked again. -/
def Counted (schemas : Table Schema) (allowance : ℕ) (find : Lookup) : Prop :=
  ∀ name target state, schemas.get? name = some target → name ∉ state.path →
    Ready schemas allowance target state →
    Counts schemas (name :: entered schemas (name :: state.path) target) state
        (find name target state).2 ∧
      (WalkedOnce schemas state → name ∈ (find name target state).2.walked)

theorem collectReference_counts (hcounted : Counted schemas allowance find) {schema : Schema}
    {ref : String} (href : schema.ref = some ref) (set : PropertySet) {state : Flattening}
    (hready : Ready schemas allowance schema state) :
    Counts schemas (entered schemas state.path schema) state
      (collectReference find schemas ref set state).2 := by
  have hstill : Counts schemas [] state state := .still (by simp)
  by_cases hpath : refName ref ∈ state.path
  · rw [collectReference, if_pos hpath, entered, gather_of_cut href hpath]
    exact ⟨hstill.again, hstill.once, hstill.grows⟩
  · rw [collectReference, if_neg hpath]
    cases hget : schemas.get? (refName ref) with
    | none =>
      rw [entered, gather_of_dangling href hget]
      exact hstill
    | some target =>
      rw [entered, gather_of_target href hpath hget]
      exact (hcounted (refName ref) target state hget hpath
        (hready.leads (.ofRef href hget))).1

theorem collectAll_counts (hfind : Exact schemas allowance find) {list : List Schema}
    (hlist : ∀ schema ∈ list, ∀ set state, Ready schemas allowance schema state →
      Counts schemas (entered schemas state.path schema) state
        (collect find schemas schema set state).2)
    (set : PropertySet) (state : Flattening)
    (hready : ∀ schema ∈ list, Ready schemas allowance schema state) :
    Counts schemas (list.flatMap (entered schemas state.path)) state
      (collectAll find schemas list set state).2 := by
  induction list generalizing set state with
  | nil =>
    rw [collectAll]
    exact .still (by simp)
  | cons schema rest ih =>
    obtain ⟨hlistFirst, hlistRest⟩ := List.forall_mem_cons.mp hlist
    obtain ⟨hreadyFirst, hreadyRest⟩ := List.forall_mem_cons.mp hready
    have hstep := collect_agrees hfind schema set state hreadyFirst
    have hrest := ih hlistRest (collect find schemas schema set state).1
      (collect find schemas schema set state).2 fun next hnext ↦ (hreadyRest next hnext).after hstep
    rw [hstep.path_eq] at hrest
    rw [collectAll, List.flatMap_cons]
    exact (hlistFirst set state hreadyFirst).trans hrest

theorem collect_counts (hfind : Exact schemas allowance find)
    (hcounted : Counted schemas allowance find) (schema : Schema) (set : PropertySet)
    (state : Flattening) (hready : Ready schemas allowance schema state) :
    Counts schemas (entered schemas state.path schema) state
      (collect find schemas schema set state).2 := by
  induction schema using members_induction generalizing set state with
  | step schema ih =>
    cases href : schema.ref with
    | some ref =>
      rw [collect_of_ref href]
      exact collectReference_counts hcounted href set hready
    | none =>
      have hall := collectAll_counts hfind ih set state
        fun member hmember ↦ hready.leads (.member href hmember)
      rw [collect_of_plain href, entered, gather_of_plain href, List.append_nil]
      exact hall

/-! ### The lookup of names -/

theorem WalkedOnce.congr {state other : Flattening} (h : WalkedOnce schemas state)
    (hwalked : other.walked = state.walked)
    (hseen : ∀ name, ¬ Circular schemas name → (name ∈ other.seen ↔ name ∈ state.seen)) :
    WalkedOnce schemas other := by
  intro name hname
  rw [hwalked, h name hname]
  simp only [hseen name hname]

theorem WalkedOnce.enter {state : Flattening} {name : String} (h : WalkedOnce schemas state)
    (hname : name ∉ state.seen) : WalkedOnce schemas (state.enter name) := by
  intro other hother
  have hseen : other ∈ (state.enter name).seen ↔ other = name ∨ other ∈ state.seen := by
    simp only [seen, Flattening.enter, List.mem_append, List.mem_cons]
    exact or_left_comm
  have hcount : (state.enter name).walked.count other =
      state.walked.count other + if name = other then 1 else 0 := by
    simp [Flattening.enter, List.count_cons]
  rw [hcount, h other hother]
  by_cases hsame : other = name
  · subst hsame
    simp [hseen, hname]
  · simp [hseen, hsame, Ne.symm hsame]

/-- On leaving a schema its set is kept, unless its name is circular. -/
theorem WalkedOnce.leave {state : Flattening} {name : String} {path : List String}
    (h : WalkedOnce schemas state) (hpath : state.path = name :: path)
    (hcircular : Circular schemas name) : WalkedOnce schemas (state.leave name) := by
  refine h.congr rfl fun other hother ↦ ?_
  have hne : other ≠ name := fun hsame ↦ hother (hsame ▸ hcircular)
  simp [seen, Flattening.leave, hpath, hne]

theorem WalkedOnce.leave_keep {state : Flattening} {name : String} {path : List String}
    (h : WalkedOnce schemas state) (hpath : state.path = name :: path) (set : PropertySet) :
    WalkedOnce schemas ((state.leave name).keep name set) := by
  refine h.congr rfl fun other _ ↦ ?_
  simp only [seen, Flattening.leave, Flattening.keep, hpath, List.erase_cons_head, List.map_cons,
    List.mem_append, List.mem_cons]
  exact or_assoc.trans or_left_comm

theorem component_miss_counts {name : String} {target : Schema} {state : Flattening}
    (hfind : Exact schemas allowance find) (hcounted : Counted schemas allowance find)
    (hget : schemas.get? name = some target) (hname : name ∉ state.path)
    (hcache : state.cache.lookup name = none)
    (hready : Ready schemas (allowance + 1) target state) :
    let (set, after) := collect find schemas target .empty (state.enter name)
    let after := if (after.leave name).cuts = state.cuts then (after.leave name).keep name set
      else after.leave name
    Counts schemas (name :: entered schemas (name :: state.path) target) state after ∧
      name ∈ after.walked := by
  have henter := hready.enter hget hname
  have hwalk := collect_agrees hfind target .empty (state.enter name) henter
  have hcounts : Counts schemas (entered schemas (name :: state.path) target) (state.enter name)
      (collect find schemas target .empty (state.enter name)).2 :=
    collect_counts hfind hcounted target .empty (state.enter name) henter
  have hagain : ∀ other, Circular schemas other →
      (collect find schemas target .empty (state.enter name)).2.walked.count other =
        state.walked.count other +
          (name :: entered schemas (name :: state.path) target).count other := by
    intro other hother
    have hinner := hcounts.again other hother
    simp only [Flattening.enter, List.count_cons] at hinner ⊢
    omega
  have honce : WalkedOnce schemas state →
      WalkedOnce schemas (collect find schemas target .empty (state.enter name)).2 :=
    fun h ↦ hcounts.once (h.enter (not_mem_seen hcache hname))
  have hgrows := List.Subset.trans (List.subset_cons_self name state.walked) hcounts.grows
  have hwalked := hcounts.grows (List.mem_cons_self (a := name) (l := state.walked))
  dsimp only
  split
  · exact ⟨⟨hagain, fun h ↦ (honce h).leave_keep hwalk.path_eq _, hgrows⟩, hwalked⟩
  · next hcuts =>
    have hcircular : Circular schemas name :=
      ⟨target, hget, fun hacyclic ↦ hcuts (hwalk.cuts_eq_iff.mpr hacyclic)⟩
    exact ⟨⟨hagain, fun h ↦ (honce h).leave hwalk.path_eq hcircular, hgrows⟩, hwalked⟩

theorem component_counted (schemas : Table Schema) (allowance : ℕ) :
    Counted schemas allowance (component schemas allowance) := by
  induction allowance with
  | zero =>
    intro name target state hget hname hready
    exact absurd hready (not_ready_zero hget hname)
  | succ allowance ih =>
    intro name target state hget hname hready
    rw [component]
    cases hcache : state.cache.lookup name with
    | none =>
      have hmiss := component_miss_counts (component_exact schemas allowance) ih hget hname hcache
        hready
      exact ⟨hmiss.1, fun _ ↦ hmiss.2⟩
    | some set =>
      obtain ⟨target', hget', hacyclic, -⟩ := hready.sound name set hcache
      obtain rfl : target = target' := Option.some.inj (hget.symm.trans hget')
      have hcalm := not_circular_of_acyclic hget hacyclic
      refine ⟨.still (List.forall_mem_cons.mpr ⟨hcalm, ?_⟩), fun h ↦ ?_⟩
      · exact fun other hother ↦ (mem_entered.mp hother).not_circular hacyclic
      · have hcount := h name hcalm
        rw [if_pos (mem_seen_of_lookup hcache)] at hcount
        exact List.one_le_count_iff.mp (Nat.le_of_eq hcount.symm)

/-! ### The run over a table -/

/-- What the run over some entries of a table does. -/
structure Ran (schemas : Table Schema) (list : List (String × Schema)) (before after : Flattening) :
    Prop where
  path_eq : after.path = []
  sound : CacheSound schemas after
  counts : Counts schemas (list.flatMap fun entry ↦ entry.1 :: entered schemas [entry.1] entry.2)
    before after
  walked : WalkedOnce schemas before → ∀ entry ∈ list, entry.1 ∈ after.walked

theorem components_ran {list : List (String × Schema)} (hlist : list ⊆ schemas.entries)
    {state : Flattening} (hpath : state.path = []) (hsound : CacheSound schemas state) :
    Ran schemas list state (components schemas list state).2 := by
  induction list generalizing state with
  | nil =>
    rw [components]
    exact ⟨hpath, hsound, .still (by simp), by simp⟩
  | cons entry rest ih =>
    obtain ⟨name, schema⟩ := entry
    obtain ⟨hentry, hrest⟩ := List.cons_subset.mp hlist
    have hget : schemas.get? name = some schema := Table.get?_eq_some_iff.mpr hentry
    have hname : name ∉ state.path := by simp [hpath]
    have hready := ready_of_path_eq_nil schema hpath hsound
    have hstep := component_exact schemas schemas.entries.length name schema state hget hname hready
    obtain ⟨hcounts, hwalked⟩ :=
      component_counted schemas schemas.entries.length name schema state hget hname hready
    have hran := ih hrest (hstep.path_eq.trans hpath) hstep.sound
    rw [hpath] at hcounts
    rw [components]
    refine ⟨hran.path_eq, hran.sound, ?_, fun h ↦ List.forall_mem_cons.mpr ⟨?_, ?_⟩⟩
    · rw [List.flatMap_cons]
      exact hcounts.trans hran.counts
    · exact hran.counts.grows (hwalked h)
    · exact hran.walked (hcounts.once h)

/-- Between the walks of a table, only names of schemas are seen. -/
theorem CacheSound.mem_keys_of_seen {state : Flattening} {name : String}
    (h : CacheSound schemas state) (hpath : state.path = []) (hseen : name ∈ state.seen) :
    name ∈ schemas.keys := by
  rw [seen, hpath, List.append_nil] at hseen
  cases hcache : state.cache.lookup name with
  | none => exact absurd hseen (lookup_cache_eq_none_iff.mp hcache)
  | some set =>
    obtain ⟨target, hget, -, -⟩ := h name set hcache
    exact Table.mem_keys_of_get? hget

theorem WalkedOnce.start : WalkedOnce schemas start := by
  intro name _
  simp [seen, Flattening.start]

theorem count_flatMap_cons {α : Type} [DecidableEq α] {β : Type} (head : β → α) (tail : β → List α)
    (list : List β) (item : α) :
    (list.flatMap fun entry ↦ head entry :: tail entry).count item =
      (list.map head).count item + (list.flatMap tail).count item := by
  induction list with
  | nil => rfl
  | cons first rest ih =>
    simp only [List.flatMap_cons, List.map_cons, List.count_append, List.count_cons, ih]
    omega

/-- The names that the walk from some schema of the table enters below its name are those that the
walk from another name comes to. -/
theorem mem_flatMap_entered {name : String} :
    name ∈ schemas.entries.flatMap (fun entry ↦ entered schemas [entry.1] entry.2) ↔
      ∃ other, other ≠ name ∧ Reaches schemas other name := by
  rw [List.mem_flatMap]
  constructor
  · rintro ⟨⟨other, schema⟩, hentry, hname⟩
    have hget : schemas.get? other = some schema := Table.get?_eq_some_iff.mpr hentry
    exact ⟨other, (enters_iff_reaches hget).mp (mem_entered.mp hname)⟩
  · rintro ⟨other, hother⟩
    obtain ⟨schema, hget⟩ : ∃ schema, schemas.get? other = some schema := by
      obtain ⟨-, _ | ⟨hget, -, -, -⟩⟩ := hother <;> exact ⟨_, ‹_›⟩
    exact ⟨(other, schema), Table.get?_eq_some_iff.mp hget,
      mem_entered.mpr ((enters_iff_reaches hget).mpr hother)⟩

theorem components_ran_start (schemas : Table Schema) :
    Ran schemas schemas.entries .start (components schemas schemas.entries .start).2 :=
  components_ran (List.Subset.refl _) rfl CacheSound.start

theorem mem_walkedNames {name : String} : name ∈ walkedNames schemas ↔ name ∈ schemas.keys := by
  have hran := components_ran_start schemas
  have honce := hran.counts.once .start
  rw [walkedNames, List.mem_reverse]
  constructor
  · intro hname
    by_cases hcircular : Circular schemas name
    · obtain ⟨target, hget, -⟩ := hcircular
      exact Table.mem_keys_of_get? hget
    · refine hran.sound.mem_keys_of_seen hran.path_eq ?_
      by_contra hseen
      have hcount := honce name hcircular
      rw [if_neg hseen, List.count_eq_zero] at hcount
      exact hcount hname
  · intro hname
    obtain ⟨entry, hentry, rfl⟩ := List.mem_map.mp hname
    exact hran.walked .start entry hentry

/-- A circular name is walked for its own model, and again each time that it is entered. -/
theorem count_walkedNames_of_circular {name : String} (hname : Circular schemas name) :
    (walkedNames schemas).count name =
      1 + (schemas.entries.flatMap fun entry ↦ entered schemas [entry.1] entry.2).count name := by
  obtain ⟨target, hget, -⟩ := id hname
  have hkeys : (schemas.entries.map Prod.fst).count name = 1 :=
    List.count_eq_one_of_mem schemas.nodup (Table.mem_keys_of_get? hget)
  rw [walkedNames, List.count_reverse, (components_ran_start schemas).counts.again name hname,
    count_flatMap_cons, hkeys]
  exact Nat.zero_add _

theorem count_walkedNames_le_one {name : String} (hname : ¬ Circular schemas name) :
    (walkedNames schemas).count name ≤ 1 := by
  rw [walkedNames, List.count_reverse, (components_ran_start schemas).counts.once .start name hname]
  split <;> decide

/-- Every schema of a table is walked while its models are made. A schema is walked again exactly if
a circle is reachable from it and it is reached from another one, so all others are walked once,
however many references lead to them. -/
theorem walkedNames_repeat_iff (components : Components) (name : String) :
    (name ∈ walkedNames components.schemas ↔ name ∈ components.schemas.keys) ∧
      (2 ≤ (walkedNames components.schemas).count name ↔
        Circular components.schemas name ∧
          ∃ other, other ≠ name ∧ Reaches components.schemas other name) := by
  refine ⟨mem_walkedNames, ?_⟩
  by_cases hname : Circular components.schemas name
  · rw [count_walkedNames_of_circular hname, ← mem_flatMap_entered, ← List.count_pos_iff]
    simp only [hname, true_and]
    omega
  · have hcount := count_walkedNames_le_one hname
    simp only [hname, false_and, iff_false]
    omega

private def composed (own other : String) : Schema :=
  { Schema.blank with
    allOf := [{ Schema.blank with ref := some other }]
    properties := [(own, .blank)] }

/-- Of two schemas composed of each other each is walked for its own model and for that of the
other. -/
theorem not_forall_nodup_walkedNames :
    ¬ ∀ components : Components, (walkedNames components.schemas).Nodup := by
  intro h
  have hwalked : walkedNames (.ofList [("A", composed "a" "B"), ("B", composed "b" "A")]) =
      ["A", "B", "B", "A"] := by rfl
  have hnodup := h { Components.empty with
    schemas := .ofList [("A", composed "a" "B"), ("B", composed "b" "A")] }
  rw [hwalked] at hnodup
  exact absurd hnodup (by decide)

end ApiOutline.Flattening
