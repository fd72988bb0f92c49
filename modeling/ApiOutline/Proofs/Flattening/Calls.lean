import ApiOutline.Proofs.Flattening.Cache

/-!
The calls that flattening makes, as they come one after the other. `Returns` says what a call gives,
one rule for each way in which it goes on, without an allowance, so a call that would go on for ever
gives nothing. `Makes` says which calls are made in its course, and in which states. Both list the
names that were looked up on the way.

From every state, a call gives exactly what the recursion with an allowance does, if the allowance
covers the names outside the path (`Returns.run_eq`), and leaves the path as it was
(`Returns.path_eq`).
-/

set_option autoImplicit false
set_option relaxedAutoImplicit false

namespace ApiOutline.Flattening

open OpenApi (Schema refName)

/-! ### Calls -/

/-- A call: for the set of the schema of a name, or to add to a set what a schema contributes, or
the schemas of a list one after the other. -/
inductive Call where
  | component (name : String) (schema : Schema)
  | collect (schema : Schema) (set : PropertySet)
  | collectAll (list : List Schema) (set : PropertySet)

/-- The call in the recursion with an allowance. -/
def Call.run (schemas : Table Schema) (allowance : ℕ) : Call → Flattening → PropertySet × Flattening
  | .component name schema => Flattening.component schemas allowance name schema
  | .collect schema set =>
    Flattening.collect (Flattening.component schemas allowance) schemas schema set
  | .collectAll list set =>
    Flattening.collectAll (Flattening.component schemas allowance) schemas list set

/-- A lookup is made for the schema of a name outside the path. -/
def Call.Fresh (schemas : Table Schema) (state : Flattening) : Call → Prop
  | .component name schema => schemas.get? name = some schema ∧ name ∉ state.path
  | .collect _ _ | .collectAll _ _ => True

/-- The state on leaving the schema of a name that was entered before. Its set is kept if no
reference was cut since then. -/
def leaveSince (state before : Flattening) (name : String) (set : PropertySet) : Flattening :=
  if state.cuts = before.cuts then (state.leave name).keep name set else state.leave name

/-- A call in a state looks up names and returns a set and a state. -/
inductive Returns (schemas : Table Schema) :
    Call → Flattening → List String → PropertySet × Flattening → Prop
  | kept {name : String} {schema : Schema} {state : Flattening} {set : PropertySet}
      (hcache : state.cache.lookup name = some set) :
      Returns schemas (.component name schema) state [name] (set, state)
  | walked {name : String} {schema : Schema} {state after : Flattening} {names : List String}
      {set : PropertySet} (hcache : state.cache.lookup name = none)
      (hwalk : Returns schemas (.collect schema .empty) (state.enter name) names (set, after)) :
      Returns schemas (.component name schema) state (name :: names)
        (set, after.leaveSince state name set)
  | cut {schema : Schema} {set : PropertySet} {state : Flattening} {ref : String}
      (href : schema.ref = some ref) (hpath : refName ref ∈ state.path) :
      Returns schemas (.collect schema set) state [] (set, state.cut)
  | dangling {schema : Schema} {set : PropertySet} {state : Flattening} {ref : String}
      (href : schema.ref = some ref) (hpath : refName ref ∉ state.path)
      (hget : schemas.get? (refName ref) = none) :
      Returns schemas (.collect schema set) state [] (set, state)
  | target {schema target : Schema} {set found : PropertySet} {state after : Flattening}
      {ref : String} {names : List String} (href : schema.ref = some ref)
      (hpath : refName ref ∉ state.path) (hget : schemas.get? (refName ref) = some target)
      (hfound : Returns schemas (.component (refName ref) target) state names (found, after)) :
      Returns schemas (.collect schema set) state names (set.merge found, after)
  | plain {schema : Schema} {set collected : PropertySet} {state after : Flattening}
      {names : List String} (hplain : schema.ref = none)
      (hall : Returns schemas (.collectAll (members schema) set) state names (collected, after)) :
      Returns schemas (.collect schema set) state names
        ((collected.declare schema.properties).require schema.required, after)
  | nil {set : PropertySet} {state : Flattening} :
      Returns schemas (.collectAll [] set) state [] (set, state)
  | cons {schema : Schema} {rest : List Schema} {set collected last : PropertySet}
      {state middle after : Flattening} {names further : List String}
      (hfirst : Returns schemas (.collect schema set) state names (collected, middle))
      (hrest : Returns schemas (.collectAll rest collected) middle further (last, after)) :
      Returns schemas (.collectAll (schema :: rest) set) state (names ++ further) (last, after)

/-- In the course of a call, after some names were looked up, another call is made in a state. -/
inductive Makes (schemas : Table Schema) :
    Call → Flattening → List String → Call → Flattening → Prop
  | self {call : Call} {state : Flattening} : Makes schemas call state [] call state
  | walk {name : String} {schema : Schema} {state moment : Flattening} {names : List String}
      {inner : Call} (hcache : state.cache.lookup name = none)
      (hinner : Makes schemas (.collect schema .empty) (state.enter name) names inner moment) :
      Makes schemas (.component name schema) state (name :: names) inner moment
  | target {schema target : Schema} {set : PropertySet} {state moment : Flattening} {ref : String}
      {names : List String} {inner : Call} (href : schema.ref = some ref)
      (hpath : refName ref ∉ state.path) (hget : schemas.get? (refName ref) = some target)
      (hinner : Makes schemas (.component (refName ref) target) state names inner moment) :
      Makes schemas (.collect schema set) state names inner moment
  | plain {schema : Schema} {set : PropertySet} {state moment : Flattening} {names : List String}
      {inner : Call} (hplain : schema.ref = none)
      (hinner : Makes schemas (.collectAll (members schema) set) state names inner moment) :
      Makes schemas (.collect schema set) state names inner moment
  | first {schema : Schema} {rest : List Schema} {set : PropertySet} {state moment : Flattening}
      {names : List String} {inner : Call}
      (hinner : Makes schemas (.collect schema set) state names inner moment) :
      Makes schemas (.collectAll (schema :: rest) set) state names inner moment
  | rest {schema : Schema} {rest : List Schema} {set collected : PropertySet}
      {state middle moment : Flattening} {names further : List String} {inner : Call}
      (hfirst : Returns schemas (.collect schema set) state names (collected, middle))
      (hinner : Makes schemas (.collectAll rest collected) middle further inner moment) :
      Makes schemas (.collectAll (schema :: rest) set) state (names ++ further) inner moment

/-- The run over some entries of a table, from a state, has looked up names and comes to a state in
which some entries remain. -/
inductive Passes (schemas : Table Schema) : List (String × Schema) → Flattening → List String →
    List (String × Schema) → Flattening → Prop
  | here {list : List (String × Schema)} {state : Flattening} :
      Passes schemas list state [] list state
  | next {name : String} {schema : Schema} {rest remaining : List (String × Schema)}
      {state middle after : Flattening} {set : PropertySet} {names further : List String}
      (hentry : Returns schemas (.component name schema) state names (set, middle))
      (hrest : Passes schemas rest middle further remaining after) :
      Passes schemas ((name, schema) :: rest) state (names ++ further) remaining after

variable {schemas : Table Schema} {call : Call} {state : Flattening} {names : List String}
  {result : PropertySet × Flattening} {allowance : ℕ}

/-! ### What a call gives -/

theorem path_leaveSince (state before : Flattening) (name : String) (set : PropertySet) :
    (state.leaveSince before name set).path = state.path.erase name := by
  rw [leaveSince]
  split <;> rfl

/-- Whatever the state, a call leaves the path as it was. -/
theorem Returns.path_eq (h : Returns schemas call state names result) :
    result.2.path = state.path := by
  induction h with
  | kept | cut | dangling | nil => rfl
  | @walked name schema state after names set _ _ ih =>
    have hafter : after.path = name :: state.path := ih
    rw [path_leaveSince, hafter, List.erase_cons_head]
  | target _ _ _ _ ih => exact ih
  | plain _ _ ih => exact ih
  | cons _ _ ihfirst ihrest => exact ihrest.trans ihfirst

theorem room_enter_lt {name : String} {schema : Schema}
    (h : (Call.component name schema).Fresh schemas state) :
    room schemas (state.enter name).path < room schemas state.path :=
  room_cons_lt h.2 (Table.mem_keys_of_get? h.1)

theorem component_of_kept {name : String} {set : PropertySet}
    (hcache : state.cache.lookup name = some set) (schema : Schema) :
    component schemas allowance name schema state = (set, state) := by
  cases allowance <;> rw [component, hcache]

theorem component_of_missing {name : String} {schema : Schema} {set : PropertySet}
    {after : Flattening} (hcache : state.cache.lookup name = none)
    (hwalk : collect (component schemas allowance) schemas schema .empty (state.enter name) =
      (set, after)) :
    component schemas (allowance + 1) name schema state =
      (set, after.leaveSince state name set) := by
  rw [component, hcache]
  simp only [hwalk]
  rfl

/-- A call gives what the recursion does with an allowance that covers the names outside the
path. -/
theorem Returns.run_eq (h : Returns schemas call state names result)
    (hfresh : call.Fresh schemas state) (hroom : room schemas state.path ≤ allowance) :
    call.run schemas allowance state = result := by
  induction h generalizing allowance with
  | kept hcache => exact component_of_kept hcache _
  | walked hcache _ ih =>
    have hless := room_enter_lt hfresh
    obtain ⟨allowance, rfl⟩ := Nat.exists_eq_succ_of_ne_zero (n := allowance) (by omega)
    exact component_of_missing hcache (ih trivial (by omega))
  | cut href hpath => rw [Call.run, collect_of_ref href, collectReference, if_pos hpath]
  | dangling href hpath hget =>
    rw [Call.run, collect_of_ref href, collectReference, if_neg hpath, hget]
  | @target schema target set found state after ref names href hpath hget _ ih =>
    have hfound : component schemas allowance (refName ref) target state = (found, after) :=
      ih ⟨hget, hpath⟩ hroom
    rw [Call.run, collect_of_ref href, collectReference, if_neg hpath, hget]
    simp only [hfound]
  | @plain schema set collected state after names hplain _ ih =>
    have hall : collectAll (component schemas allowance) schemas (members schema) set state =
        (collected, after) := ih trivial hroom
    rw [Call.run, collect_of_plain hplain, hall]
  | nil => rfl
  | @cons schema rest set collected last state middle after names further hfirst _ ihfirst ihrest =>
    have hcollect : collect (component schemas allowance) schemas schema set state =
        (collected, middle) := ihfirst trivial hroom
    rw [Call.run, collectAll, hcollect]
    exact ihrest trivial (hfirst.path_eq.symm ▸ hroom)

/-! ### The run over a table -/

theorem fresh_of_path_eq_nil {entry : String × Schema} (hentry : entry ∈ schemas.entries)
    (hpath : state.path = []) : (Call.component entry.1 entry.2).Fresh schemas state :=
  ⟨Table.get?_eq_some_iff.mpr hentry, hpath ▸ List.not_mem_nil⟩

/-- Between the entries of a table nothing is on the path. -/
theorem Passes.path_eq_nil {list remaining : List (String × Schema)} {after : Flattening}
    (h : Passes schemas list state names remaining after) (hpath : state.path = []) :
    after.path = [] := by
  induction h with
  | here => exact hpath
  | next hentry _ ih => exact ih (hentry.path_eq.trans hpath)

theorem Passes.subset {list remaining : List (String × Schema)} {after : Flattening}
    (h : Passes schemas list state names remaining after) : remaining ⊆ list := by
  induction h with
  | here => exact List.Subset.refl _
  | next _ _ ih => exact List.subset_cons_of_subset _ ih

end ApiOutline.Flattening
