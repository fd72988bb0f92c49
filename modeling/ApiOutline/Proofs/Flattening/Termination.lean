import ApiOutline.Proofs.Flattening.Calls
import Mathlib.Data.Prod.Lex

/-!
Flattening comes to an end, whatever the references are and whatever the state. A call has a
measure: how many names of the table are not on the path, and then the size of what it walks. Every
call that it makes has a smaller one (`Makes.descends`), since a lookup takes a name onto the path
and all else lies within the schema; and after each call the path is as before, so the measure of
the next one counts the same names (`Returns.path_eq`).
-/

set_option autoImplicit false
set_option relaxedAutoImplicit false

namespace ApiOutline.Flattening

open OpenApi (Components Schema refName)

/-! ### The measure of a call -/

/-- The size of what a call walks before it enters the schema of a name. -/
noncomputable def Call.size : Call → ℕ
  | .component _ _ => 0
  | .collect schema _ => sizeOf schema
  | .collectAll list _ => sizeOf list

/-- How many names of the table are not on the path, and then the size of a call. -/
noncomputable def Call.measure (schemas : Table Schema) (state : Flattening) (call : Call) :
    ℕ ×ₗ ℕ :=
  toLex (room schemas state.path, call.size)

variable {schemas : Table Schema} {state moment : Flattening} {call inner : Call}
  {names : List String}

theorem measure_lt_of_size_lt (hpath : moment.path = state.path) (hsize : inner.size < call.size) :
    inner.measure schemas moment < call.measure schemas state := by
  rw [Call.measure, Call.measure, hpath]
  exact Prod.Lex.toLex_lt_toLex.mpr (.inr ⟨rfl, hsize⟩)

theorem measure_walk_lt {name : String} {schema : Schema} {set : PropertySet}
    (hfresh : (Call.component name schema).Fresh schemas state) :
    (Call.collect schema set).measure schemas (state.enter name) <
      (Call.component name schema).measure schemas state :=
  Prod.Lex.toLex_lt_toLex.mpr (.inl (room_enter_lt hfresh))

theorem size_component_lt (name : String) (schema target : Schema) (set : PropertySet) :
    (Call.component name target).size < (Call.collect schema set).size := by
  obtain ⟨type, ref, format, description, properties, required, items, default, enum, allOf, oneOf,
    anyOf⟩ := schema
  simp only [Call.size, Schema.mk.sizeOf_spec]
  omega

theorem size_members_lt (schema : Schema) (set : PropertySet) :
    (Call.collectAll (members schema) set).size < (Call.collect schema set).size :=
  sizeOf_members_lt schema

theorem size_first_lt (schema : Schema) (rest : List Schema) (set : PropertySet) :
    (Call.collect schema set).size < (Call.collectAll (schema :: rest) set).size := by
  simp only [Call.size, List.cons.sizeOf_spec]
  omega

theorem size_rest_lt (schema : Schema) (rest : List Schema) (set collected : PropertySet) :
    (Call.collectAll rest collected).size < (Call.collectAll (schema :: rest) set).size := by
  simp only [Call.size, List.cons.sizeOf_spec]
  omega

/-- Every call comes to an end that looks up no name of the path. -/
theorem exists_returns_of_fresh (schemas : Table Schema) (call : Call) (state : Flattening)
    (hfresh : call.Fresh schemas state) :
    ∃ names set after, Returns schemas call state names (set, after) := by
  match call, hfresh with
  | .component name schema, hfresh =>
    cases hcache : state.cache.lookup name with
    | some set => exact ⟨_, _, _, .kept hcache⟩
    | none =>
      obtain ⟨names, set, after, hwalk⟩ :=
        exists_returns_of_fresh schemas (.collect schema .empty) (state.enter name) trivial
      exact ⟨_, _, _, .walked hcache hwalk⟩
  | .collect schema set, _ =>
    cases href : schema.ref with
    | none =>
      obtain ⟨names, collected, after, hall⟩ :=
        exists_returns_of_fresh schemas (.collectAll (members schema) set) state trivial
      exact ⟨_, _, _, .plain href hall⟩
    | some ref =>
      by_cases hpath : refName ref ∈ state.path
      · exact ⟨_, _, _, .cut href hpath⟩
      · cases hget : schemas.get? (refName ref) with
        | none => exact ⟨_, _, _, .dangling href hpath hget⟩
        | some target =>
          obtain ⟨names, found, after, hfound⟩ :=
            exists_returns_of_fresh schemas (.component (refName ref) target) state ⟨hget, hpath⟩
          exact ⟨_, _, _, .target href hpath hget hfound⟩
  | .collectAll [] set, _ => exact ⟨_, _, _, .nil⟩
  | .collectAll (schema :: rest) set, _ =>
    obtain ⟨names, collected, middle, hfirst⟩ :=
      exists_returns_of_fresh schemas (.collect schema set) state trivial
    have hpath : middle.path = state.path := hfirst.path_eq
    obtain ⟨further, last, after, hrest⟩ :=
      exists_returns_of_fresh schemas (.collectAll rest collected) middle trivial
    exact ⟨_, _, _, .cons hfirst hrest⟩
termination_by call.measure schemas state
decreasing_by
  · exact measure_walk_lt hfresh
  · exact measure_lt_of_size_lt rfl (size_members_lt schema set)
  · exact measure_lt_of_size_lt rfl (size_component_lt (refName ref) schema target set)
  · exact measure_lt_of_size_lt rfl (size_first_lt schema rest set)
  · exact measure_lt_of_size_lt hpath (size_rest_lt schema rest set collected)

/-- A lookup of a name of the path comes to an end as well, as the walk of its schema does. -/
theorem exists_returns (schemas : Table Schema) (call : Call) (state : Flattening) :
    ∃ names set after, Returns schemas call state names (set, after) := by
  cases call with
  | component name schema =>
    cases hcache : state.cache.lookup name with
    | some set => exact ⟨_, _, _, .kept hcache⟩
    | none =>
      -- The path may hold the name already, so entering it need not lower the measure. The walk of
      -- the schema ends all the same.
      obtain ⟨names, set, after, hwalk⟩ :=
        exists_returns_of_fresh schemas (.collect schema .empty) (state.enter name) trivial
      exact ⟨_, _, _, .walked hcache hwalk⟩
  | collect | collectAll => exact exists_returns_of_fresh schemas _ state trivial

/-! ### The calls made in the course of a call -/

/-- How many references a call follows before it walks anything. -/
def Call.lookups : Call → ℕ
  | .component _ _ => 1
  | .collect _ _ | .collectAll _ _ => 0

theorem Makes.fresh (h : Makes schemas call state names inner moment)
    (hfresh : call.Fresh schemas state) : inner.Fresh schemas moment := by
  induction h with
  | self => exact hfresh
  | walk _ _ ih => exact ih trivial
  | target _ hpath hget _ ih => exact ih ⟨hget, hpath⟩
  | plain _ _ ih => exact ih trivial
  | first _ ih => exact ih trivial
  | rest _ _ ih => exact ih trivial

/-- Descent goes on through a call with a smaller measure. -/
theorem measure_lt_of_descends {middle : Call} {between : Flattening}
    (h : inner = middle ∧ moment = between ∨
      inner.measure schemas moment < middle.measure schemas between)
    (hless : middle.measure schemas between < call.measure schemas state) :
    inner.measure schemas moment < call.measure schemas state := by
  rcases h with ⟨rfl, rfl⟩ | hinner
  · exact hless
  · exact hinner.trans hless

theorem Makes.descends (h : Makes schemas call state names inner moment)
    (hfresh : call.Fresh schemas state) :
    inner = call ∧ moment = state ∨ inner.measure schemas moment < call.measure schemas state := by
  induction h with
  | self => exact .inl ⟨rfl, rfl⟩
  | walk _ _ ih => exact .inr (measure_lt_of_descends (ih trivial) (measure_walk_lt hfresh))
  | target _ hpath hget _ ih =>
    exact .inr (measure_lt_of_descends (ih ⟨hget, hpath⟩)
      (measure_lt_of_size_lt rfl (size_component_lt _ _ _ _)))
  | plain _ _ ih =>
    exact .inr (measure_lt_of_descends (ih trivial)
      (measure_lt_of_size_lt rfl (size_members_lt _ _)))
  | first _ ih =>
    exact .inr (measure_lt_of_descends (ih trivial)
      (measure_lt_of_size_lt rfl (size_first_lt _ _ _)))
  | rest hfirst _ ih =>
    exact .inr (measure_lt_of_descends (ih trivial)
      (measure_lt_of_size_lt hfirst.path_eq (size_rest_lt _ _ _ _)))

/-- The names entered since a call are on the path above those that were there before, and each
takes up some of the room that there was. -/
theorem Makes.exists_above (h : Makes schemas call state names inner moment)
    (hfresh : call.Fresh schemas state) : ∃ above, moment.path = above ++ state.path ∧
      above.length + room schemas moment.path ≤ room schemas state.path := by
  induction h with
  | self => exact ⟨[], rfl, by simp⟩
  | @walk name schema state moment names inner _ _ ih =>
    obtain ⟨above, hpath, hroom⟩ := ih trivial
    have hless := room_enter_lt hfresh
    refine ⟨above ++ [name], ?_, ?_⟩
    · rw [hpath, List.append_assoc]
      rfl
    · rw [List.length_append, List.length_singleton]
      omega
  | target _ hpath hget _ ih => exact ih ⟨hget, hpath⟩
  | plain _ _ ih => exact ih trivial
  | first _ ih => exact ih trivial
  | rest hfirst _ ih =>
    obtain ⟨above, hpath, hroom⟩ := ih trivial
    rw [hfirst.path_eq] at hpath hroom
    exact ⟨above, hpath, hroom⟩

theorem Call.Fresh.lookups_le (h : call.Fresh schemas state) :
    call.lookups ≤ room schemas state.path := by
  cases call with
  | component name schema => exact Nat.lt_of_le_of_lt (Nat.zero_le _) (room_enter_lt h)
  | _ => exact Nat.zero_le _

/-! ### Every call ends -/

/-- What a call gives is what the recursion gives with an allowance that covers the names outside
the path, and it leaves the path as it was. -/
structure Call.Restores (schemas : Table Schema) (state : Flattening) (call : Call) : Prop where
  run_eq : ∀ names result, Returns schemas call state names result →
    ∀ allowance, room schemas state.path ≤ allowance → call.run schemas allowance state = result
  path_eq : ∀ names result, Returns schemas call state names result → result.2.path = state.path

/-- A call made in the course of another one: a lookup is for a name outside the path, the measure
is smaller, and no more references were followed down to it than there were names outside the
path. -/
structure Call.Within (schemas : Table Schema) (call : Call) (state : Flattening) (inner : Call)
    (moment : Flattening) : Prop where
  fresh : inner.Fresh schemas moment
  descends : inner = call ∧ moment = state ∨
    inner.measure schemas moment < call.measure schemas state
  exists_above : ∃ above, moment.path = above ++ state.path ∧
    above.length + inner.lookups ≤ room schemas state.path

theorem Call.Fresh.restores (h : call.Fresh schemas state) : call.Restores schemas state where
  run_eq := fun _ _ hreturns _ hroom ↦ hreturns.run_eq h hroom
  path_eq := fun _ _ hreturns ↦ hreturns.path_eq

theorem Makes.within (h : Makes schemas call state names inner moment)
    (hfresh : call.Fresh schemas state) : call.Within schemas state inner moment where
  fresh := h.fresh hfresh
  descends := h.descends hfresh
  exists_above := by
    obtain ⟨above, hpath, hroom⟩ := h.exists_above hfresh
    have hlookups := (h.fresh hfresh).lookups_le
    exact ⟨above, hpath, by omega⟩

/-- The run over entries of a table comes to each of them, in the state that it has after those
before. -/
theorem exists_passes {list : List (String × Schema)} (hlist : list ⊆ schemas.entries)
    (rest : List (String × Schema)) (hpath : state.path = []) :
    ∃ names, Passes schemas (list ++ rest) state names rest (components schemas list state).2 := by
  induction list generalizing state with
  | nil => exact ⟨[], .here⟩
  | cons entry list ih =>
    obtain ⟨name, schema⟩ := entry
    obtain ⟨hentry, hlist⟩ := List.cons_subset.mp hlist
    obtain ⟨names, set, middle, hreturns⟩ := exists_returns schemas (.component name schema) state
    have hrun : component schemas schemas.entries.length name schema state = (set, middle) :=
      hreturns.run_eq (fresh_of_path_eq_nil hentry hpath) (room_le schemas state.path)
    obtain ⟨further, hpasses⟩ := ih hlist (hreturns.path_eq.trans hpath)
    rw [components]
    simp only [hrun]
    exact ⟨names ++ further, .next hreturns hpasses⟩

theorem exists_passes_end (schemas : Table Schema) : ∃ names, Passes schemas schemas.entries .start
    names [] (components schemas schemas.entries .start).2 := by
  have hpath : start.path = [] := rfl
  have hpasses := exists_passes (List.Subset.refl schemas.entries) [] hpath
  rwa [List.append_nil] at hpasses

/-- From every state, every call comes to an end. One that looks up no name of the path leaves the
path as it was, and so do the calls made in its course, which look up no name of the path either and
have smaller measures. The run over the schemas of a table ends too, with nothing on the path from
one schema to the next. -/
theorem flattening_ends (components : Components) :
    (∀ call state, ∃ names set after,
      Returns components.schemas call state names (set, after)) ∧
      (∀ call state, call.Fresh components.schemas state →
        call.Restores components.schemas state ∧
          ∀ names inner moment, Makes components.schemas call state names inner moment →
            call.Within components.schemas state inner moment ∧
              inner.Restores components.schemas moment) ∧
      (∃ names, Passes components.schemas components.schemas.entries .start names []
        (Flattening.components components.schemas components.schemas.entries .start).2) ∧
      ∀ names name schema rest between, Passes components.schemas components.schemas.entries .start
        names ((name, schema) :: rest) between →
          between.path = [] ∧ (Call.component name schema).Fresh components.schemas between := by
  refine ⟨exists_returns components.schemas, fun call state hfresh ↦ ⟨hfresh.restores, ?_⟩,
    exists_passes_end components.schemas, fun names name schema rest between hpasses ↦ ?_⟩
  · intro names inner moment hmakes
    exact ⟨hmakes.within hfresh, (hmakes.fresh hfresh).restores⟩
  · have hpath := hpasses.path_eq_nil rfl
    have hentry : (name, schema) ∈ components.schemas.entries :=
      hpasses.subset List.mem_cons_self
    exact ⟨hpath, fresh_of_path_eq_nil hentry hpath⟩

private def linked (own other : String) : Schema :=
  { Schema.blank with
    allOf := [{ Schema.blank with ref := some other }]
    properties := [(own, .blank)] }

/-- Of two schemas that are composed of each other, the second is looked up for the first. -/
theorem flattening_ends_linked :
    let schemas : Table Schema := .ofList [("A", linked "a" "B"), ("B", linked "b" "A")]
    let first := Call.component "A" (linked "a" "B")
    let second := Call.component "B" (linked "b" "A")
    let moment := Flattening.start.enter "A"
    first.Fresh schemas .start ∧ first.Restores schemas .start ∧
      Makes schemas first .start ["A"] second moment ∧ first.Within schemas .start second moment ∧
      second.Restores schemas moment ∧
      Passes schemas schemas.entries .start [] schemas.entries .start ∧
      first.Fresh schemas .start := by
  intro schemas first second moment
  have hfresh : first.Fresh schemas .start := ⟨by rfl, List.not_mem_nil⟩
  have hmakes : Makes schemas first .start ["A"] second moment :=
    .walk rfl (.plain rfl (.first (.target rfl (by decide) rfl .self)))
  obtain ⟨-, hends, -, hrun⟩ := flattening_ends { Components.empty with schemas }
  obtain ⟨hrestores, hmade⟩ := hends first .start hfresh
  obtain ⟨hwithin, hinner⟩ := hmade ["A"] second moment hmakes
  exact ⟨hfresh, hrestores, hmakes, hwithin, hinner, .here,
    (hrun [] "A" (linked "a" "B") _ .start .here).2⟩

end ApiOutline.Flattening
