import ApiOutline.OpenApi.Reference
import Mathlib.Data.Fintype.Pigeonhole
import Mathlib.Data.Set.Finite.List

/-!
Chains of references. From a node a chain goes on as long as a reference leads to a node of the
table. It stops at an item or at a reference that leads nowhere, or else comes back to a node where
it was (`stops_or_circular`), as a table has no more than so many nodes.

A node is resolved to the item at which its chain stops. As no more than sixteen nodes are looked
at, this is so for chains of up to fifteen references (`resolve_decides`), and of a chain of sixteen
the last reference is followed, but what it leads to is not looked at (`not_resolve_of_sixteen`).
-/

set_option autoImplicit false
set_option relaxedAutoImplicit false

namespace ApiOutline.OpenApi.RefOr

variable {α : Type} (table : Table (RefOr α))

/-- The node that a reference leads to. -/
def next? : RefOr α → Option (RefOr α)
  | .ref path => table.get? (refName path)
  | .item _ => none

/-- The node of a chain after a number of references, if the chain goes on for so long. -/
def nodeAfter (node : RefOr α) : (count : ℕ) → Option (RefOr α)
  | 0 => some node
  | count + 1 => (nodeAfter node count).bind (next? table)

/-- The chain from a node stops after a number of references. -/
structure Stops (node : RefOr α) (count : ℕ) (last : RefOr α) : Prop where
  nodeAfter_eq : nodeAfter table node count = some last
  next?_eq : next? table last = none

/-- The chain from a node comes back to one of its nodes. -/
def Circular (node : RefOr α) : Prop :=
  ∃ first later back, first < later ∧ nodeAfter table node first = some back ∧
    nodeAfter table node later = some back

variable {table} {node last : RefOr α} {count : ℕ}

/-! ### The nodes of a chain -/

theorem nodeAfter_add (node : RefOr α) (count more : ℕ) :
    nodeAfter table node (count + more) =
      (nodeAfter table node count).bind fun reached ↦ nodeAfter table reached more := by
  induction more with
  | zero => cases nodeAfter table node count <;> rfl
  | succ more ih =>
    rw [← Nat.add_assoc, nodeAfter, ih, Option.bind_assoc]
    rfl

theorem nodeAfter_succ (node : RefOr α) (count : ℕ) :
    nodeAfter table node (count + 1) =
      (next? table node).bind fun next ↦ nodeAfter table next count := by
  rw [Nat.add_comm, nodeAfter_add]
  rfl

theorem Stops.nodeAfter_eq_none (h : Stops table node count last) {later : ℕ}
    (hlater : count < later) : nodeAfter table node later = none := by
  obtain ⟨more, rfl⟩ := Nat.exists_eq_add_of_lt hlater
  rw [Nat.add_assoc, nodeAfter_add, h.nodeAfter_eq, Option.bind_some, nodeAfter_succ, h.next?_eq,
    Option.bind_none]

/-- A chain stops at one place only. -/
theorem Stops.unique {other : ℕ} {otherLast : RefOr α} (h : Stops table node count last)
    (hother : Stops table node other otherLast) : count = other ∧ last = otherLast := by
  rcases Nat.lt_trichotomy count other with hless | rfl | hless
  · exact absurd hother.nodeAfter_eq (by simp [h.nodeAfter_eq_none hless])
  · exact ⟨rfl, Option.some.inj (h.nodeAfter_eq.symm.trans hother.nodeAfter_eq)⟩
  · exact absurd h.nodeAfter_eq (by simp [hother.nodeAfter_eq_none hless])

/-! ### Chains that do not stop -/

/-- A chain that comes back goes on for ever: it is where it was before, and goes the same way. -/
theorem Circular.not_stops (h : Circular table node) : ¬ Stops table node count last := by
  intro hstops
  obtain ⟨first, later, back, hless, hfirst, hlater⟩ := h
  have hrepeat (more : ℕ) :
      nodeAfter table node (later + more) = nodeAfter table node (first + more) := by
    rw [nodeAfter_add, nodeAfter_add, hfirst, hlater]
  have hle : first ≤ count := by
    by_contra hlt
    have hnone := hstops.nodeAfter_eq_none (Nat.lt_of_not_le hlt)
    simp [hfirst] at hnone
  have hsame := hrepeat (count - first)
  rw [Nat.add_sub_cancel' hle, hstops.nodeAfter_eq,
    hstops.nodeAfter_eq_none (by omega)] at hsame
  exact Option.some_ne_none last hsame.symm

/-- After its first node a chain has no other nodes than those of the table. -/
theorem mem_values_of_nodeAfter (h : nodeAfter table node (count + 1) = some last) :
    last ∈ table.entries.map Prod.snd := by
  obtain ⟨before, -, hnext⟩ := Option.bind_eq_some_iff.mp h
  cases before with
  | item value => exact absurd hnext.symm (Option.some_ne_none last)
  | ref path => exact List.mem_map.mpr ⟨_, Table.get?_eq_some_iff.mp hnext, rfl⟩

theorem stops_or_circular (table : Table (RefOr α)) (node : RefOr α) :
    (∃ count last, Stops table node count last) ∨ Circular table node := by
  by_cases hends : ∃ count, nodeAfter table node count = none
  · left
    classical
    have hnone := Nat.find_spec hends
    have hleast := fun count ↦ Nat.find_min hends (m := count)
    cases hfirst : Nat.find hends with
    | zero =>
      rw [hfirst] at hnone
      exact absurd hnone (Option.some_ne_none node)
    | succ count =>
      rw [hfirst] at hnone hleast
      obtain ⟨last, hlast⟩ := Option.ne_none_iff_exists'.mp (hleast count (Nat.lt_succ_self count))
      rw [nodeAfter, hlast] at hnone
      exact ⟨count, last, hlast, hnone⟩
  · right
    have hgoes : ∀ count, ∃ reached, nodeAfter table node count = some reached :=
      fun count ↦ Option.ne_none_iff_exists'.mp fun hnone ↦ hends ⟨count, hnone⟩
    choose nodeAt hnodeAt using hgoes
    -- There are more numbers than nodes in the table, so two of them have the same node.
    have hfinite : Finite {reached // reached ∈ table.entries.map Prod.snd} :=
      (List.finite_toSet _).to_subtype
    obtain ⟨first, later, hne, hsame⟩ := Finite.exists_ne_map_eq_of_infinite fun count ↦
      (⟨nodeAt (count + 1), mem_values_of_nodeAfter (hnodeAt (count + 1))⟩ :
        {reached // reached ∈ table.entries.map Prod.snd})
    have hback : nodeAt (first + 1) = nodeAt (later + 1) := congrArg Subtype.val hsame
    rcases Nat.lt_or_gt_of_ne hne with hless | hless
    · exact ⟨first + 1, later + 1, _, Nat.succ_lt_succ hless, hnodeAt _, hback ▸ hnodeAt _⟩
    · exact ⟨later + 1, first + 1, _, Nat.succ_lt_succ hless, hnodeAt _, hback ▸ hnodeAt _⟩

/-! ### Resolving -/

/-- Looking at some nodes finds the item if the chain stops at one of them. -/
theorem follow_eq_some_iff (nodes : ℕ) (node : RefOr α) (value : α) :
    node.follow table nodes = some value ↔
      ∃ count < nodes, Stops table node count (.item value) := by
  induction nodes generalizing node with
  | zero => simp [follow]
  | succ nodes ih =>
    cases node with
    | item found =>
      have hstops : Stops table (.item found) 0 (.item found) := ⟨rfl, rfl⟩
      constructor
      · rintro ⟨⟩
        exact ⟨0, Nat.succ_pos nodes, hstops⟩
      · rintro ⟨count, -, h⟩
        obtain ⟨-, hsame⟩ := hstops.unique h
        exact congrArg some (RefOr.item.inj hsame)
    | ref path =>
      have hfirst : ¬ Stops table (.ref path) 0 (.item value) :=
        fun h ↦ nomatch h.nodeAfter_eq
      rw [follow]
      cases hnext : table.get? (refName path) with
      | none =>
        have hstops : Stops table (.ref path) 0 (.ref path) := ⟨rfl, hnext⟩
        constructor
        · rintro ⟨⟩
        · rintro ⟨count, -, h⟩
          obtain ⟨rfl, -⟩ := hstops.unique h
          exact absurd h hfirst
      | some next =>
        have hrest (count : ℕ) : Stops table (.ref path) (count + 1) (.item value) ↔
            Stops table next count (.item value) := by
          have hnode : nodeAfter table (.ref path) (count + 1) = nodeAfter table next count := by
            rw [nodeAfter_succ, next?, hnext, Option.bind_some]
          exact ⟨fun h ↦ ⟨hnode ▸ h.nodeAfter_eq, rfl⟩, fun h ↦ ⟨hnode.trans h.nodeAfter_eq, rfl⟩⟩
        dsimp only
        rw [ih next]
        constructor
        · rintro ⟨count, hless, h⟩
          exact ⟨count + 1, Nat.succ_lt_succ hless, (hrest count).mpr h⟩
        · rintro ⟨count, hless, h⟩
          cases count with
          | zero => exact absurd h hfirst
          | succ count => exact ⟨count, Nat.lt_of_succ_lt_succ hless, (hrest count).mp h⟩

/-- A node is resolved to the item at which its chain stops, if the item is among the first sixteen
nodes. It is resolved to nothing exactly if the chain stops at a reference that leads nowhere, or is
circular, or comes to an item only after sixteen references or more. -/
theorem resolve_decides (table : Table (RefOr α)) (node : RefOr α) :
    (∀ value, node.resolve table = some value ↔
      ∃ count < maxNodes, Stops table node count (.item value)) ∧
    (node.resolve table = none ↔
      (∃ count path, Stops table node count (.ref path)) ∨ Circular table node ∨
        ∃ count value, maxNodes ≤ count ∧ Stops table node count (.item value)) := by
  refine ⟨follow_eq_some_iff maxNodes node, ?_, ?_⟩
  · intro hnone
    rcases stops_or_circular table node with ⟨count, last, hstops⟩ | hcircular
    · cases last with
      | ref path => exact .inl ⟨count, path, hstops⟩
      | item value =>
        refine .inr (.inr ⟨count, value, Nat.le_of_not_lt fun hless ↦ ?_, hstops⟩)
        have hsome := (follow_eq_some_iff maxNodes node value).mpr ⟨count, hless, hstops⟩
        exact absurd (hsome.symm.trans hnone) (Option.some_ne_none value)
    · exact .inr (.inl hcircular)
  · intro h
    refine Option.eq_none_iff_forall_ne_some.mpr fun value hsome ↦ ?_
    obtain ⟨count, hless, hstops⟩ := (follow_eq_some_iff maxNodes node value).mp hsome
    rcases h with ⟨other, path, hother⟩ | hcircular | ⟨other, found, hmany, hother⟩
    · exact nomatch (hstops.unique hother).2
    · exact hcircular.not_stops hstops
    · obtain ⟨rfl, -⟩ := hstops.unique hother
      exact absurd hless (Nat.not_lt_of_le hmany)

/-- Of sixteen references to an item the last is followed in vain. -/
theorem not_resolve_of_sixteen :
    ¬ ∀ (table : Table (RefOr ℕ)) (node : RefOr ℕ) (count value : ℕ), count ≤ 16 →
      Stops table node count (.item value) → node.resolve table = some value := by
  intro h
  let table : Table (RefOr ℕ) := .ofList
    [("a", .ref "b"), ("b", .ref "c"), ("c", .ref "d"), ("d", .ref "e"), ("e", .ref "f"),
      ("f", .ref "g"), ("g", .ref "h"), ("h", .ref "i"), ("i", .ref "j"), ("j", .ref "k"),
      ("k", .ref "l"), ("l", .ref "m"), ("m", .ref "n"), ("n", .ref "o"), ("o", .ref "p"),
      ("p", .item 7)]
  have hfollow : (RefOr.ref "a").follow table 17 = some 7 := by decide +kernel
  have hresolve : (RefOr.ref "a").resolve table = none := by decide +kernel
  obtain ⟨count, hless, hstops⟩ := (follow_eq_some_iff 17 (.ref "a") 7).mp hfollow
  exact nomatch hresolve.symm.trans (h table _ count 7 (Nat.le_of_lt_succ hless) hstops)

end ApiOutline.OpenApi.RefOr
