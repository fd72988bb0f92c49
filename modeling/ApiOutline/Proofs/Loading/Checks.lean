import ApiOutline.Extraction

/-!
What the checks of a document look at. Of the members of a document they read the versions, the info
and the kind of the paths, each by its key, so a change under any other key, or within the paths,
changes no fault (`faults_congr`). And as they only put texts for two numbers, such a change may be
made before the checks or after them (`mapMember_comm`).

A text that is no document has nothing but white space in it, or is not read as a value, or fails
the checks, or has a part of the wrong form (`Document.load_eq_error`, `Document.ofTree_eq_error`).
There always is a fault.
-/

set_option autoImplicit false
set_option relaxedAutoImplicit false

namespace ApiOutline.OpenApi

theorem lookup_mapMember (key name : String) (change : Json → Json) (members : Members) :
    (mapMember key change members).lookup name =
      if name = key then (members.lookup name).map change else members.lookup name := by
  induction members with
  | nil => simp [mapMember]
  | cons member rest ih =>
    obtain ⟨first, value⟩ := member
    have hcons : mapMember key change ((first, value) :: rest) =
        (first, if first = key then change value else value) :: mapMember key change rest := rfl
    rw [hcons, List.lookup_cons, List.lookup_cons, ih]
    by_cases hname : name = first
    · subst hname
      by_cases hkey : name = key <;> simp [hkey]
    · simp [beq_eq_false_iff_ne.mpr hname]

theorem mapMember_comm {key other : String} (hne : key ≠ other) (change otherChange : Json → Json)
    (members : Members) :
    mapMember key change (mapMember other otherChange members) =
      mapMember other otherChange (mapMember key change members) := by
  rw [mapMember, mapMember, mapMember, mapMember, List.map_map, List.map_map]
  refine List.map_congr_left fun entry _ ↦ ?_
  by_cases hkey : entry.1 = key
  · simp [hkey, hne]
  · simp [hkey]

/-- All faults of the members of a document, in the order in which they are reported. -/
def faults (root : Members) : List DocumentFault :=
  versionFaults root ++ infoFaults root ++ pathsFaults root

/-- The members of a document with its versions as texts. -/
def withTextVersions (root : Members) : Members :=
  mapMember "info" Info.withTextVersion (mapMember "openapi" textOfNumber root)

theorem checkStructure_object (root : Members) :
    checkStructure (.object root) = match faults root with
      | [] => .ok (.object (withTextVersions root))
      | found => .error found :=
  rfl

theorem checkStructure_object_eq_error_iff {root : Members} {found : List DocumentFault} :
    checkStructure (.object root) = .error found ↔ found = faults root ∧ found ≠ [] := by
  rw [checkStructure_object]
  cases hfaults : faults root with
  | nil => simp
  | cons fault others =>
    simp only [Except.error.injEq, eq_comm]
    exact (and_iff_left_of_imp fun h ↦ h ▸ List.cons_ne_nil fault others).symm

theorem checkStructure_object_eq_ok_iff {root : Members} {checked : Json} :
    checkStructure (.object root) = .ok checked ↔
      faults root = [] ∧ checked = .object (withTextVersions root) := by
  rw [checkStructure_object]
  cases faults root <;> simp [eq_comm]

/-- The faults are decided by four members, and by no more than the kind of the paths. -/
theorem faults_congr {root other : Members}
    (hmembers : ∀ key ∈ ["openapi", "swagger", "info"], root.lookup key = other.lookup key)
    (hpaths : pathsFaults root = pathsFaults other) : faults root = faults other := by
  simp only [List.forall_mem_cons] at hmembers
  obtain ⟨hopenapi, hswagger, hinfo, -⟩ := hmembers
  rw [faults, faults, versionFaults, versionFaults, infoFaults, infoFaults, hopenapi, hswagger,
    hinfo, hpaths]

/-! ### Texts that are no document -/

theorem ne_nil_of_checkStructure_eq_error {tree : Json} {found : List DocumentFault}
    (h : checkStructure tree = .error found) : found ≠ [] := by
  cases tree with
  | object root => exact (checkStructure_object_eq_error_iff.mp h).2
  | _ =>
    obtain rfl := Except.error.inj h
    exact List.cons_ne_nil _ _

namespace Document

theorem ofTree_eq_error {tree : Json} {found : List DocumentFault}
    (h : ofTree tree = .error found) :
    checkStructure tree = .error found ∨ ∃ mismatch, found = [.badForm (.mismatch mismatch)] := by
  unfold ofTree at h
  cases hcheck : checkStructure tree with
  | error faults =>
    rw [hcheck] at h
    exact .inl (congrArg Except.error (Except.error.inj h))
  | ok checked =>
    rw [hcheck] at h
    change (Document.read (dropExtensions checked)).mapError _ = _ at h
    cases hread : Document.read (dropExtensions checked) with
    | error mismatch =>
      rw [hread] at h
      exact .inr ⟨mismatch, (Except.error.inj h).symm⟩
    | ok document =>
      rw [hread] at h
      cases h

theorem load_eq_error {text : String} {found : List DocumentFault} (h : load text = .error found) :
    Text.trim text.toList = [] ∧ found = [.empty] ∨ (∃ fault, found = [.badSyntax fault]) ∨
      ∃ tree, ofTree tree = .error found := by
  unfold load at h
  split at h
  · next hempty => exact .inl ⟨List.isEmpty_iff.mp hempty, (Except.error.inj h).symm⟩
  · cases htree : readTree text with
    | error fault =>
      rw [htree] at h
      exact .inr (.inl ⟨fault, (Except.error.inj h).symm⟩)
    | ok tree =>
      rw [htree] at h
      exact .inr (.inr ⟨tree, h⟩)

theorem ne_nil_of_load_eq_error {text : String} {found : List DocumentFault}
    (h : load text = .error found) : found ≠ [] := by
  obtain ⟨-, rfl⟩ | ⟨fault, rfl⟩ | ⟨tree, htree⟩ := load_eq_error h
  · exact List.cons_ne_nil _ _
  · exact List.cons_ne_nil _ _
  · obtain hcheck | ⟨mismatch, rfl⟩ := ofTree_eq_error htree
    · exact ne_nil_of_checkStructure_eq_error hcheck
    · exact List.cons_ne_nil _ _

end Document

end ApiOutline.OpenApi

namespace ApiOutline

theorem extract_eq_failure_iff {text : String} {found : List OpenApi.DocumentFault} :
    extract text = .failure found ↔ OpenApi.Document.load text = .error found := by
  unfold extract
  split
  · next document hload => simp [hload]
  · next faults hload => simp [hload]

theorem ne_nil_of_extract_eq_failure {text : String} {found : List OpenApi.DocumentFault}
    (h : extract text = .failure found) : found ≠ [] :=
  OpenApi.Document.ne_nil_of_load_eq_error (extract_eq_failure_iff.mp h)

end ApiOutline
