import ApiOutline.Proofs.Loading.Checks
import ApiOutline.Proofs.Text.Blank
import Mathlib.Data.List.Forall2

/-!
What is reported of a document that is none. Its version, its info and its paths are three sections,
and the faults of each are told by the members of this section alone, exactly one list of faults for
all that they may be (`versionSection_iff`, `infoSection_iff`, `pathsSection_iff`). All faults are
reported, in the order of the sections. A document without any is kept as it is, but for the numbers
that stand for the text of a version (`relatesValues_keptInDocument_iff`).

The faults that say something of a text as a whole are none of a section (`isOfSection_faults`). So
a text is reported as empty if it is, and for nothing else.
-/

set_option autoImplicit false
set_option relaxedAutoImplicit false

namespace ApiOutline.OpenApi

/-! ### The sections of a document -/

/-- A member that says nothing. -/
def IsAbsent (member : Option Json) : Prop := member = none ∨ member = some .null

/-- A version is a text, or a number that stands for its text: its decimal digits
(`Number.text_integer`), or the shortest digits of a double (`Number.text_float_writes`). -/
inductive GivesVersion : Json → String → Prop
  | string (version : String) : GivesVersion (.string version) version
  | number (version : Number) : GivesVersion (.number version) version.text

/-- A text is quoted as it is, and any other value as JSON in one line. -/
inductive QuotedAs : Json → String → Prop
  | string (value : String) : QuotedAs (.string value) value
  | other {value : Json} (hother : ∀ text, value ≠ .string text) : QuotedAs value value.compact

/-- Up to white space around it, the version starts with a three and a dot. -/
def IsThirdVersion (version : String) : Prop :=
  ∃ part, Text.IsTrimmed version.toList part ∧ ['3', '.'] <+: part

/-- The faults of the version, by the members `openapi` and `swagger`. The second counts if there is
nothing under the first. -/
inductive VersionSection : Option Json → Option Json → List DocumentFault → Prop
  | supported {value : Json} {version : String} {swagger : Option Json}
      (hversion : GivesVersion value version) (hthird : IsThirdVersion version) :
      VersionSection (some value) swagger []
  | unsupported {value : Json} {version : String} {swagger : Option Json}
      (hversion : GivesVersion value version) (hother : ¬ IsThirdVersion version) :
      VersionSection (some value) swagger [.unsupportedVersion version]
  | notString {value : Json} {swagger : Option Json} (hvalue : value ≠ .null)
      (hnone : ∀ version, ¬ GivesVersion value version) :
      VersionSection (some value) swagger [.badForm .versionNotString]
  | former {openapi : Option Json} {swagger : Json} {text : String} (habsent : IsAbsent openapi)
      (hquoted : QuotedAs swagger text) :
      VersionSection openapi (some swagger) [.unsupportedVersion s!"swagger {text}"]
  | missing {openapi : Option Json} (habsent : IsAbsent openapi) :
      VersionSection openapi none [.missing .openapi]

/-- The faults of a field that may be any value but `null`. -/
inductive FieldSection (field : RequiredField) : Option Json → List DocumentFault → Prop
  | given {value : Json} (hvalue : value ≠ .null) : FieldSection field (some value) []
  | missing {member : Option Json} (habsent : IsAbsent member) :
      FieldSection field member [.missing field]

/-- The faults of a field that has to be a mapping: that it is missing, that it is a value of
another kind, or those of the members. -/
inductive MappingSection (field : RequiredField) (fault : FormFault)
    (Inner : Members → List DocumentFault → Prop) : Option Json → List DocumentFault → Prop
  | missing {member : Option Json} (habsent : IsAbsent member) :
      MappingSection field fault Inner member [.missing field]
  | notMapping {value : Json} (hvalue : value ≠ .null)
      (hother : ∀ members, value ≠ .object members) :
      MappingSection field fault Inner (some value) [.badForm fault]
  | mapping {members : Members} {found : List DocumentFault} (hinner : Inner members found) :
      MappingSection field fault Inner (some (.object members)) found

def InfoSection : Option Json → List DocumentFault → Prop :=
  MappingSection .info .infoNotMapping fun info found ↦
    ∃ title version, FieldSection .title (info.lookup "title") title ∧
      FieldSection .version (info.lookup "version") version ∧ found = title ++ version

def PathsSection : Option Json → List DocumentFault → Prop :=
  MappingSection .paths .pathsNotMapping fun _ found ↦ found = []

theorem isSupportedVersion_iff {version : String} :
    isSupportedVersion version = true ↔ IsThirdVersion version := by
  simp only [isSupportedVersion, Text.startsWith_iff, IsThirdVersion, Text.isTrimmed_iff,
    exists_eq_left]

theorem quotedAs_iff {value : Json} {text : String} :
    QuotedAs value text ↔ text = scalarText value := by
  constructor
  · rintro (_ | hother)
    · rfl
    · cases value with
      | string value => exact absurd rfl (hother value)
      | _ => rfl
  · rintro rfl
    cases value with
    | string value => exact .string value
    | _ => exact .other nofun

theorem VersionSection.ofVersion {value : Json} {version : String} (h : GivesVersion value version)
    (swagger : Option Json) : VersionSection (some value) swagger (versionTextFaults version) := by
  unfold versionTextFaults
  split_ifs with hsupported
  · exact .supported h (isSupportedVersion_iff.mp hsupported)
  · exact .unsupported h (isSupportedVersion_iff.not.mp hsupported)

variable {root : Members} {found : List DocumentFault}

theorem versionSection_iff :
    VersionSection (root.lookup "openapi") (root.lookup "swagger") found ↔
      found = versionFaults root := by
  unfold versionFaults
  generalize root.lookup "openapi" = openapi
  generalize root.lookup "swagger" = swagger
  constructor
  · rintro (⟨hversion, hthird⟩ | ⟨hversion, hother⟩ | @⟨value, _, hvalue, hnone⟩ |
      ⟨habsent, hquoted⟩ | habsent)
    · cases hversion <;> exact (if_pos (isSupportedVersion_iff.mpr hthird)).symm
    · cases hversion <;> exact (if_neg (isSupportedVersion_iff.not.mpr hother)).symm
    · cases value with
      | null => exact absurd rfl hvalue
      | string version => exact absurd (.string version) (hnone version)
      | number version => exact absurd (.number version) (hnone version.text)
      | _ => rfl
    · obtain rfl := quotedAs_iff.mp hquoted
      obtain rfl | rfl := habsent <;> rfl
    · obtain rfl | rfl := habsent <;> rfl
  · rintro rfl
    obtain _ | value := openapi
    · cases swagger with
      | none => exact .missing (.inl rfl)
      | some swagger => exact .former (.inl rfl) (quotedAs_iff.mpr rfl)
    · cases value with
      | null =>
        cases swagger with
        | none => exact .missing (.inr rfl)
        | some swagger => exact .former (.inr rfl) (quotedAs_iff.mpr rfl)
      | string version => exact .ofVersion (.string version) swagger
      | number version => exact .ofVersion (.number version) swagger
      | _ => exact .notString nofun nofun

theorem fieldSection_iff {field : RequiredField} {members : Members} {key : String} :
    FieldSection field (members.lookup key) found ↔
      found = if hasValue members key then [] else [.missing field] := by
  unfold hasValue
  generalize members.lookup key = member
  constructor
  · rintro (@⟨value, hvalue⟩ | habsent)
    · cases value with
      | null => exact absurd rfl hvalue
      | _ => rfl
    · obtain rfl | rfl := habsent <;> rfl
  · rintro rfl
    obtain _ | value := member
    · exact .missing (.inl rfl)
    · cases value with
      | null => exact .missing (.inr rfl)
      | _ => exact .given nofun

/-- The faults of a mapping may be computed by its members. -/
theorem mappingSection_iff {field : RequiredField} {fault : FormFault}
    {Inner : Members → List DocumentFault → Prop} (inner : Members → List DocumentFault)
    (hinner : ∀ members found, Inner members found ↔ found = inner members)
    {member : Option Json} :
    MappingSection field fault Inner member found ↔ found = match member with
      | none | some .null => [.missing field]
      | some (.object members) => inner members
      | some _ => [.badForm fault] := by
  constructor
  · rintro (habsent | @⟨value, hvalue, hother⟩ | h)
    · obtain rfl | rfl := habsent <;> rfl
    · cases value with
      | null => exact absurd rfl hvalue
      | object members => exact absurd rfl (hother members)
      | _ => rfl
    · exact (hinner _ _).mp h
  · rintro rfl
    split
    · exact .missing (.inl rfl)
    · exact .missing (.inr rfl)
    · exact .mapping ((hinner _ _).mpr rfl)
    · next value hnull hother => exact .notMapping hnull hother

theorem infoSection_iff : InfoSection (root.lookup "info") found ↔ found = infoFaults root := by
  refine mappingSection_iff _ fun info found ↦ ?_
  constructor
  · rintro ⟨title, version, htitle, hversion, rfl⟩
    rw [fieldSection_iff.mp htitle, fieldSection_iff.mp hversion]
  · rintro rfl
    exact ⟨_, _, fieldSection_iff.mpr rfl, fieldSection_iff.mpr rfl, rfl⟩

theorem pathsSection_iff : PathsSection (root.lookup "paths") found ↔ found = pathsFaults root :=
  mappingSection_iff (fun _ ↦ []) fun _ _ ↦ Iff.rfl

/-! ### The document that is kept -/

/-- The same keys in the same order, with values that are related under each. -/
def RelatesValues (R : String → Json → Json → Prop) : Members → Members → Prop :=
  List.Forall₂ fun member other ↦ member.1 = other.1 ∧ R member.1 member.2 other.2

/-- A version as it is kept: a number as its text. -/
inductive KeptVersion : Json → Json → Prop
  | number (version : Number) : KeptVersion (.number version) (.string version.text)
  | same {value : Json} (hvalue : ∀ version, value ≠ .number version) : KeptVersion value value

/-- A value of the info as it is kept. -/
inductive KeptInInfo : String → Json → Json → Prop
  | version {value kept : Json} (h : KeptVersion value kept) : KeptInInfo "version" value kept
  | same {key : String} (hkey : key ≠ "version") (value : Json) : KeptInInfo key value value

/-- A value of a document as it is kept. -/
inductive KeptInDocument : String → Json → Json → Prop
  | openapi {value kept : Json} (h : KeptVersion value kept) : KeptInDocument "openapi" value kept
  | info {info kept : Members} (h : RelatesValues KeptInInfo info kept) :
      KeptInDocument "info" (.object info) (.object kept)
  | same {key : String} {value : Json} (hopenapi : key ≠ "openapi")
      (hinfo : key = "info" → ∀ info, value ≠ .object info) : KeptInDocument key value value

theorem relatesValues_iff {R : String → Json → Json → Prop} (change : String → Json → Json)
    (h : ∀ key value kept, R key value kept ↔ kept = change key value) {members kept : Members} :
    RelatesValues R members kept ↔
      kept = members.map fun member ↦ (member.1, change member.1 member.2) := by
  have hmember (member other : String × Json) :
      member.1 = other.1 ∧ R member.1 member.2 other.2 ↔
        (member.1, change member.1 member.2) = other := by
    rw [h, Prod.ext_iff, @eq_comm _ other.2]
  rw [RelatesValues]
  simp only [hmember]
  rw [← List.forall₂_map_left_iff, List.forall₂_eq_eq_eq, eq_comm]

theorem keptVersion_iff {value kept : Json} :
    KeptVersion value kept ↔ kept = textOfNumber value := by
  constructor
  · rintro (_ | hvalue)
    · rfl
    · cases value with
      | number version => exact absurd rfl (hvalue version)
      | _ => rfl
  · rintro rfl
    cases value with
    | number version => exact .number version
    | _ => exact .same nofun

theorem relatesValues_keptInInfo_iff {info kept : Members} :
    RelatesValues KeptInInfo info kept ↔ kept = mapMember "version" textOfNumber info := by
  refine relatesValues_iff (fun key value ↦ if key = "version" then textOfNumber value else value)
    fun key value kept ↦ ?_
  constructor
  · rintro (h | hkey)
    · exact keptVersion_iff.mp h
    · rw [if_neg hkey]
  · rintro rfl
    split_ifs with hkey
    · subst hkey
      exact .version (keptVersion_iff.mpr rfl)
    · exact .same hkey value

/-- What the value under a key is changed to. -/
def withTextVersion (key : String) (value : Json) : Json :=
  if key = "openapi" then textOfNumber value
  else if key = "info" then Info.withTextVersion value
  else value

theorem withTextVersions_eq_map (root : Members) :
    withTextVersions root =
      root.map fun member ↦ (member.1, withTextVersion member.1 member.2) := by
  rw [withTextVersions, mapMember, mapMember, List.map_map]
  refine List.map_congr_left fun member _ ↦ ?_
  by_cases hopenapi : member.1 = "openapi" <;> simp [withTextVersion, hopenapi]

theorem relatesValues_keptInDocument_iff {kept : Members} :
    RelatesValues KeptInDocument root kept ↔ kept = withTextVersions root := by
  rw [withTextVersions_eq_map]
  refine relatesValues_iff withTextVersion fun key value kept ↦ ?_
  unfold withTextVersion
  constructor
  · rintro (h | h | ⟨hopenapi, hinfo⟩)
    · exact keptVersion_iff.mp h
    · rw [relatesValues_keptInInfo_iff.mp h]
      rfl
    · rw [if_neg hopenapi]
      split_ifs with hkey
      · cases value with
        | object info => exact absurd rfl (hinfo hkey info)
        | _ => rfl
      · rfl
  · rintro rfl
    split_ifs with hopenapi hinfo
    · subst hopenapi
      exact .openapi (keptVersion_iff.mpr rfl)
    · subst hinfo
      cases value with
      | object info => exact .info (relatesValues_keptInInfo_iff.mpr rfl)
      | _ => exact .same hopenapi nofun
    · exact .same hopenapi fun hkey ↦ absurd hkey hinfo

/-! ### Reports -/

/-- The faults that a section may have. The others are of a text or a value that has no sections. -/
def IsOfSection : DocumentFault → Prop
  | .missing _ | .unsupportedVersion _ | .badForm _ => True
  | .empty | .badSyntax _ | .notMapping _ => False

theorem VersionSection.isOfSection {openapi swagger : Option Json}
    (h : VersionSection openapi swagger found) : ∀ fault ∈ found, IsOfSection fault := by
  cases h <;> simp [IsOfSection]

theorem FieldSection.isOfSection {field : RequiredField} {member : Option Json}
    (h : FieldSection field member found) : ∀ fault ∈ found, IsOfSection fault := by
  cases h <;> simp [IsOfSection]

theorem MappingSection.isOfSection {field : RequiredField} {fault : FormFault}
    {Inner : Members → List DocumentFault → Prop} {member : Option Json}
    (h : MappingSection field fault Inner member found)
    (hinner : ∀ members, Inner members found → ∀ fault ∈ found, IsOfSection fault) :
    ∀ fault ∈ found, IsOfSection fault := by
  cases h with
  | mapping h => exact hinner _ h
  | _ => simp [IsOfSection]

theorem InfoSection.isOfSection {member : Option Json} (h : InfoSection member found) :
    ∀ fault ∈ found, IsOfSection fault := by
  refine MappingSection.isOfSection h ?_
  rintro info ⟨title, version, htitle, hversion, rfl⟩
  exact List.forall_mem_append.mpr ⟨htitle.isOfSection, hversion.isOfSection⟩

theorem PathsSection.isOfSection {member : Option Json} (h : PathsSection member found) :
    ∀ fault ∈ found, IsOfSection fault :=
  MappingSection.isOfSection h fun _ hnil ↦ by simp [hnil]

theorem isOfSection_faults (root : Members) : ∀ fault ∈ faults root, IsOfSection fault := by
  rw [faults, List.forall_mem_append, List.forall_mem_append]
  exact ⟨⟨(versionSection_iff.mpr rfl).isOfSection, (infoSection_iff.mpr rfl).isOfSection⟩,
    (pathsSection_iff.mpr rfl).isOfSection⟩

theorem checkStructure_eq_notMapping_iff {tree : Json} :
    checkStructure tree = .error [.notMapping tree] ↔ ∀ root, tree ≠ .object root := by
  cases tree with
  | object root =>
    refine iff_of_false (fun h ↦ ?_) fun h ↦ h root rfl
    have hfaults := (checkStructure_object_eq_error_iff.mp h).1
    exact isOfSection_faults root _ (hfaults ▸ List.mem_singleton_self _)
  | _ => exact iff_of_true rfl nofun

theorem checkStructure_ne_empty (tree : Json) : checkStructure tree ≠ .error [.empty] := by
  cases tree with
  | object root =>
    intro h
    have hfaults := (checkStructure_object_eq_error_iff.mp h).1
    exact isOfSection_faults root _ (hfaults ▸ List.mem_singleton_self _)
  | _ => exact nofun

end ApiOutline.OpenApi

namespace ApiOutline

open OpenApi

/-! ### Texts -/

theorem extract_eq_failure_empty_iff {text : String} :
    extract text = .failure [.empty] ↔ ∀ c ∈ text.toList, Text.isBlank c = true := by
  rw [← Text.trim_eq_nil_iff, extract_eq_failure_iff]
  constructor
  · intro hload
    obtain ⟨hblank, -⟩ | ⟨fault, hfault⟩ | ⟨tree, htree⟩ := Document.load_eq_error hload
    · exact hblank
    · exact nomatch hfault
    · obtain hcheck | ⟨mismatch, hmismatch⟩ := Document.ofTree_eq_error htree
      · exact absurd hcheck (checkStructure_ne_empty tree)
      · exact nomatch hmismatch
  · intro hblank
    rw [Document.load, hblank]
    rfl

/-- Every text has an outline or faults, and nothing but `empty` for a fault if there is nothing but
white space in it. A value has all faults of its three sections, in their order, and the faults of a
section are told by its own members. A value without faults is kept, with its versions as texts. -/
theorem extract_reports_sections :
    (∀ text, (∃ outline, extract text = .success outline) ∨
      ∃ found, extract text = .failure found ∧ found ≠ []) ∧
    (∀ text, extract text = .failure [.empty] ↔ ∀ c ∈ text.toList, Text.isBlank c = true) ∧
    (∀ tree, checkStructure tree = .error [.notMapping tree] ↔ ∀ root, tree ≠ .object root) ∧
    ∀ root, ∃ version info paths,
      (∀ found, VersionSection (root.lookup "openapi") (root.lookup "swagger") found ↔
        found = version) ∧
      (∀ found, InfoSection (root.lookup "info") found ↔ found = info) ∧
      (∀ found, PathsSection (root.lookup "paths") found ↔ found = paths) ∧
      (∀ found, checkStructure (.object root) = .error found ↔
        found = version ++ info ++ paths ∧ found ≠ []) ∧
      ∀ checked, checkStructure (.object root) = .ok checked ↔
        version ++ info ++ paths = [] ∧
          ∃ kept, checked = .object kept ∧ RelatesValues KeptInDocument root kept := by
  refine ⟨fun text ↦ ?_, fun text ↦ extract_eq_failure_empty_iff,
    fun tree ↦ checkStructure_eq_notMapping_iff, fun root ↦ ?_⟩
  · cases hextract : extract text with
    | success outline => exact .inl ⟨outline, rfl⟩
    | failure found => exact .inr ⟨found, rfl, ne_nil_of_extract_eq_failure hextract⟩
  · refine ⟨versionFaults root, infoFaults root, pathsFaults root, fun _ ↦ versionSection_iff,
      fun _ ↦ infoSection_iff, fun _ ↦ pathsSection_iff,
      fun _ ↦ checkStructure_object_eq_error_iff, fun checked ↦ ?_⟩
    simp only [relatesValues_keptInDocument_iff, exists_eq_right]
    exact checkStructure_object_eq_ok_iff

/-- A document of a former format without a version of the API and without paths, and one that has a
number for the version of the API. -/
theorem extract_reports_sections_former :
    let former : Members :=
      [("info", .object [("title", .string "Tracks")]), ("swagger", .string "2.0")]
    let numbered (version : Json) : Members :=
      [("openapi", .string " 3.0.3"), ("paths", .object []),
        ("info", .object [("version", version), ("title", .bool true)])]
    checkStructure (.object former) =
        .error [.unsupportedVersion "swagger 2.0", .missing .version, .missing .paths] ∧
      checkStructure (.object (numbered (.number (.integer 2)))) =
        .ok (.object (numbered (.string "2"))) := by
  intro former numbered
  obtain ⟨-, -, -, hsections⟩ := extract_reports_sections
  constructor
  · obtain ⟨version, info, paths, hversion, hinfo, hpaths, herror, -⟩ := hsections former
    obtain rfl := (hversion _).mp (.former (.inl rfl) (.string "2.0"))
    obtain rfl := (hinfo _).mp (.mapping ⟨[], _, .given nofun, .missing (.inl rfl), rfl⟩)
    obtain rfl := (hpaths _).mp (.missing (.inl rfl))
    exact (herror _).mpr ⟨rfl, List.cons_ne_nil _ _⟩
  · obtain ⟨version, info, paths, hversion, hinfo, hpaths, -, hok⟩ :=
      hsections (numbered (.number (.integer 2)))
    have hthird : IsThirdVersion " 3.0.3" :=
      ⟨"3.0.3".toList, Text.isTrimmed_iff.mpr (by decide), by decide⟩
    obtain rfl := (hversion _).mp (.supported (.string _) hthird)
    obtain rfl := (hinfo _).mp (.mapping ⟨[], [], .given nofun, .given nofun, rfl⟩)
    obtain rfl := (hpaths _).mp (.mapping rfl)
    refine (hok _).mpr ⟨rfl, _, rfl, .cons ⟨rfl, .openapi (.same nofun)⟩ (.cons ⟨rfl, ?_⟩
      (.cons ⟨rfl, .info (.cons ⟨rfl, ?_⟩ (.cons ⟨rfl, ?_⟩ .nil))⟩ .nil))⟩
    · exact .same (by decide) nofun
    · exact .version (.number (.integer 2))
    · exact .same (by decide) _

end ApiOutline
