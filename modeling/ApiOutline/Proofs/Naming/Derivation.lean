import ApiOutline.OpenApi.Reader
import ApiOutline.Proofs.Interfaces.Partition
import ApiOutline.Proofs.Naming.Words
import ApiOutline.Proofs.Text.Case
import Mathlib.Data.List.TakeWhile

/-!
Names of operations. An `operationId` with a letter or a number in it has a name in camel case
(`camelCase_eq_empty_iff`), and the words of a path are the words of its segments, whatever slashes
and braces are around them, so a derived name is the method followed by the path in Pascal case
(`derivedName_eq`). No name is empty, nor does it become so where it is numbered.
-/

set_option autoImplicit false
set_option relaxedAutoImplicit false

namespace ApiOutline

open Text (isAlphanumeric lowercaseText)

namespace Naming

/-- Whether there is a letter or a number in a text, to make a name of. -/
def HasAlphanumeric (text : String) : Prop := ∃ c ∈ text.toList, isAlphanumeric c = true

theorem camelWords_eq_nil_iff {words : List (List Char)} (h : ∀ word ∈ words, word ≠ []) :
    camelWords words = [] ↔ words = [] := by
  cases words with
  | nil => exact iff_of_true rfl rfl
  | cons word rest =>
    refine iff_of_false ?_ (List.cons_ne_nil word rest)
    rw [camelWords]
    refine List.append_ne_nil_of_left_ne_nil ?_ _
    rw [ne_eq, Text.lowercaseText_eq_nil_iff]
    exact h word List.mem_cons_self

theorem camelCase_ne_empty_iff {text : String} : camelCase text ≠ "" ↔ HasAlphanumeric text := by
  have hnil : camelCase text = "" ↔ camelWords (words text.toList) = [] := by
    rw [camelCase, ← String.toList_inj, String.toList_ofList]
    rfl
  rw [ne_eq, hnil, camelWords_eq_nil_iff fun _ ↦ ne_nil_of_mem_words, words_eq_nil_iff,
    HasAlphanumeric]
  simp

end Naming

/-! ### Pieces of a path -/

theorem Text.splitAt_ne_nil (separator : Char) (text : List Char) :
    splitAt separator text ≠ [] := by
  cases text with
  | nil => exact List.cons_ne_nil _ _
  | cons c text =>
    rw [splitAt]
    split
    · exact List.cons_ne_nil _ _
    · split <;> exact List.cons_ne_nil _ _

theorem Text.intercalate_splitAt (separator : Char) (text : List Char) :
    [separator].intercalate (splitAt separator text) = text := by
  induction text with
  | nil => rfl
  | cons c text ih =>
    obtain ⟨piece, pieces, hpieces⟩ :=
      List.exists_cons_of_ne_nil (splitAt_ne_nil separator text)
    rw [hpieces] at ih
    rw [splitAt, hpieces]
    dsimp only
    split_ifs with hc
    · rw [List.intercalate_cons_cons, ih, hc]
      rfl
    · cases pieces with
      | nil => simpa using ih
      | cons next pieces => simpa [List.intercalate_cons_cons] using ih

namespace Naming

theorem words_intercalate {separator : Char} (h : isAlphanumeric separator = false)
    (pieces : List (List Char)) :
    words ([separator].intercalate pieces) = pieces.flatMap words := by
  induction pieces with
  | nil => rfl
  | cons piece pieces ih =>
    cases pieces with
    | nil => simp
    | cons next pieces =>
      rw [List.intercalate_cons_cons, List.append_assoc, List.singleton_append,
        words_append_separator h, ih]
      rfl

theorem words_dropWhile {p : Char → Bool} (h : ∀ c, p c = true → isAlphanumeric c = false)
    (text : List Char) : words (text.dropWhile p) = words text := by
  have hgap : ∀ c ∈ text.takeWhile p, isAlphanumeric c = false :=
    fun c hc ↦ h c (List.mem_takeWhile_imp hc)
  rw [← words_separators_append hgap, List.takeWhile_append_dropWhile]

theorem words_reverse_dropWhile_reverse {p : Char → Bool}
    (h : ∀ c, p c = true → isAlphanumeric c = false) (text : List Char) :
    words (text.reverse.dropWhile p).reverse = words text := by
  have hgap : ∀ c ∈ (text.reverse.takeWhile p).reverse, isAlphanumeric c = false :=
    fun c hc ↦ h c (List.mem_takeWhile_imp (List.mem_reverse.mp hc))
  rw [← words_append_separators hgap, ← List.reverse_append, List.takeWhile_append_dropWhile,
    List.reverse_reverse]

end Naming

namespace Operation

open Naming (camelCase camelWords pascalCase words)

theorem words_trimBraces (segment : List Char) : words (trimBraces segment) = words segment := by
  rw [trimBraces, Naming.words_reverse_dropWhile_reverse, Naming.words_dropWhile]
  · intro c hc
    rw [of_decide_eq_true hc]
    decide
  · intro c hc
    rw [of_decide_eq_true hc]
    decide

/-- Segments are put after each other as words are, and those that are empty have none. -/
theorem words_append_segments (front : List Char) (segments : List (List Char)) :
    words (front ++ segments.flatMap fun segment ↦ if segment.isEmpty then [] else '_' :: segment) =
      words front ++ segments.flatMap words := by
  induction segments generalizing front with
  | nil => rw [List.flatMap_nil, List.flatMap_nil, List.append_nil, List.append_nil]
  | cons segment segments ih =>
    rw [List.flatMap_cons, List.flatMap_cons]
    cases segment with
    | nil => exact ih front
    | cons c segment =>
      rw [List.isEmpty_cons, if_neg Bool.false_ne_true, List.cons_append,
        Naming.words_append_separator (by decide), ih]

theorem words_append_segmentText (front : List Char) (path : String) :
    words (front ++ segmentText path) = words front ++ words path.toList := by
  have hslash : Text.isAlphanumeric '/' = false := by decide
  rw [segmentText, words_append_segments, List.flatMap_map]
  simp only [words_trimBraces]
  rw [← Naming.words_intercalate hslash, Text.intercalate_splitAt]

theorem words_key (method : Method) : words method.key.toList = [method.key.toList] := by
  cases method <;> decide

theorem lowercaseText_key (method : Method) :
    lowercaseText method.key.toList = lowercaseText method.text.toList := by
  cases method <;> decide

/-- A name is derived from a method and from the words of a path, however these are set apart. -/
theorem derivedName_eq (path : String) (method : Method) :
    derivedName path method =
      String.ofList (lowercaseText method.text.toList) ++ pascalCase path := by
  rw [derivedName, camelCase, String.toList_ofList, words_append_segmentText, words_key,
    List.singleton_append, camelWords, lowercaseText_key, String.ofList_append, pascalCase]

/-- An operation is named by its `operationId` if there is anything in it to make a name of. -/
theorem nameOf_of_hasAlphanumeric {id : String} (h : Naming.HasAlphanumeric id) (path : String)
    (method : Method) : nameOf path method (some id) = camelCase id := by
  have hne := Naming.camelCase_ne_empty_iff.mpr h
  unfold nameOf
  split
  · next hnone => exact absurd hnone (Option.some_ne_none _)
  · next hempty => exact absurd (Option.some.inj hempty) hne
  · next name _ hname => exact (Option.some.inj hname).symm

theorem nameOf_of_not_hasAlphanumeric {id : Option String}
    (h : ∀ text, id = some text → ¬ Naming.HasAlphanumeric text) (path : String) (method : Method) :
    nameOf path method id = derivedName path method := by
  cases id with
  | none => rfl
  | some text =>
    have hempty : camelCase text = "" :=
      not_not.mp (Naming.camelCase_ne_empty_iff.not.mpr (h text rfl))
    rw [nameOf, Option.map_some, hempty]
    rfl

theorem derivedName_ne_empty (path : String) (method : Method) : derivedName path method ≠ "" := by
  rw [derivedName_eq]
  intro hempty
  have hnil := congrArg String.toList hempty
  rw [String.toList_append, String.toList_ofList, String.toList_empty, List.append_eq_nil_iff,
    Text.lowercaseText_eq_nil_iff] at hnil
  cases method <;> exact absurd hnil.1 (by decide)

theorem nameOf_ne_empty (path : String) (method : Method) (id : Option String) :
    nameOf path method id ≠ "" := by
  by_cases h : ∃ text, id = some text ∧ Naming.HasAlphanumeric text
  · obtain ⟨text, rfl, hletter⟩ := h
    rw [nameOf_of_hasAlphanumeric hletter]
    exact Naming.camelCase_ne_empty_iff.mpr hletter
  · rw [nameOf_of_not_hasAlphanumeric fun text htext hletter ↦ h ⟨text, htext, hletter⟩]
    exact derivedName_ne_empty path method

end Operation

/-! ### Names in an outline -/

theorem freeName_eq_or_numbered (taken : List String) (name : String) :
    freeName taken name = name ∨ ∃ number, freeName taken name = numbered name number := by
  unfold freeName
  split_ifs
  · cases hfind : ((List.range' 2 taken.length).map (numbered name)).find? (· ∉ taken) with
    | none => exact .inl rfl
    | some found =>
      obtain ⟨number, -, rfl⟩ := List.mem_map.mp (List.mem_of_find?_eq_some hfind)
      exact .inr ⟨number, rfl⟩
  · exact .inl rfl

theorem freeName_ne_empty {name : String} (h : name ≠ "") (taken : List String) :
    freeName taken name ≠ "" := by
  rcases freeName_eq_or_numbered taken name with hname | ⟨number, hname⟩
  · rwa [hname]
  · rw [hname, numbered]
    intro hempty
    have hnil := congrArg String.toList hempty
    rw [String.toList_append, String.toList_empty, List.append_eq_nil_iff] at hnil
    exact h (String.toList_eq_nil_iff.mp hnil.1)

theorem functionName_ne_empty_of_mem_renamed {operations : List Operation}
    (h : ∀ operation ∈ operations, operation.functionName ≠ "") :
    ∀ operation ∈ renamed operations, operation.functionName ≠ "" := by
  induction operations using List.reverseRecOn with
  | nil => exact fun _ hmem ↦ absurd hmem List.not_mem_nil
  | append_singleton operations last ih =>
    obtain ⟨hbefore, hlast⟩ := List.forall_mem_append.mp h
    rw [renamed_concat, appendFree, List.forall_mem_append]
    refine ⟨ih hbefore, fun operation hoperation ↦ ?_⟩
    obtain rfl := List.mem_singleton.mp hoperation
    exact freeName_ne_empty (hlast last (List.mem_singleton_self last)) _

theorem functionName_ne_empty_of_mem_ofDocument {document : OpenApi.Document}
    {interface : Interface} (hinterface : interface ∈ Interface.ofDocument document) :
    ∀ operation ∈ interface.operations, operation.functionName ≠ "" := by
  obtain ⟨-, -, hoperations⟩ := Interface.eq_of_mem_ofDocument hinterface
  rw [hoperations]
  refine functionName_ne_empty_of_mem_renamed fun operation hoperation ↦ ?_
  obtain ⟨declared, -, rfl⟩ := List.mem_map.mp hoperation
  exact Operation.nameOf_ne_empty _ _ _

/-- An `operationId` with a letter or a number in it names its operation, in camel case, and any
other operation is named by its method in small letters and its path in Pascal case. So there are no
operations without a name in an outline. -/
theorem Outline.functionName_canonical :
    (∀ (path : String) (method : Method) (operation : OpenApi.Operation),
      (∀ id, operation.operationId = some id → Naming.HasAlphanumeric id →
        Operation.nameOf path method operation.operationId = Naming.camelCase id ∧
          Naming.camelCase id ≠ "") ∧
      ((∀ id, operation.operationId = some id → ¬ Naming.HasAlphanumeric id) →
        Operation.nameOf path method operation.operationId =
          String.ofList (lowercaseText method.text.toList) ++ Naming.pascalCase path)) ∧
    ∀ document : OpenApi.Document, ∀ interface ∈ (ofDocument document).interfaces,
      ∀ operation ∈ interface.operations, operation.functionName ≠ "" := by
  refine ⟨fun path method operation ↦ ⟨fun id hid hletter ↦ ?_, fun hnone ↦ ?_⟩,
    fun document interface hinterface ↦ functionName_ne_empty_of_mem_ofDocument hinterface⟩
  · rw [hid]
    exact ⟨Operation.nameOf_of_hasAlphanumeric hletter path method,
      Naming.camelCase_ne_empty_iff.mpr hletter⟩
  · rw [Operation.nameOf_of_not_hasAlphanumeric hnone, Operation.derivedName_eq]

/-- A path with an empty segment and one in braces, and an `operationId` of separators alone. -/
theorem Outline.functionName_canonical_users :
    let path := "/api//users/{userId}"
    let unnamed := { OpenApi.Operation.blank with operationId := some "--" }
    let named := { OpenApi.Operation.blank with operationId := some "get_user_info" }
    let item := { OpenApi.PathItem.blank with get := some unnamed, post := some named }
    let document : OpenApi.Document := ⟨"3.0.0", ⟨"Users", "1"⟩, [], .ofList [(path, item)], none⟩
    ¬ Naming.HasAlphanumeric "--" ∧ Naming.HasAlphanumeric "get_user_info" ∧
      Operation.nameOf path .get unnamed.operationId = "getApiUsersUserId" ∧
      Operation.nameOf path .post named.operationId = "getUserInfo" ∧
      ∀ interface ∈ (ofDocument document).interfaces,
        ∀ operation ∈ interface.operations, operation.functionName ≠ "" := by
  intro path unnamed named item document
  obtain ⟨hname, hoperations⟩ := functionName_canonical
  have hunnamed : ¬ Naming.HasAlphanumeric "--" := by
    rintro ⟨c, hc, halphanumeric⟩
    obtain rfl : c = '-' := by simpa using hc
    exact absurd halphanumeric (by decide)
  have hnamed : Naming.HasAlphanumeric "get_user_info" := ⟨'g', by simp, by decide⟩
  refine ⟨hunnamed, hnamed, ?_, ?_, hoperations document⟩
  · rw [(hname path .get unnamed).2 fun id hid ↦ Option.some.inj hid ▸ hunnamed]
    decide +kernel
  · rw [((hname path .post named).1 _ rfl hnamed).1]
    decide +kernel

end ApiOutline
