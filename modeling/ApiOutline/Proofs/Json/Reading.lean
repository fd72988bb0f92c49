import ApiOutline.Proofs.Entries
import ApiOutline.Proofs.Json.Spacing

/-!
Reading what is printed. A run over the text of a value, whatever blanks it is spaced with, comes to
the stage after that value, if no more containers are open at a time than the limit says
(`Regular.readsAs`), and is stopped for that reason if there are more (`Regular.stopsFor`). So a
text within the limit gives the value it was printed from, and as the limit may be any, no two
values have one text (`Regular.eq_of_spacedText_eq`).

A run takes a string whole, as each escape is undone by one step (`readString_escapedChar`). Over a
container it goes item by item, and the induction is on the items after the first
(`run_furtherItems`).
-/

set_option autoImplicit false
set_option relaxedAutoImplicit false

namespace ApiOutline.Json

variable {limit : ℕ}

/-! ### Strings -/

/-- The escape of a control character that has no short one. -/
theorem readHex_controlCharacter (n : ℕ) (hn : n < 0x20) (rest : List Char) :
    readHex ('0' :: '0' :: hexDigit (n / 16) :: hexDigit n :: rest) = .ok n := by
  have hsize : ∀ n < 0x20, byteSize ['0', '0', hexDigit (n / 16), hexDigit n] = 4 := by decide
  have hvalue : ∀ n < 0x20,
      Text.natural? 16 ['0', '0', hexDigit (n / 16), hexDigit n] = some n := by decide
  have hfour : ('0' :: '0' :: hexDigit (n / 16) :: hexDigit n :: rest).take 4 =
      ['0', '0', hexDigit (n / 16), hexDigit n] := rfl
  simp only [readHex, hfour, hsize n hn, hvalue n hn]
  rfl

theorem readEscape_controlCharacter (c : Char) (hc : c.toNat < 0x20) (rest : List Char) :
    readEscape ('u' :: '0' :: '0' :: hexDigit (c.toNat / 16) :: hexDigit c.toNat :: rest) =
      .ok (c, 5) := by
  have hlow : ¬ 0xDC00 ≤ c.toNat := by omega
  have hplain : c.toNat < 0xD800 := by omega
  simp only [readEscape, readUnicodeEscape, readHex_controlCharacter c.toNat hc, bind, Except.bind,
    hlow, hplain, decide_false, decide_true, Bool.false_and, Bool.true_or, Bool.false_eq_true,
    if_false, if_true, Char.ofNat_toNat]
  rfl

/-- Reading undoes escaping, one character at a time. -/
theorem readString_escapedChar (c : Char) (done : List Char) (n : ℕ) (rest : List Char) :
    readString done n (escapedChar c ++ rest) =
      readString (c :: done) (n + (escapedChar c).length) rest := by
  unfold escapedChar
  split
  case h_8 _ hquote hbackslash _ _ _ _ _ =>
    split
    · next hc =>
      rw [List.cons_append, List.cons_append, List.cons_append, List.cons_append, List.cons_append,
        List.cons_append, List.nil_append, readString, readEscape_controlCharacter c hc]
      rfl
    · next hc =>
      rw [List.singleton_append, readString, if_neg hc, List.length_singleton]
      · exact fun h ↦ hquote h
      · exact fun h ↦ hbackslash h
  all_goals
    rw [List.cons_append, List.cons_append, List.nil_append, readString, readEscape]
    · rfl
    · decide

theorem readString_escaped (cs done : List Char) (n : ℕ) (rest : List Char) :
    readString done n (cs.flatMap escapedChar ++ '"' :: rest) =
      .ok (String.ofList (done.reverse ++ cs), n + (cs.flatMap escapedChar).length + 1) := by
  induction cs generalizing done n with
  | nil => rw [List.flatMap_nil, List.nil_append, readString, List.append_nil, List.length_nil]
  | cons c cs ih =>
    rw [List.flatMap_cons, List.append_assoc, readString_escapedChar, ih, List.reverse_cons,
      List.append_assoc, List.singleton_append, List.length_append, Nat.add_assoc n]

/-- The text of a string after its first quote. -/
theorem readString_text (s : String) (rest : List Char) :
    readString [] 0 (s.toList.flatMap escapedChar ++ '"' :: rest) =
      .ok (s, (s.toList.flatMap escapedChar).length + 1) := by
  rw [readString_escaped, List.reverse_nil, List.nil_append, String.ofList_toList, Nat.zero_add]

/-! ### Runs -/

variable {stage next : Stage} {stack : List Frame} {rest : List Char}

theorem run_of_step {c : Char} {n : ℕ} (hblank : isBlank c = false)
    (hstep : stage.step limit c rest = .ok (next, n)) :
    stage.run limit (c :: rest) = next.run limit (rest.drop n) := by
  rw [Stage.run, hblank, hstep]
  rfl

/-- A mark that is taken alone. -/
theorem run_mark {c : Char} (hblank : isBlank c = false)
    (hstep : stage.step limit c rest = .ok (next, 0)) :
    stage.run limit (c :: rest) = next.run limit rest :=
  run_of_step hblank hstep

theorem run_blanks {blanks : List Char} (hblanks : ∀ c ∈ blanks, isBlank c = true) :
    stage.run limit (blanks ++ rest) = stage.run limit rest := by
  induction blanks with
  | nil => rfl
  | cons c blanks ih =>
    obtain ⟨hc, hrest⟩ := List.forall_mem_cons.mp hblanks
    rw [List.cons_append, Stage.run, if_pos hc, ih hrest]

theorem run_congr {other : Stage} {c : Char} (hblank : isBlank c = false)
    (hstep : stage.step limit c rest = other.step limit c rest) :
    stage.run limit (c :: rest) = other.run limit (c :: rest) := by
  rw [Stage.run, Stage.run, hblank, hstep]
  rfl

/-- A text that a value may start with: it begins with neither a blank nor the end of an array. -/
def StartsValue (text : List Char) : Prop :=
  ∃ c rest, text = c :: rest ∧ isBlank c = false ∧ c ≠ ']'

theorem StartsValue.append {text : List Char} (h : StartsValue text) (more : List Char) :
    StartsValue (text ++ more) := by
  obtain ⟨c, rest, rfl, hblank, hc⟩ := h
  exact ⟨c, rest ++ more, rfl, hblank, hc⟩

theorem StartsValue.run_firstItem {text : List Char} (h : StartsValue text) (stack : List Frame) :
    (Stage.firstItem stack).run limit text = (Stage.value (.items [] :: stack)).run limit text := by
  obtain ⟨c, rest, rfl, hblank, hc⟩ := h
  exact run_congr hblank (if_neg hc)

theorem StartsValue.run_nextItem {text : List Char} (h : StartsValue text) (done : List Json)
    (stack : List Frame) : (Stage.nextItem done stack).run limit text =
      (Stage.value (.items done :: stack)).run limit text := by
  obtain ⟨c, rest, rfl, hblank, hc⟩ := h
  exact run_congr hblank (if_neg hc)

theorem startsValue_spacedText {json : Json} (h : json.Regular) (spacing : Spacing) (depth : ℕ) :
    StartsValue (spacedText spacing depth json) := by
  cases h with
  | null => exact ⟨'n', _, rfl, rfl, by decide⟩
  | bool value =>
    cases value
    · exact ⟨'f', _, rfl, rfl, by decide⟩
    · exact ⟨'t', _, rfl, rfl, by decide⟩
  | string value => exact ⟨'"', _, rfl, rfl, by decide⟩
  | @array items =>
    cases items
    · exact ⟨'[', _, rfl, rfl, by decide⟩
    · exact ⟨'[', _, spacedText_array_cons .., rfl, by decide⟩
  | @object members =>
    cases members
    · exact ⟨'\x7b', _, rfl, rfl, by decide⟩
    · exact ⟨'\x7b', _, spacedText_object_cons .., rfl, by decide⟩

/-! ### Parts of a text -/

theorem run_stringText (s : String) (stack : List Frame) (rest : List Char) :
    (Stage.value stack).run limit (stringText s ++ rest) =
      (Stage.afterValue (.string s) stack).run limit rest := by
  have htext : stringText s ++ rest = '"' :: (s.toList.flatMap escapedChar ++ '"' :: rest) := by
    rw [stringText, List.append_assoc, List.cons_append, List.singleton_append]
  have hstep : (Stage.value stack).step limit '"' (s.toList.flatMap escapedChar ++ '"' :: rest) =
      .ok (.afterValue (.string s) stack, (s.toList.flatMap escapedChar).length + 1) := by
    simp only [Stage.step, startValue, readString_text, bind, Except.bind]
    rfl
  rw [htext, run_of_step rfl hstep, List.drop_length_add_append]
  rfl

theorem run_null (stack : List Frame) (rest : List Char) :
    (Stage.value stack).run limit ("null".toList ++ rest) =
      (Stage.afterValue .null stack).run limit rest := by
  have hstep : (Stage.value stack).step limit 'n' ('u' :: 'l' :: 'l' :: rest) =
      .ok (.afterValue .null stack, 3) := rfl
  exact run_of_step rfl hstep

theorem run_boolText (value : Bool) (stack : List Frame) (rest : List Char) :
    (Stage.value stack).run limit (boolText value ++ rest) =
      (Stage.afterValue (.bool value) stack).run limit rest := by
  cases value with
  | false =>
    have hstep : (Stage.value stack).step limit 'f' ('a' :: 'l' :: 's' :: 'e' :: rest) =
        .ok (.afterValue (.bool false) stack, 4) := rfl
    exact run_of_step rfl hstep
  | true =>
    have hstep : (Stage.value stack).step limit 't' ('r' :: 'u' :: 'e' :: rest) =
        .ok (.afterValue (.bool true) stack, 3) := rfl
    exact run_of_step rfl hstep

variable {spacing : Spacing} {depth : ℕ}

/-- A key is taken from any stage that waits for one, up to the value of its member. -/
theorem run_keyText {key : String} {done : List (String × Json)}
    (hstage : ∀ rest, stage.step limit '"' rest = startKey done stack '"' rest) (text : List Char) :
    stage.run limit (keyText spacing depth key ++ text) =
      (Stage.value (.members done key :: stack)).run limit text := by
  let body := key.toList.flatMap escapedChar
  have htext : keyText spacing depth key ++ text = spacing.gap depth ++
      '"' :: (body ++ '"' :: (':' :: (spacing.afterColon ++ text))) := by
    simp only [keyText, stringText, List.append_assoc, List.cons_append, List.nil_append, body]
  have hstep : stage.step limit '"' (body ++ '"' :: (':' :: (spacing.afterColon ++ text))) =
      .ok (.colon done key stack, body.length + 1) := by
    rw [hstage, startKey, if_pos rfl, readString_text]
    rfl
  have hcolon : (Stage.colon done key stack).step limit ':' (spacing.afterColon ++ text) =
      .ok (.value (.members done key :: stack), 0) := rfl
  rw [htext, run_blanks (spacing.isBlank_gap depth), run_of_step rfl hstep,
    List.drop_length_add_append, List.drop_succ_cons, List.drop_zero, run_mark rfl hcolon,
    run_blanks spacing.isBlank_afterColon]

/-! A container is opened where there is room for it. -/

theorem step_openArray (hroom : stack.length < limit) (rest : List Char) :
    (Stage.value stack).step limit '[' rest = .ok (.firstItem stack, 0) :=
  if_pos hroom

theorem step_openObject (hroom : stack.length < limit) (rest : List Char) :
    (Stage.value stack).step limit '\x7b' rest = .ok (.firstKey stack, 0) :=
  if_pos hroom

/-- From the start of an array to its first item. -/
theorem run_openArray {item : Json} (hitem : item.Regular) (hroom : stack.length < limit)
    (items : List Json) (rest : List Char) :
    (Stage.value stack).run limit (spacedText spacing depth (.array (item :: items)) ++ rest) =
      (Stage.value (.items [] :: stack)).run limit (spacedText spacing (depth + 1) item ++
        (furtherItems spacing (depth + 1) items ++ (spacing.gap depth ++ ']' :: rest))) := by
  let text := furtherItems spacing (depth + 1) items ++ (spacing.gap depth ++ ']' :: rest)
  have htext : spacedText spacing depth (.array (item :: items)) ++ rest =
      '[' :: (spacing.gap (depth + 1) ++ (spacedText spacing (depth + 1) item ++ text)) := by
    rw [spacedText_array_cons]
    simp only [List.cons_append, List.append_assoc, List.nil_append, text]
  have hstart := (startsValue_spacedText hitem spacing (depth + 1)).append text
  rw [htext, run_mark rfl (step_openArray hroom _), run_blanks (spacing.isBlank_gap (depth + 1)),
    hstart.run_firstItem]

/-- From the start of an object to the value of its first member. -/
theorem run_openObject (hroom : stack.length < limit) (key : String) (value : Json)
    (members : List (String × Json)) (rest : List Char) :
    (Stage.value stack).run limit
        (spacedText spacing depth (.object ((key, value) :: members)) ++ rest) =
      (Stage.value (.members [] key :: stack)).run limit (spacedText spacing (depth + 1) value ++
        (furtherMembers spacing (depth + 1) members ++ (spacing.gap depth ++ '\x7d' :: rest))) := by
  let text := furtherMembers spacing (depth + 1) members ++ (spacing.gap depth ++ '\x7d' :: rest)
  have htext : spacedText spacing depth (.object ((key, value) :: members)) ++ rest =
      '\x7b' :: (keyText spacing (depth + 1) key ++
        (spacedText spacing (depth + 1) value ++ text)) := by
    rw [spacedText_object_cons]
    simp only [List.cons_append, List.append_assoc, List.nil_append, text]
  rw [htext, run_mark rfl (step_openObject hroom _)]
  exact run_keyText (fun _ ↦ rfl) _

/-- From one item of an array to the next. -/
theorem run_furtherItem {item : Json} (hitem : item.Regular) (items done : List Json)
    (text : List Char) :
    (Stage.afterItem done stack).run limit (furtherItems spacing depth (item :: items) ++ text) =
      (Stage.value (.items done :: stack)).run limit
        (spacedText spacing depth item ++ (furtherItems spacing depth items ++ text)) := by
  have htext : furtherItems spacing depth (item :: items) ++ text = ',' :: (spacing.gap depth ++
      (spacedText spacing depth item ++ (furtherItems spacing depth items ++ text))) := by
    rw [furtherItems_cons]
    simp only [List.cons_append, List.append_assoc]
  have hcomma : (Stage.afterItem done stack).step limit ',' (spacing.gap depth ++
      (spacedText spacing depth item ++ (furtherItems spacing depth items ++ text))) =
        .ok (.nextItem done stack, 0) := rfl
  have hstart := (startsValue_spacedText hitem spacing depth).append
    (furtherItems spacing depth items ++ text)
  rw [htext, run_mark rfl hcomma, run_blanks (spacing.isBlank_gap depth), hstart.run_nextItem]

/-- From one member of an object to the value of the next. -/
theorem run_furtherMember (key : String) (value : Json) (members done : List (String × Json))
    (text : List Char) :
    (Stage.afterMember done stack).run limit
        (furtherMembers spacing depth ((key, value) :: members) ++ text) =
      (Stage.value (.members done key :: stack)).run limit
        (spacedText spacing depth value ++ (furtherMembers spacing depth members ++ text)) := by
  have htext : furtherMembers spacing depth ((key, value) :: members) ++ text =
      ',' :: (keyText spacing depth key ++
        (spacedText spacing depth value ++ (furtherMembers spacing depth members ++ text))) := by
    rw [furtherMembers_cons]
    simp only [List.cons_append, List.append_assoc]
  have hcomma : (Stage.afterMember done stack).step limit ',' (keyText spacing depth key ++
      (spacedText spacing depth value ++ (furtherMembers spacing depth members ++ text))) =
        .ok (.nextKey done stack, 0) := rfl
  rw [htext, run_mark rfl hcomma]
  exact run_keyText (fun _ ↦ rfl) _

/-! ### Values within the limit -/

/-- A run that finds a text where a value may stand takes it for this value, if the containers of
the value can still be opened. -/
def ReadsAs (limit : ℕ) (json : Json) (text : List Char) : Prop :=
  ∀ (stack : List Frame) (rest : List Char), stack.length + json.nesting ≤ limit →
    (Stage.value stack).run limit (text ++ rest) = (Stage.afterValue json stack).run limit rest

/-- The items of an array after the first, and its end. -/
theorem run_furtherItems {outer : ℕ} {items : List Json} (hregular : ∀ item ∈ items, item.Regular)
    (hread : ∀ item ∈ items, ReadsAs limit item (spacedText spacing depth item))
    (hroom : ∀ item ∈ items, stack.length + 1 + item.nesting ≤ limit) (done : List Json)
    (rest : List Char) :
    (Stage.afterItem done stack).run limit
        (furtherItems spacing depth items ++ (spacing.gap outer ++ ']' :: rest)) =
      (Stage.afterValue (.array (done.reverse ++ items)) stack).run limit rest := by
  induction items generalizing done with
  | nil =>
    have hend : (Stage.afterItem done stack).step limit ']' rest =
        .ok (.afterValue (.array done.reverse) stack, 0) := rfl
    rw [furtherItems, List.nil_append, run_blanks (spacing.isBlank_gap outer), run_mark rfl hend,
      List.append_nil]
  | cons item items ih =>
    obtain ⟨hitem, hitems⟩ := List.forall_mem_cons.mp hregular
    obtain ⟨hreadItem, hreadItems⟩ := List.forall_mem_cons.mp hread
    obtain ⟨hroomItem, hroomItems⟩ := List.forall_mem_cons.mp hroom
    rw [run_furtherItem hitem, hreadItem (.items done :: stack) _ hroomItem, Stage.afterValue,
      ih hitems hreadItems hroomItems, List.reverse_cons, List.append_assoc, List.singleton_append]

/-- The members of an object after the first, and its end. -/
theorem run_furtherMembers {outer : ℕ} {members : List (String × Json)}
    (hread : ∀ entry ∈ members, ReadsAs limit entry.2 (spacedText spacing depth entry.2))
    (hroom : ∀ entry ∈ members, stack.length + 1 + entry.2.nesting ≤ limit)
    {done : List (String × Json)} (hkeys : ((done ++ members).map Prod.fst).Nodup)
    (rest : List Char) :
    (Stage.afterMember done stack).run limit
        (furtherMembers spacing depth members ++ (spacing.gap outer ++ '\x7d' :: rest)) =
      (Stage.afterValue (.object (done ++ members)) stack).run limit rest := by
  induction members generalizing done with
  | nil =>
    have hend : (Stage.afterMember done stack).step limit '\x7d' rest =
        .ok (.afterValue (.object done) stack, 0) := rfl
    rw [furtherMembers_nil, List.nil_append, run_blanks (spacing.isBlank_gap outer),
      run_mark rfl hend, List.append_nil]
  | cons entry members ih =>
    obtain ⟨key, value⟩ := entry
    obtain ⟨hreadMember, hreadMembers⟩ := List.forall_mem_cons.mp hread
    obtain ⟨hroomMember, hroomMembers⟩ := List.forall_mem_cons.mp hroom
    have hput : Entries.put done key value = done ++ [(key, value)] := by
      refine Entries.put_of_not_mem value fun hkey ↦ ?_
      rw [List.map_append] at hkeys
      exact List.disjoint_of_nodup_append hkeys hkey List.mem_cons_self
    have hkeysPut : (((done ++ [(key, value)]) ++ members).map Prod.fst).Nodup := by
      rwa [List.append_assoc, List.singleton_append]
    rw [run_furtherMember, hreadMember (.members done key :: stack) _ hroomMember,
      Stage.afterValue, hput, ih hreadMembers hroomMembers hkeysPut, List.append_assoc,
      List.singleton_append]

theorem readsAs_array {items : List Json} (hregular : ∀ item ∈ items, item.Regular)
    (hread : ∀ item ∈ items, ReadsAs limit item (spacedText spacing (depth + 1) item)) :
    ReadsAs limit (.array items) (spacedText spacing depth (.array items)) := by
  intro stack rest hnesting
  rw [nesting] at hnesting
  have hopen : stack.length < limit := by omega
  have hroom : ∀ item ∈ items, stack.length + 1 + item.nesting ≤ limit := by
    intro item hitem
    have hless := nesting_le_nestingItems hitem
    omega
  cases items with
  | nil =>
    have hend : (Stage.firstItem stack).step limit ']' rest =
        .ok (.afterValue (.array []) stack, 0) := rfl
    rw [spacedText_array_nil, List.cons_append, List.cons_append, List.nil_append,
      run_mark rfl (step_openArray hopen _), run_mark rfl hend]
  | cons item items =>
    obtain ⟨hitem, hitems⟩ := List.forall_mem_cons.mp hregular
    obtain ⟨hreadItem, hreadItems⟩ := List.forall_mem_cons.mp hread
    obtain ⟨hroomItem, hroomItems⟩ := List.forall_mem_cons.mp hroom
    rw [run_openArray hitem hopen, hreadItem (.items [] :: stack) _ hroomItem, Stage.afterValue,
      run_furtherItems hitems hreadItems hroomItems]
    rfl

theorem readsAs_object {members : List (String × Json)} (hkeys : (members.map Prod.fst).Nodup)
    (hread : ∀ entry ∈ members, ReadsAs limit entry.2 (spacedText spacing (depth + 1) entry.2)) :
    ReadsAs limit (.object members) (spacedText spacing depth (.object members)) := by
  intro stack rest hnesting
  rw [nesting] at hnesting
  have hopen : stack.length < limit := by omega
  have hroom : ∀ entry ∈ members, stack.length + 1 + entry.2.nesting ≤ limit := by
    intro entry hentry
    have hless := nesting_le_nestingMembers hentry
    omega
  cases members with
  | nil =>
    have hend : (Stage.firstKey stack).step limit '\x7d' rest =
        .ok (.afterValue (.object []) stack, 0) := rfl
    rw [spacedText_object_nil, List.cons_append, List.cons_append, List.nil_append,
      run_mark rfl (step_openObject hopen _), run_mark rfl hend]
  | cons entry members =>
    obtain ⟨key, value⟩ := entry
    obtain ⟨hreadMember, hreadMembers⟩ := List.forall_mem_cons.mp hread
    obtain ⟨hroomMember, hroomMembers⟩ := List.forall_mem_cons.mp hroom
    rw [run_openObject hopen, hreadMember (.members [] key :: stack) _ hroomMember]
    exact run_furtherMembers hreadMembers hroomMembers hkeys rest

theorem Regular.readsAs {json : Json} (h : json.Regular) (limit : ℕ) (spacing : Spacing)
    (depth : ℕ) : ReadsAs limit json (spacedText spacing depth json) := by
  induction h generalizing depth with
  | null => exact fun stack rest _ ↦ run_null stack rest
  | bool value => exact fun stack rest _ ↦ run_boolText value stack rest
  | string value => exact fun stack rest _ ↦ run_stringText value stack rest
  | array hitems ih => exact readsAs_array hitems fun item hitem ↦ ih item hitem (depth + 1)
  | object hkeys hmembers ih =>
    exact readsAs_object hkeys fun entry hentry ↦ ih entry hentry (depth + 1)

/-! ### Values beyond the limit -/

/-- What is read is refused because too many containers would be open. -/
def IsTooDeep (result : Except Fault Json) : Prop :=
  ∃ fault, result = .error fault ∧ fault.reason = .tooDeep

/-- A run that finds a text where a value may stand is stopped, if not all containers of the value
can be opened. -/
def StopsFor (limit : ℕ) (json : Json) (text : List Char) : Prop :=
  ∀ (stack : List Frame) (rest : List Char), stack.length ≤ limit →
    limit < stack.length + json.nesting → IsTooDeep ((Stage.value stack).run limit (text ++ rest))

/-- Where the limit is reached no container is opened. -/
theorem isTooDeep_open {c : Char} (hc : c = '[' ∨ c = '\x7b') (hfull : ¬ stack.length < limit)
    (rest : List Char) : IsTooDeep ((Stage.value stack).run limit (c :: rest)) := by
  have hstep : (Stage.value stack).step limit c rest = .error ⟨.tooDeep, c :: rest, 1⟩ := by
    rcases hc with rfl | rfl <;> exact if_neg hfull
  have hblank : isBlank c = false := by
    rcases hc with rfl | rfl <;> rfl
  refine ⟨⟨.tooDeep, c :: rest, 1⟩, ?_, rfl⟩
  rw [Stage.run, hblank, hstep]
  rfl

theorem isTooDeep_furtherItems {items : List Json} (hregular : ∀ item ∈ items, item.Regular)
    (hread : ∀ item ∈ items, ReadsAs limit item (spacedText spacing depth item))
    (hstop : ∀ item ∈ items, StopsFor limit item (spacedText spacing depth item))
    (hopen : stack.length < limit) (hdeep : ∃ item ∈ items, limit < stack.length + 1 + item.nesting)
    (done : List Json) (text : List Char) :
    IsTooDeep ((Stage.afterItem done stack).run limit
      (furtherItems spacing depth items ++ text)) := by
  induction items generalizing done with
  | nil =>
    obtain ⟨item, hitem, -⟩ := hdeep
    cases hitem
  | cons item items ih =>
    obtain ⟨hitem, hitems⟩ := List.forall_mem_cons.mp hregular
    obtain ⟨hreadItem, hreadItems⟩ := List.forall_mem_cons.mp hread
    obtain ⟨hstopItem, hstopItems⟩ := List.forall_mem_cons.mp hstop
    rw [run_furtherItem hitem]
    by_cases hdeepItem : limit < stack.length + 1 + item.nesting
    · exact hstopItem (.items done :: stack) _ hopen hdeepItem
    · obtain ⟨other, hother, hdeepOther⟩ := hdeep
      rcases List.mem_cons.mp hother with rfl | hother
      · exact absurd hdeepOther hdeepItem
      · rw [hreadItem (.items done :: stack) _ (Nat.le_of_not_lt hdeepItem)]
        exact ih hitems hreadItems hstopItems ⟨other, hother, hdeepOther⟩ (item :: done)

theorem isTooDeep_furtherMembers {members : List (String × Json)}
    (hread : ∀ entry ∈ members, ReadsAs limit entry.2 (spacedText spacing depth entry.2))
    (hstop : ∀ entry ∈ members, StopsFor limit entry.2 (spacedText spacing depth entry.2))
    (hopen : stack.length < limit)
    (hdeep : ∃ entry ∈ members, limit < stack.length + 1 + entry.2.nesting)
    (done : List (String × Json)) (text : List Char) :
    IsTooDeep ((Stage.afterMember done stack).run limit
      (furtherMembers spacing depth members ++ text)) := by
  induction members generalizing done with
  | nil =>
    obtain ⟨entry, hentry, -⟩ := hdeep
    cases hentry
  | cons entry members ih =>
    obtain ⟨key, value⟩ := entry
    obtain ⟨hreadMember, hreadMembers⟩ := List.forall_mem_cons.mp hread
    obtain ⟨hstopMember, hstopMembers⟩ := List.forall_mem_cons.mp hstop
    rw [run_furtherMember]
    by_cases hdeepMember : limit < stack.length + 1 + value.nesting
    · exact hstopMember (.members done key :: stack) _ hopen hdeepMember
    · obtain ⟨other, hother, hdeepOther⟩ := hdeep
      rcases List.mem_cons.mp hother with rfl | hother
      · exact absurd hdeepOther hdeepMember
      · rw [hreadMember (.members done key :: stack) _ (Nat.le_of_not_lt hdeepMember)]
        exact ih hreadMembers hstopMembers ⟨other, hother, hdeepOther⟩ _

theorem stopsFor_array {items : List Json} (hregular : ∀ item ∈ items, item.Regular)
    (hstop : ∀ item ∈ items, StopsFor limit item (spacedText spacing (depth + 1) item)) :
    StopsFor limit (.array items) (spacedText spacing depth (.array items)) := by
  intro stack rest hstack hnesting
  rw [nesting] at hnesting
  by_cases hopen : stack.length < limit
  · obtain ⟨deep, hdeepItem, hless⟩ :=
      exists_lt_nesting_items (show limit - (stack.length + 1) < nestingItems items by omega)
    have hdeep : limit < stack.length + 1 + deep.nesting := by omega
    have hread : ∀ item ∈ items, ReadsAs limit item (spacedText spacing (depth + 1) item) :=
      fun item hitem ↦ (hregular item hitem).readsAs limit spacing (depth + 1)
    cases items with
    | nil => cases hdeepItem
    | cons item items =>
      obtain ⟨hitem, hitems⟩ := List.forall_mem_cons.mp hregular
      obtain ⟨hreadItem, hreadItems⟩ := List.forall_mem_cons.mp hread
      obtain ⟨hstopItem, hstopItems⟩ := List.forall_mem_cons.mp hstop
      rw [run_openArray hitem hopen]
      by_cases hdeepFirst : limit < stack.length + 1 + item.nesting
      · exact hstopItem (.items [] :: stack) _ hopen hdeepFirst
      · rcases List.mem_cons.mp hdeepItem with rfl | hdeepItem
        · exact absurd hdeep hdeepFirst
        · rw [hreadItem (.items [] :: stack) _ (Nat.le_of_not_lt hdeepFirst)]
          exact isTooDeep_furtherItems hitems hreadItems hstopItems hopen
            ⟨deep, hdeepItem, hdeep⟩ [item] _
  · cases items with
    | nil => exact isTooDeep_open (.inl rfl) hopen _
    | cons item items =>
      rw [spacedText_array_cons]
      exact isTooDeep_open (.inl rfl) hopen _

theorem stopsFor_object {members : List (String × Json)}
    (hregular : ∀ entry ∈ members, entry.2.Regular)
    (hstop : ∀ entry ∈ members, StopsFor limit entry.2 (spacedText spacing (depth + 1) entry.2)) :
    StopsFor limit (.object members) (spacedText spacing depth (.object members)) := by
  intro stack rest hstack hnesting
  rw [nesting] at hnesting
  by_cases hopen : stack.length < limit
  · obtain ⟨deep, hdeepEntry, hless⟩ :=
      exists_lt_nesting_members (show limit - (stack.length + 1) < nestingMembers members by omega)
    have hdeep : limit < stack.length + 1 + deep.2.nesting := by omega
    have hread : ∀ entry ∈ members,
        ReadsAs limit entry.2 (spacedText spacing (depth + 1) entry.2) :=
      fun entry hentry ↦ (hregular entry hentry).readsAs limit spacing (depth + 1)
    cases members with
    | nil => cases hdeepEntry
    | cons entry members =>
      obtain ⟨key, value⟩ := entry
      obtain ⟨hreadMember, hreadMembers⟩ := List.forall_mem_cons.mp hread
      obtain ⟨hstopMember, hstopMembers⟩ := List.forall_mem_cons.mp hstop
      rw [run_openObject hopen]
      by_cases hdeepFirst : limit < stack.length + 1 + value.nesting
      · exact hstopMember (.members [] key :: stack) _ hopen hdeepFirst
      · rcases List.mem_cons.mp hdeepEntry with rfl | hdeepEntry
        · exact absurd hdeep hdeepFirst
        · rw [hreadMember (.members [] key :: stack) _ (Nat.le_of_not_lt hdeepFirst)]
          exact isTooDeep_furtherMembers hreadMembers hstopMembers hopen
            ⟨deep, hdeepEntry, hdeep⟩ _ _
  · cases members with
    | nil => exact isTooDeep_open (.inr rfl) hopen _
    | cons entry members =>
      rw [spacedText_object_cons]
      exact isTooDeep_open (.inr rfl) hopen _

theorem Regular.stopsFor {json : Json} (h : json.Regular) (limit : ℕ) (spacing : Spacing)
    (depth : ℕ) : StopsFor limit json (spacedText spacing depth json) := by
  induction h generalizing depth with
  | array hitems ih => exact stopsFor_array hitems fun item hitem ↦ ih item hitem (depth + 1)
  | object _ hmembers ih =>
    exact stopsFor_object hmembers fun entry hentry ↦ ih entry hentry (depth + 1)
  | _ =>
    -- Nothing is opened for a value that is no container.
    intro stack rest hstack hnesting
    rw [nesting] at hnesting
    · omega
    all_goals simp

/-! ### Whole texts -/

theorem Regular.run_spacedText {json : Json} (h : json.Regular) (hnesting : json.nesting ≤ limit)
    (spacing : Spacing) : (Stage.value []).run limit (spacedText spacing 0 json) = .ok json := by
  have hread := h.readsAs limit spacing 0 [] [] (by simpa using hnesting)
  rw [List.append_nil] at hread
  rw [hread, Stage.afterValue, Stage.run, Stage.finish]

theorem Regular.isTooDeep_spacedText {json : Json} (h : json.Regular) (hdeep : limit < json.nesting)
    (spacing : Spacing) :
    IsTooDeep ((Stage.value []).run limit (spacedText spacing 0 json)) := by
  have hstop := h.stopsFor limit spacing 0 [] [] (Nat.zero_le limit) (by simpa using hdeep)
  rwa [List.append_nil] at hstop

/-- However deep they nest, two values with one text are the same: read with room for both, the text
gives either. -/
theorem Regular.eq_of_spacedText_eq {json other : Json} (h : json.Regular) (hother : other.Regular)
    {spacing : Spacing} (htext : spacedText spacing 0 json = spacedText spacing 0 other) :
    json = other := by
  have hread := h.run_spacedText (Nat.le_max_left json.nesting other.nesting) spacing
  have hreadOther := hother.run_spacedText (Nat.le_max_right json.nesting other.nesting) spacing
  rw [htext, hreadOther] at hread
  exact (Except.ok.inj hread).symm

theorem Regular.read_compact_eq {json : Json} (h : json.Regular) :
    read json.compact = (Stage.value []).run maxDepth (spacedText .closed 0 json) := by
  rw [read, compact, String.toList_ofList, h.compactText_eq 0]

theorem Regular.read_indented_eq {json : Json} (h : json.Regular) :
    read json.indented = (Stage.value []).run maxDepth (spacedText .lines 0 json) := by
  rw [read, indented, String.toList_ofList, h.indentedText_eq 0]

theorem Regular.eq_of_compact_eq {json other : Json} (h : json.Regular) (hother : other.Regular)
    (htext : json.compact = other.compact) : json = other := by
  have hchars := String.ofList_injective htext
  rw [h.compactText_eq 0, hother.compactText_eq 0] at hchars
  exact h.eq_of_spacedText_eq hother hchars

theorem Regular.eq_of_indented_eq {json other : Json} (h : json.Regular) (hother : other.Regular)
    (htext : json.indented = other.indented) : json = other := by
  have hchars := String.ofList_injective htext
  rw [h.indentedText_eq 0, hother.indentedText_eq 0] at hchars
  exact h.eq_of_spacedText_eq hother hchars

end ApiOutline.Json
