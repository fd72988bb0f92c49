import ApiOutline.CommandLine.Run
import ApiOutline.Proofs.CommandLine.Files
import ApiOutline.Proofs.Loading.Checks

/-!
A run does all or nothing. Nothing is printed or written before the outline has been made, and then
one thing is, so a run that fails has changed no file and printed nothing, and one that does not has
delivered the outline to one place. Whatever fails gives a fault to report, a text that is no
document too (`ne_nil_of_extract_eq_failure`).

This holds for every file system in which a write goes to one place (`FileSystem.WritesInPlace`),
whatever can be read, written and printed. What is printed and reported is told by the surroundings
of the run alone: by the output after it and by the lines of the faults.
-/

set_option autoImplicit false
set_option relaxedAutoImplicit false

namespace ApiOutline.CommandLine

variable {σ Place : Type}

/-! ### What a run should do -/

section Outcomes

variable (files : FileSystem σ) (input : Except FileFault ByteArray)
  (printing : String → Except FileFault Unit) (before : σ)

/-- What the source of a document holds: the input if its name is a dash, else the file. -/
def sourceContent (path : String) : Except FileFault ByteArray :=
  if path = "-" then input else files.read before path

/-- An outline is that of the document of a run: the document can be read, as a text, and is one. -/
def Arguments.Makes (arguments : Arguments) (outline : Outline) : Prop :=
  ∃ bytes text, sourceContent files input before arguments.input = .ok bytes ∧
    String.fromUTF8? bytes = some text ∧ extract text = .success outline

/-- What a run has to deliver. -/
def Arguments.delivery (arguments : Arguments) (outline : Outline) : String :=
  outline.render arguments.compact ++ "\n"

/-- A text can be printed, or written to the file of a path. -/
def Deliverable (text : String) : Option String → Prop
  | none => printing text = .ok ()
  | some path => ∃ after, files.write before path text.toUTF8 = .ok after

/-- Reading, making the outline and writing it all succeed. -/
def Arguments.Succeeds (arguments : Arguments) : Prop :=
  ∃ outline, arguments.Makes files input before outline ∧
    Deliverable files printing before (arguments.delivery outline) arguments.output

/-- A run that has failed: nothing is printed, no file is changed, and there are faults, which are
reported as such. -/
structure Fails (before : σ) (report : Report) (after : σ) : Prop where
  exitCode_eq : report.exitCode = 1
  output_eq : report.output = ""
  files_eq : after = before
  errorLines_ne_nil : report.errorLines ≠ []
  mark_prefix : ∀ line ∈ report.errorLines, "error: ".toList <+: line.toList

/-- A run that has delivered a text: it is printed and no file is changed, or it is in the file of a
path, no other file is changed and nothing is printed. -/
structure Delivers (places : Places σ Place) (before : σ) (output : Option String) (text : String)
    (report : Report) (after : σ) : Prop where
  exitCode_eq : report.exitCode = 0
  errorLines_eq : report.errorLines = []
  printed (h : output = none) : report.output = text ∧ after = before
  written (path : String) (h : output = some path) :
    report.output = "" ∧ places.Receives before after path text.toUTF8

variable {files input before} in
/-- The document of a run has one outline. -/
theorem Arguments.Makes.unique {arguments : Arguments} {outline other : Outline}
    (h : arguments.Makes files input before outline)
    (hother : arguments.Makes files input before other) : outline = other := by
  obtain ⟨bytes, text, hbytes, htext, hextract⟩ := h
  obtain ⟨_, _, hbytesOther, htextOther, hextractOther⟩ := hother
  obtain rfl := Except.ok.inj (hbytes.symm.trans hbytesOther)
  obtain rfl := Option.some.inj (htext.symm.trans htextOther)
  exact Extraction.success.inj (hextract.symm.trans hextractOther)

end Outcomes

/-! ### The steps of a run -/

variable (files : FileSystem σ) (input : Except FileFault ByteArray)
  (printing : String → Except FileFault Unit) (current : Surroundings σ)

theorem Session.apply_bind {α β : Type} (session : Session σ α) (next : α → Session σ β) :
    (session >>= next).apply current =
      (next (session.apply current).1).apply (session.apply current).2 :=
  rfl

theorem readSource_apply (path : String) :
    ((files.system input printing).readSource path).apply current =
      (sourceContent files input current.files path, current) := by
  rw [System.readSource, sourceContent, inputMark]
  split <;> rfl

/-- A text is delivered: it is added to what is printed, or written to the file of a path. -/
inductive Delivered (text : String) : Option String → Surroundings σ → Prop
  | printed (hprint : printing text = .ok ()) :
      Delivered text none { current with output := current.output ++ text }
  | written {path : String} {after : σ}
      (hwrite : files.write current.files path text.toUTF8 = .ok after) :
      Delivered text (some path) { current with files := after }

/-- A delivery leaves everything as it is, or the text is delivered. -/
theorem deliver_cases (output : Option String) (text : String) :
    let result := ((files.system input printing).deliver output text).apply current
    (¬ Deliverable files printing current.files text output ∧
        ∃ fault, result = (.error fault, current)) ∨
      Deliverable files printing current.files text output ∧
        ∃ final, Delivered files printing current text output final ∧ result = (.ok (), final) := by
  intro result
  cases output with
  | none =>
    cases hprint : printing text with
    | error fault =>
      refine .inl ⟨by simp [Deliverable, hprint], fault, ?_⟩
      simp only [result, System.deliver, FileSystem.system, Session.apply, StateT.run, hprint]
    | ok =>
      refine .inr ⟨hprint, _, .printed hprint, ?_⟩
      simp only [result, System.deliver, FileSystem.system, Session.apply, StateT.run, hprint]
  | some path =>
    cases hwrite : files.write current.files path text.toUTF8 with
    | error fault =>
      have hnot : ¬ Deliverable files printing current.files text (some path) := by
        rintro ⟨after, hafter⟩
        rw [hwrite] at hafter
        cases hafter
      refine .inl ⟨hnot, fault, ?_⟩
      simp only [result, System.deliver, FileSystem.system, Session.apply, StateT.run, hwrite]
    | ok after =>
      refine .inr ⟨⟨after, hwrite⟩, _, .written hwrite, ?_⟩
      simp only [result, System.deliver, FileSystem.system, Session.apply, StateT.run, hwrite]

/-- Faults are reported one after the other, and nothing else changes. -/
theorem forM_report_apply (faults : List RunFault) :
    (faults.forM (files.system input printing).report).apply current =
      ((), { current with faults := current.faults ++ faults }) := by
  induction faults generalizing current with
  | nil =>
    rw [List.append_nil]
    rfl
  | cons fault rest ih =>
    change (rest.forM (files.system input printing).report).apply
      { current with faults := current.faults ++ [fault] } = _
    rw [ih, List.append_assoc, List.singleton_append]

theorem decodeText_ok (source : String) (bytes : ByteArray) :
    decodeText source (.ok bytes) = match String.fromUTF8? bytes with
      | some text => .ok text
      | none => .error (.cannotRead source .notText) :=
  rfl

theorem decodeText_eq_ok_iff {source : String} {content : Except FileFault ByteArray}
    {text : String} : decodeText source content = .ok text ↔
      ∃ bytes, content = .ok bytes ∧ String.fromUTF8? bytes = some text := by
  cases content with
  | error fault =>
    constructor
    · intro h
      cases h
    · rintro ⟨bytes, hbytes, -⟩
      cases hbytes
  | ok bytes =>
    rw [decodeText_ok]
    cases hfound : String.fromUTF8? bytes <;> simp [hfound]

/-! ### Translations -/

/-- A translation reads, then makes the outline, then delivers it, and stops where that fails. -/
theorem Arguments.translate_apply (arguments : Arguments) :
    (arguments.translate (files.system input printing)).apply current =
      match decodeText (sourceName arguments.input)
        (sourceContent files input current.files arguments.input) with
      | .error fault => (.error [fault], current)
      | .ok text =>
        match extract text with
        | .failure faults => (.error (faults.map .badDocument), current)
        | .success outline =>
          let (delivered, final) := ((files.system input printing).deliver arguments.output
            (arguments.delivery outline)).apply current
          (delivered.mapError fun fault ↦ [.cannotWrite (arguments.output.getD "stdout") fault],
            final) := by
  rw [translate, Session.apply_bind, readSource_apply]
  cases decodeText (sourceName arguments.input)
      (sourceContent files input current.files arguments.input) with
  | error fault => rfl
  | ok text =>
    dsimp only
    cases extract text <;> rfl

variable {files input printing current}

theorem Arguments.makes_iff {arguments : Arguments} {outline : Outline} :
    arguments.Makes files input current.files outline ↔
      ∃ text, decodeText (sourceName arguments.input)
        (sourceContent files input current.files arguments.input) = .ok text ∧
          extract text = .success outline := by
  simp only [Makes, decodeText_eq_ok_iff]
  constructor
  · rintro ⟨bytes, text, hbytes, htext, hextract⟩
    exact ⟨text, ⟨bytes, hbytes, htext⟩, hextract⟩
  · rintro ⟨text, ⟨bytes, hbytes, htext⟩, hextract⟩
    exact ⟨bytes, text, hbytes, htext, hextract⟩

variable (files input printing current)

/-- A translation fails with faults and leaves everything as it is, or its outline is delivered. -/
theorem Arguments.translate_cases (arguments : Arguments) :
    let result := (arguments.translate (files.system input printing)).apply current
    (¬ arguments.Succeeds files input printing current.files ∧
        ∃ faults, faults ≠ [] ∧ result = (.error faults, current)) ∨
      arguments.Succeeds files input printing current.files ∧
        ∃ outline final, arguments.Makes files input current.files outline ∧
          Delivered files printing current (arguments.delivery outline) arguments.output final ∧
          result = (.ok (), final) := by
  intro result
  have hresult : result = _ := arguments.translate_apply files input printing current
  cases hdecode : decodeText (sourceName arguments.input)
      (sourceContent files input current.files arguments.input) with
  | error fault =>
    rw [hdecode] at hresult
    refine .inl ⟨?_, [fault], List.cons_ne_nil _ _, hresult⟩
    rintro ⟨outline, houtline, -⟩
    obtain ⟨text, htext, -⟩ := makes_iff.mp houtline
    rw [hdecode] at htext
    cases htext
  | ok text =>
    rw [hdecode] at hresult
    dsimp only at hresult
    cases hextract : extract text with
    | failure faults =>
      rw [hextract] at hresult
      have hfaults : faults.map RunFault.badDocument ≠ [] := by
        rw [ne_eq, List.map_eq_nil_iff]
        exact ne_nil_of_extract_eq_failure hextract
      refine .inl ⟨?_, _, hfaults, hresult⟩
      rintro ⟨outline, houtline, -⟩
      obtain ⟨other, hother, hsuccess⟩ := makes_iff.mp houtline
      obtain rfl : text = other := Except.ok.inj (hdecode.symm.trans hother)
      rw [hextract] at hsuccess
      cases hsuccess
    | success outline =>
      rw [hextract] at hresult
      have houtline : arguments.Makes files input current.files outline :=
        makes_iff.mpr ⟨text, hdecode, hextract⟩
      dsimp only at hresult
      rcases deliver_cases files input printing current arguments.output
        (arguments.delivery outline) with
        ⟨hnot, fault, hdeliver⟩ | ⟨hdeliverable, final, h, hdeliver⟩
      · rw [hdeliver] at hresult
        refine .inl ⟨?_, _, List.cons_ne_nil _ _, hresult⟩
        rintro ⟨other, hother, hdelivered⟩
        obtain rfl := houtline.unique hother
        exact hnot hdelivered
      · rw [hdeliver] at hresult
        exact .inr ⟨⟨outline, houtline, hdeliverable⟩, outline, final, houtline, h, hresult⟩

/-! ### Runs -/

variable {files input printing current}

theorem Arguments.run_of_translate_eq_error {arguments : Arguments} {before : σ}
    {faults : List RunFault}
    (h : (arguments.translate (files.system input printing)).apply ⟨before, "", []⟩ =
      (.error faults, ⟨before, "", []⟩)) :
    (arguments.run (files.system input printing)).run before = (⟨1, "", faults⟩, before) := by
  have hreport : (arguments.run (files.system input printing)).apply ⟨before, "", []⟩ =
      (1, ⟨before, "", faults⟩) := by
    rw [run, Session.apply_bind, h]
    change (faults.forM (files.system input printing).report >>= fun _ ↦ pure 1).apply _ = _
    rw [Session.apply_bind, forM_report_apply]
    rfl
  rw [Session.run, hreport]

theorem Arguments.run_of_translate_eq_ok {arguments : Arguments} {before : σ}
    {final : Surroundings σ}
    (h : (arguments.translate (files.system input printing)).apply ⟨before, "", []⟩ =
      (.ok (), final)) :
    (arguments.run (files.system input printing)).run before =
      (⟨0, final.output, final.faults⟩, final.files) := by
  rw [Session.run, run, Session.apply_bind, h]
  rfl

theorem fails_of_ne_nil {before : σ} {faults : List RunFault} (hfaults : faults ≠ []) :
    Fails before ⟨1, "", faults⟩ before where
  exitCode_eq := rfl
  output_eq := rfl
  files_eq := rfl
  errorLines_ne_nil := by
    rw [Report.errorLines, ne_eq, List.map_eq_nil_iff]
    exact hfaults
  mark_prefix := by
    intro line hline
    obtain ⟨fault, -, rfl⟩ := List.mem_map.mp hline
    exact ⟨fault.message.toList, String.toList_append.symm⟩

/-- What is delivered in a file system in which a write goes to one place is all there is to see. -/
theorem Delivered.delivers {places : Places σ Place} (hwrites : files.WritesInPlace places)
    {before : σ} {text : String} {output : Option String} {final : Surroundings σ}
    (h : Delivered files printing ⟨before, "", []⟩ text output final) :
    Delivers places before output text ⟨0, final.output, final.faults⟩ final.files := by
  cases h with
  | printed hprint => exact ⟨rfl, rfl, fun _ ↦ ⟨String.empty_append, rfl⟩, nofun⟩
  | written hwrite =>
    refine ⟨rfl, rfl, nofun, ?_⟩
    rintro _ ⟨⟩
    exact ⟨rfl, hwrites _ _ _ _ hwrite⟩

variable (files input printing)

/-- A run delivers the outline of its document, and then reading, making the outline and writing it
have all succeeded; or it fails, and then one of them has not. -/
theorem Arguments.run_all_or_nothing {places : Places σ Place}
    (hwrites : files.WritesInPlace places) (before : σ) (arguments : Arguments) :
    let result := ((Request.outline arguments).run (files.system input printing)).run before
    let report := result.1
    let after := result.2
    (report.exitCode = 0 ∨ report.exitCode = 1) ∧
      (report.exitCode = 1 → Fails before report after) ∧
      (report.exitCode = 0 → ∃ outline, arguments.Makes files input before outline ∧
        Delivers places before arguments.output (arguments.delivery outline) report after) ∧
      (report.exitCode = 0 ↔ arguments.Succeeds files input printing before) := by
  intro result report after
  rcases arguments.translate_cases files input printing ⟨before, "", []⟩ with
    ⟨hnot, faults, hfaults, h⟩ | ⟨hsucceeds, outline, final, houtline, hdelivered, h⟩
  · have hresult : result = (⟨1, "", faults⟩, before) := run_of_translate_eq_error h
    have hfails : Fails before report after := by
      simp only [report, after, hresult]
      exact fails_of_ne_nil hfaults
    have hcode : report.exitCode ≠ 0 := by simp [hfails.exitCode_eq]
    exact ⟨.inr hfails.exitCode_eq, fun _ ↦ hfails, fun h ↦ absurd h hcode,
      iff_of_false hcode hnot⟩
  · have hresult : result = (⟨0, final.output, final.faults⟩, final.files) :=
      run_of_translate_eq_ok h
    have hdelivers : Delivers places before arguments.output (arguments.delivery outline) report
        after := by
      simp only [report, after, hresult]
      exact hdelivered.delivers hwrites
    have hcode : report.exitCode ≠ 1 := by simp [hdelivers.exitCode_eq]
    exact ⟨.inl hdelivers.exitCode_eq, fun h ↦ absurd h hcode,
      fun _ ↦ ⟨outline, houtline, hdelivers⟩, iff_of_true hdelivers.exitCode_eq hsucceeds⟩

/-- A document by its path from the root, whose outline is printed, put in its place, and put into a
directory that is empty and not below the working directory; and without room for the outline. -/
theorem Arguments.run_all_or_nothing_ping :
    let info := "\x7b\"title\":\"Ping\",\"version\":\"1\"\x7d"
    let document :=
      "\x7b\"openapi\":\"3.0\",\"info\":" ++ info ++ ",\"paths\":\x7b\x7d\x7d"
    let layout : Directory.Layout := ⟨["work"], [["out"]]⟩
    let before : Directory :=
      ⟨[(["work", "api.json"], document.toUTF8), (["work", "notes"], "ping".toUTF8)]⟩
    let files := Directory.fileSystem layout
    let full : FileSystem Directory :=
      { files with
        write := fun _ _ _ ↦ .error (.other "No space left on device (os error 28)") }
    let arguments (output : Option String) : Arguments := ⟨"/work/api.json", output, true, false⟩
    let result (files : FileSystem Directory) (output : Option String) :=
      ((Request.outline (arguments output)).run (files.system (.ok .empty) fun _ ↦ .ok ())).run
        before
    (∀ output ∈ [none, some "api.json", some "../out/outline.json"],
      (result files output).1.exitCode = 0 ∧
        ∃ outline, (arguments output).Makes files (.ok .empty) before outline ∧
          Delivers (Directory.places layout) before output ((arguments output).delivery outline)
            (result files output).1 (result files output).2) ∧
      (result full (some "api.json")).1.exitCode = 1 ∧
      Fails before (result full (some "api.json")).1 (result full (some "api.json")).2 ∧
      (result full (some "api.json")).1.errorLines =
        ["error: Failed to write api.json: No space left on device (os error 28)"] := by
  intro info document layout before files full arguments result
  have hfiles : files.WritesInPlace (Directory.places layout) :=
    Directory.fileSystem_writesInPlace layout
  have hfull : full.WritesInPlace (Directory.places layout) := nofun
  have hzero : ∀ output ∈ [none, some "api.json", some "../out/outline.json"],
      (result files output).1.exitCode = 0 := by
    decide +kernel
  have hone : (result full (some "api.json")).1.exitCode = 1 ∧
      (result full (some "api.json")).1.errorLines =
        ["error: Failed to write api.json: No space left on device (os error 28)"] := by
    decide +kernel
  obtain ⟨-, hfails, -, -⟩ := run_all_or_nothing full (.ok .empty) (fun _ ↦ .ok ()) hfull before
    (arguments (some "api.json"))
  refine ⟨fun output houtput ↦ ⟨hzero output houtput, ?_⟩, hone.1, hfails hone.1, hone.2⟩
  obtain ⟨-, -, hdelivers, -⟩ := run_all_or_nothing files (.ok .empty) (fun _ ↦ .ok ()) hfiles
    before (arguments output)
  exact hdelivers (hzero output houtput)

end ApiOutline.CommandLine
