import ApiOutline.CommandLine.Directory
import ApiOutline.Proofs.Entries

/-!
What a write does to files. `FileSystem.WritesInPlace` says what a run relies on of a file system:
a write that succeeds puts its content in the place that the path leads to, and no other place
changes.

A tree of directories is such a file system, whatever the working directory and wherever a path
leads (`Directory.fileSystem_writesInPlace`). The path is found again, as a new file takes no
directory away, and where there are no fewer directories names lead where they led (`locate_mono`).
So what has been written to a path is what is read from it next (`Directory.read_of_write`).
-/

set_option autoImplicit false
set_option relaxedAutoImplicit false

namespace ApiOutline.CommandLine

/-! ### Places -/

/-- Where files are: the content of the file in a place, if there is one, and the places that paths
lead to, also those of files that are not there yet. -/
structure Places (σ Place : Type) where
  content? : σ → Place → Option ByteArray
  LeadsTo : σ → String → Place → Prop

/-- The path leads to a place, before and after, and that is where the content is after. The file in
every other place is as before. -/
def Places.Receives {σ Place : Type} (places : Places σ Place) (before after : σ) (path : String)
    (content : ByteArray) : Prop :=
  ∃ place, places.LeadsTo before path place ∧ places.LeadsTo after path place ∧
    places.content? after place = some content ∧
    ∀ elsewhere ≠ place, places.content? after elsewhere = places.content? before elsewhere

/-- A write replaces the whole content of the file at its path, which it creates if there is none,
and changes no other file. -/
def FileSystem.WritesInPlace {σ Place : Type} (files : FileSystem σ) (places : Places σ Place) :
    Prop :=
  ∀ before path content after, files.write before path content = .ok after →
    places.Receives before after path content

namespace Directory

variable {layout : Layout} {directory other : Directory}

theorem file?_put_self (directory : Directory) (place : Path) (content : ByteArray) :
    (directory.put place content).file? place = some content :=
  List.lookup_cons_self

theorem file?_put_of_ne (directory : Directory) {place wanted : Path} (content : ByteArray)
    (hne : wanted ≠ place) :
    (directory.put place content).file? wanted = directory.file? wanted := by
  rw [file?, put, List.lookup_cons, beq_eq_false_iff_ne.mpr hne,
    Entries.lookup_filter_ne directory.files hne, file?]

/-- A file stands in for the one it replaces, so every directory stays. -/
theorem hasDirectory_put (directory : Directory) (place : Path) (content : ByteArray) {start : Path}
    (h : directory.hasDirectory layout start = true) :
    (directory.put place content).hasDirectory layout start = true := by
  rw [hasDirectory, Bool.or_eq_true, @List.any_eq_true _ _ directory.files] at h
  rw [hasDirectory, Bool.or_eq_true, @List.any_eq_true _ _ (directory.put place content).files]
  refine h.imp_right ?_
  rintro ⟨file, hfile, hbelow⟩
  by_cases hplace : file.1 = place
  · exact ⟨(place, content), List.mem_cons_self, hplace ▸ hbelow⟩
  · refine ⟨file, List.mem_cons_of_mem _ (List.mem_filter.mpr ⟨hfile, ?_⟩), hbelow⟩
    simpa using hplace

/-! ### Where paths lead -/

theorem walk_mono (h : ∀ start, directory.hasDirectory layout start = true →
      other.hasDirectory layout start = true)
    {start found : Path} {names : Path} (hwalk : directory.walk layout start names = .ok found) :
    other.walk layout start names = .ok found := by
  induction names generalizing start with
  | nil => exact hwalk
  | cons name names ih =>
    rw [walk] at hwalk ⊢
    by_cases hstart : directory.hasDirectory layout start = true
    · rw [if_pos hstart] at hwalk
      rw [if_pos (h start hstart)]
      cases henter : enter start name with
      | error fault =>
        rw [henter] at hwalk
        cases hwalk
      | ok next =>
        rw [henter] at hwalk
        exact ih hwalk
    · rw [if_neg hstart] at hwalk
      cases hwalk

theorem locate_mono (h : ∀ start, directory.hasDirectory layout start = true →
      other.hasDirectory layout start = true)
    {path : String} {found : Path × Bool} (hlocate : directory.locate layout path = .ok found) :
    other.locate layout path = .ok found := by
  unfold locate at hlocate ⊢
  by_cases hempty : path.isEmpty = true
  · rw [if_pos hempty] at hlocate
    cases hlocate
  by_cases hsize : path.utf8ByteSize > maxPathSize
  · rw [if_neg hempty, if_pos hsize] at hlocate
    cases hlocate
  rw [if_neg hempty, if_neg hsize] at hlocate ⊢
  dsimp only at hlocate ⊢
  cases hwalk : directory.walk layout (if path.startsWith "/" = true then [] else layout.working)
      (((Text.splitAt '/' path.toList).filter (!·.isEmpty)).map String.ofList) with
  | error fault =>
    rw [hwalk] at hlocate
    cases hlocate
  | ok place =>
    rw [hwalk] at hlocate
    rw [walk_mono h hwalk]
    exact hlocate

/-! ### Writing -/

theorem write_eq_ok {path : String} {content : ByteArray}
    (hwrite : directory.write layout path content = .ok other) :
    ∃ place, directory.locate layout path = .ok (place, false) ∧
      other = directory.put place content := by
  unfold write at hwrite
  cases hlocate : directory.locate layout path with
  | error fault =>
    rw [hlocate] at hwrite
    cases hwrite
  | ok found =>
    obtain ⟨place, slash⟩ := found
    rw [hlocate] at hwrite
    change (if (slash || directory.hasDirectory layout place) = true then _ else _) = _ at hwrite
    split at hwrite
    · cases hwrite
    · next hfree =>
      obtain rfl : slash = false := by simp_all
      exact ⟨place, rfl, (Except.ok.inj hwrite).symm⟩

/-- A written file stays where its path leads. -/
theorem locate_put {path : String} {place : Path}
    (hlocate : directory.locate layout path = .ok (place, false)) (content : ByteArray) :
    (directory.put place content).locate layout path = .ok (place, false) :=
  locate_mono (fun _ hstart ↦ hasDirectory_put directory place content hstart) hlocate

/-- What has been written is what is read. -/
theorem read_of_write {path : String} {content : ByteArray}
    (hwrite : directory.write layout path content = .ok other) :
    other.read layout path = .ok content := by
  obtain ⟨place, hlocate, rfl⟩ := write_eq_ok hwrite
  simp only [read, locate_put hlocate, bind, Except.bind, file?_put_self, Bool.false_eq_true,
    if_false]

/-- The places of a tree of directories, by the names on the way. -/
def places (layout : Layout) : Places Directory Path where
  content? := file?
  LeadsTo directory path place := directory.locate layout path = .ok (place, false)

theorem fileSystem_writesInPlace (layout : Layout) :
    (fileSystem layout).WritesInPlace (places layout) := by
  intro before path content after hwrite
  obtain ⟨place, hlocate, rfl⟩ := write_eq_ok hwrite
  exact ⟨place, hlocate, locate_put hlocate content, file?_put_self before place content,
    fun elsewhere hne ↦ file?_put_of_ne before content hne⟩

end Directory

end ApiOutline.CommandLine
