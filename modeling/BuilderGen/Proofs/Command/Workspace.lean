import BuilderGen.Command.Workspace
import BuilderGen.Proofs.Success
import Mathlib.Data.List.Basic

/-!
# Files by their paths

A path that leads to a directory leads to a file in it when the name of the file is put behind it.  Three
facts give this.  The pieces of the longer path are those of the shorter one and the name.  Following pieces
finds the same location as long as directories stay directories, and neither making directories nor writing
files takes one away.  And a written file is found at its location, where no other file is touched.
-/

namespace BuilderGen

namespace FilePath

/-! ## Pieces of joined paths -/

theorem piecesList_ne_nil (chars : List Char) : piecesList chars ≠ [] := by
  fun_cases piecesList chars <;> exact List.cons_ne_nil _ _

/-- Without a slash there is one piece. -/
theorem piecesList_of_slash_notMem {chars : List Char} (hslash : '/' ∉ chars) :
    piecesList chars = [chars] := by
  induction chars with
  | nil => rfl
  | cons c chars ih =>
      rw [List.mem_cons, not_or] at hslash
      rw [piecesList, ih hslash.2]
      rintro rfl
      exact hslash.1 rfl

/-- A slash separates pieces. -/
theorem piecesList_append_slash (front back : List Char) :
    piecesList (front ++ '/' :: back) = piecesList front ++ piecesList back := by
  induction front with
  | nil => rfl
  | cons c front ih =>
      by_cases hc : c = '/'
      · subst hc
        rw [List.cons_append, piecesList, piecesList, ih, List.cons_append]
      · obtain ⟨piece, pieces, hpieces⟩ := List.exists_cons_of_ne_nil (piecesList_ne_nil front)
        rw [List.cons_append, piecesList, ih, piecesList, hpieces]
        · rfl
        · exact hc
        · exact hc

/-- The pieces of a path to a file are those of the path to its directory and the name.  A slash at the end
of the path to the directory is not written again. -/
theorem pieces_join {directory name : String} (hdirectory : directory ≠ "") (hname : '/' ∉ name.toList) :
    ∃ front, (pieces directory = front ∨ pieces directory = front ++ [""]) ∧
      pieces (join directory name) = front ++ [name] := by
  rw [join]
  split
  · rename_i hslash
    have hlast : directory.toList.getLast? = some '/' := hslash.resolve_left hdirectory
    obtain ⟨front, hfront⟩ := List.getLast?_eq_some_iff.mp hlast
    refine ⟨(piecesList front).map String.ofList, .inr ?_, ?_⟩
    · rw [pieces, hfront, piecesList_append_slash, List.map_append]
      rfl
    · rw [pieces, String.toList_append, hfront, List.append_assoc, List.singleton_append,
        piecesList_append_slash, piecesList_of_slash_notMem hname, List.map_append, List.map_singleton,
        String.ofList_toList]
  · refine ⟨pieces directory, .inl rfl, ?_⟩
    rw [pieces, String.toList_append, String.toList_append, List.append_assoc]
    have hone : "/".toList ++ name.toList = '/' :: name.toList := rfl
    rw [hone, piecesList_append_slash, piecesList_of_slash_notMem hname, List.map_append,
      List.map_singleton, String.ofList_toList, pieces]

theorem isRooted_join {directory : String} (hdirectory : directory ≠ "") (name : String) :
    isRooted (join directory name) = isRooted directory := by
  have hchars : directory.toList ≠ [] := fun hnil => hdirectory (String.toList_eq_nil_iff.mp hnil)
  obtain ⟨c, chars, hcons⟩ := List.exists_cons_of_ne_nil hchars
  rw [isRooted, isRooted, join]
  split <;> simp [hcons]

theorem join_ne_empty {directory : String} (hdirectory : directory ≠ "") (name : String) :
    join directory name ≠ "" := by
  rw [join]
  split <;> simp [hdirectory]

/-- Paths to files in one directory differ when the names do. -/
theorem join_inj {directory first second : String} :
    join directory first = join directory second ↔ first = second := by
  rw [join, join]
  split <;> simp [String.append_right_inj]

end FilePath

/-! ## Names that name a file -/

/-- A name of a file: it has no slash, and it is none of the pieces that lead to a directory. -/
structure IsFileName (name : String) : Prop where
  slash : '/' ∉ name.toList
  plain : name ∉ ["", ".", ".."]

namespace Location

theorem enter_name {name : String} (hname : IsFileName name) (location : Location) :
    location.enter name = { location with names := location.names ++ [name] } := by
  have hplain := hname.plain
  simp only [List.mem_cons, List.not_mem_nil, or_false, not_or] at hplain
  rw [enter, if_neg (by simp [hplain.1, hplain.2.1]), if_neg hplain.2.2]

/-- Files of one directory lie at different locations when their names differ. -/
theorem enter_inj {first second : String} (hfirst : IsFileName first) (hsecond : IsFileName second)
    (location : Location) : location.enter first = location.enter second ↔ first = second := by
  rw [enter_name hfirst, enter_name hsecond]
  simp

theorem enter_empty (location : Location) : location.enter "" = location :=
  rfl

end Location

namespace Workspace

variable {before workspace after : Workspace} {location directory : Location}

/-! ## Directories stay -/

/-- Every directory of the first workspace is one of the second. -/
def DirectoriesStay (before after : Workspace) : Prop :=
  ∀ location, before.isDirectory location = true → after.isDirectory location = true

theorem DirectoriesStay.refl (workspace : Workspace) : DirectoriesStay workspace workspace :=
  fun _ hdirectory => hdirectory

theorem DirectoriesStay.trans (hfirst : DirectoriesStay before workspace)
    (hsecond : DirectoriesStay workspace after) : DirectoriesStay before after :=
  fun location hdirectory => hsecond location (hfirst location hdirectory)

/-- More directories and more files leave all directories in place. -/
theorem directoriesStay_of_subset (hmade : before.directories ⊆ after.directories)
    (hfiles : before.files.map Prod.fst ⊆ after.files.map Prod.fst) : DirectoriesStay before after := by
  intro location hdirectory
  simp only [isDirectory, Bool.or_eq_true, List.any_eq_true] at hdirectory ⊢
  rcases hdirectory with (hbase | ⟨made, hmem, hmade'⟩) | ⟨⟨file, text⟩, hmem, hbelow⟩
  · exact .inl (.inl hbase)
  · exact .inl (.inr ⟨made, hmade hmem, hmade'⟩)
  · obtain ⟨⟨_, text'⟩, hmem', rfl⟩ := List.mem_map.mp (hfiles (List.mem_map_of_mem hmem))
    exact .inr ⟨_, hmem', hbelow⟩

/-- The way along pieces is found again while directories stay. -/
theorem follow_of_directoriesStay (hstay : DirectoriesStay before after) {pieces : List String}
    (hfollow : before.follow location pieces = .ok directory) :
    after.follow location pieces = .ok directory := by
  induction pieces generalizing location with
  | nil => exact hfollow
  | cons piece rest ih =>
      rw [follow] at hfollow ⊢
      split at hfollow
      · rename_i hdirectory
        rw [if_pos (hstay location hdirectory)]
        exact ih hfollow
      · cases hfollow

/-- One more piece leads from a directory to a location in it. -/
theorem follow_append_singleton {pieces : List String} {reached : Location}
    (hfollow : workspace.follow location pieces = .ok reached)
    (hreached : workspace.isDirectory reached = true) (piece : String) :
    workspace.follow location (pieces ++ [piece]) = .ok (reached.enter piece) := by
  induction pieces generalizing location with
  | nil =>
      cases hfollow
      rw [List.nil_append, follow, if_pos hreached, follow]
  | cons first rest ih =>
      rw [follow] at hfollow
      split at hfollow
      · rename_i hdirectory
        rw [List.cons_append, follow, if_pos hdirectory]
        exact ih hfollow
      · cases hfollow

/-- The last piece leads on from a directory. -/
theorem exists_follow_of_append_singleton {pieces : List String} {piece : String} {reached : Location}
    (hfollow : workspace.follow location (pieces ++ [piece]) = .ok reached) :
    ∃ last, workspace.follow location pieces = .ok last ∧ workspace.isDirectory last = true ∧
      reached = last.enter piece := by
  induction pieces generalizing location with
  | nil =>
      rw [List.nil_append, follow] at hfollow
      split at hfollow
      · rename_i hdirectory
        cases hfollow
        exact ⟨location, rfl, hdirectory, rfl⟩
      · cases hfollow
  | cons first rest ih =>
      rw [List.cons_append, follow] at hfollow
      split at hfollow
      · rename_i hdirectory
        obtain ⟨last, hlast, hrest⟩ := ih hfollow
        refine ⟨last, ?_, hrest⟩
        rw [follow, if_pos hdirectory]
        exact hlast
      · cases hfollow

/-! ## Making directories -/

theorem makeDirectory_ok (h : workspace.makeDirectory location = .ok after) :
    DirectoriesStay workspace after ∧ after.isDirectory location = true ∧ after.files = workspace.files := by
  rw [makeDirectory] at h
  split at h
  · rename_i hdirectory
    cases h
    exact ⟨.refl workspace, hdirectory, rfl⟩
  · split at h
    · cases h
    · split at h
      · cases h
      · cases h
        have hmade : workspace.directories ⊆ location :: workspace.directories :=
          List.subset_cons_self location workspace.directories
        refine ⟨directoriesStay_of_subset hmade (List.Subset.refl _), ?_, rfl⟩
        simp [isDirectory]

/-- The directories for pieces are made one in the other. -/
theorem makeAll_cons (hlocation : workspace.isDirectory location = true) (piece : String)
    (rest : List String) :
    workspace.makeAll location (piece :: rest) =
      match workspace.makeDirectory (location.enter piece) with
      | .ok next => next.makeAll (location.enter piece) rest
      | .error fault => .error (if rest.isEmpty then fault else .noDirectory) := by
  rw [makeAll, hlocation]
  rfl

/-- Pieces whose directories were made lead to the last of them. -/
theorem makeAll_ok {pieces : List String} (hlocation : workspace.isDirectory location = true)
    (h : workspace.makeAll location pieces = .ok (after, directory)) :
    DirectoriesStay workspace after ∧ after.isDirectory directory = true ∧
      after.files = workspace.files ∧ after.follow location pieces = .ok directory := by
  induction pieces generalizing workspace location with
  | nil =>
      cases h
      exact ⟨.refl _, hlocation, rfl, rfl⟩
  | cons piece rest ih =>
      rw [makeAll_cons hlocation] at h
      split at h
      · rename_i next hmake
        obtain ⟨hstay, hnext, hfiles⟩ := makeDirectory_ok hmake
        obtain ⟨hstay', hdirectory, hfiles', hfollow⟩ := ih hnext h
        refine ⟨hstay.trans hstay', hdirectory, hfiles'.trans hfiles, ?_⟩
        rw [follow, if_pos (hstay' location (hstay location hlocation))]
        exact hfollow
      · cases h

/-- The path of a directory that was opened leads to it. -/
theorem openDirectory_ok {path : String} (h : workspace.openDirectory path = .ok (after, directory)) :
    path ≠ "" ∧ after.isDirectory directory = true ∧ after.files = workspace.files ∧
      after.follow (.start path) (FilePath.pieces path) = .ok directory := by
  rw [openDirectory] at h
  split at h
  · cases h
  · rename_i hpath
    obtain ⟨_, hdirectory, hfiles, hfollow⟩ := makeAll_ok rfl h
    exact ⟨hpath, hdirectory, hfiles, hfollow⟩

/-! ## Writing files -/

/-- A new text in the place of the one that files have at a location changes nothing at another one. -/
theorem lookup_replace (files : List (Location × String)) (location other : Location) (text : String) :
    (files.map fun (place, old) => (place, if place = location then text else old)).lookup other =
      (files.lookup other).map fun old => if other = location then text else old := by
  induction files with
  | nil => rfl
  | cons file rest ih =>
      obtain ⟨place, old⟩ := file
      by_cases hplace : other = place
      · subst hplace
        simp
      · rw [List.map_cons, List.lookup_cons, List.lookup_cons, beq_false_of_ne hplace]
        exact ih

/-- A file that is written takes the place of the one at its location, or it is put behind the others. -/
theorem write_cases {name text : String} (h : workspace.write directory name text = .ok after) :
    (∃ old, workspace.file? (directory.enter name) = some old ∧
        after = { workspace with
          files := workspace.files.map fun (other, old) =>
            (other, if other = directory.enter name then text else old) }) ∨
      (workspace.file? (directory.enter name) = none ∧
        after = { workspace with files := workspace.files ++ [(directory.enter name, text)] }) := by
  rw [write] at h
  dsimp only at h
  split at h
  · cases h
  · split at h
    · cases h
    · split at h
      · rename_i hfile
        obtain ⟨old, hold⟩ := Option.isSome_iff_exists.mp hfile
        exact .inl ⟨old, hold, (Except.ok.inj h).symm⟩
      · rename_i hfile
        exact .inr ⟨Option.not_isSome_iff_eq_none.mp hfile, (Except.ok.inj h).symm⟩

/-- A file that was written has its text, and the other files have theirs. -/
theorem write_ok {name text : String} (h : workspace.write directory name text = .ok after) :
    DirectoriesStay workspace after ∧ after.file? (directory.enter name) = some text ∧
      ∀ other, other ≠ directory.enter name → after.file? other = workspace.file? other := by
  rcases write_cases h with ⟨old, hold, rfl⟩ | ⟨hnone, rfl⟩
  · refine ⟨directoriesStay_of_subset (List.Subset.refl _) ?_, ?_, fun other hother => ?_⟩
    · rw [List.map_map]
      exact List.Subset.refl _
    · rw [file?] at hold ⊢
      rw [lookup_replace, hold, Option.map_some, if_pos rfl]
    · rw [file?, file?, lookup_replace]
      simp [hother]
  · refine ⟨directoriesStay_of_subset (List.Subset.refl _) ?_, ?_, fun other hother => ?_⟩
    · rw [List.map_append]
      exact List.subset_append_left _ _
    · rw [file?] at hnone ⊢
      rw [List.lookup_append, hnone, Option.none_or, List.lookup_cons_self]
    · rw [file?, file?, List.lookup_append, List.lookup_cons, beq_false_of_ne hother, List.lookup_nil,
        Option.or_none]

/-! ## Files at paths -/

/-- The path of a file in a directory leads to the file. -/
theorem fileAt?_join {path name : String} (hpath : path ≠ "") (hname : IsFileName name)
    (hfollow : workspace.follow (.start path) (FilePath.pieces path) = .ok directory)
    (hdirectory : workspace.isDirectory directory = true) :
    workspace.fileAt? (FilePath.join path name) = workspace.file? (directory.enter name) := by
  obtain ⟨front, hpieces, hjoin⟩ := FilePath.pieces_join hpath hname.slash
  have hreach : workspace.follow (.start path) front = .ok directory := by
    rcases hpieces with hpieces | hpieces
    · exact hpieces ▸ hfollow
    · -- A slash at the end leads from the directory to itself.
      rw [hpieces] at hfollow
      obtain ⟨last, hlast, _, hreached⟩ := exists_follow_of_append_singleton hfollow
      rw [hlast, hreached, Location.enter_empty]
  have hstart : Location.start (FilePath.join path name) = .start path := by
    rw [Location.start, Location.start, FilePath.isRooted_join hpath]
  rw [fileAt?, locate, if_neg (FilePath.join_ne_empty hpath name), hstart, hjoin,
    follow_append_singleton hreach hdirectory]

end Workspace

end BuilderGen
