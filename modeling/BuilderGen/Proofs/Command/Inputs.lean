import BuilderGen.Command.Run
import BuilderGen.Proofs.Source.Calls

/-!
# The files that a run reads

A run reads its input files one after the other.  When it has read all of them, every input was a file of the
workspace with a text that could be parsed, and what has been read is what `Reading.readFiles` makes of these
files.  None of them was refused.
-/

namespace BuilderGen

namespace Run

/-- What an input path stands for: the package is named like the file, and the items are those of its
text. -/
structure IsInput (workspace : Workspace) (path : String) (file : Source.File) : Prop where
  package : packageOfFile? path = some file.package
  items : ∃ name text source, FilePath.fileName? path = some name ∧ workspace.read path name = .ok text ∧
    Grammar.fileOfText? text = .ok source ∧ source.items = file.items

/-- An input that was read stands for a file that was added. -/
theorem readInput_ok {workspace : Workspace} {reading next : Reading} {path : String}
    (h : readInput workspace reading path = .ok next) :
    ∃ file found capabilities, IsInput workspace path file ∧
      Source.ofItems file.package file.items = .ok (found, capabilities) ∧
      next = reading.add found capabilities := by
  rw [readInput] at h
  split at h
  · rename_i package name hpackage hname
    obtain ⟨text, htext, h⟩ := bind_eq_ok.mp h
    obtain ⟨source, hsource, h⟩ := bind_eq_ok.mp h
    obtain ⟨found, capabilities, hitems, hnext⟩ := Reading.extend_eq_ok (mapError_eq_ok.mp h)
    have hread := mapError_eq_ok.mp htext
    have hparse := mapError_eq_ok.mp hsource
    exact ⟨⟨package, source.items⟩, found, capabilities,
      ⟨hpackage, name, text, source, hname, hread, hparse, rfl⟩, hitems, hnext⟩
  · cases h

/-- Inputs that were read stand for files that were all accepted. -/
theorem readInputs_ok {workspace : Workspace} {paths : List String} {reading next : Reading}
    (h : paths.foldlM (readInput workspace) reading = .ok next) :
    ∃ files, List.Forall₂ (IsInput workspace) paths files ∧
      (Reading.readFiles files).run reading = (files, next) := by
  induction paths generalizing reading with
  | nil =>
      cases h
      exact ⟨[], .nil, rfl⟩
  | cons path rest ih =>
      rw [List.foldlM_cons] at h
      obtain ⟨middle, hinput, h⟩ := bind_eq_ok.mp h
      obtain ⟨file, found, capabilities, hfile, hitems, rfl⟩ := readInput_ok hinput
      obtain ⟨files, hfiles, hrun⟩ := ih h
      exact ⟨file :: files, .cons hfile hfiles, by rw [Reading.readFiles_of_ok hitems, hrun]⟩

end Run

end BuilderGen
