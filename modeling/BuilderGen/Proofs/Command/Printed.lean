import BuilderGen.Command.Program
import BuilderGen.Proofs.Command.Artefacts

/-!
# The lines that the program prints

A round makes its reports before anything is written, and the program prints them when all artefacts are
written.  So a fault of the output loses them.  When the output directory cannot be opened, or some builder
of the round cannot be rendered or written, the fault is the only line, whatever was reported.
Otherwise every report has its line, in order, also those of a round that stopped.  The exit code does not
suffer: it tells of errors among the reports and of a fault of the output.

Whether a directory takes a file does not depend on the artefacts written before (`fileFault?_of_write`).
So the fault that ends the loop is that of the first builder which has one in the workspace as it was when
the directory was opened, as `writeBuilders_fst` says.  `Run.run_fst` is the same for a whole run.
-/

namespace BuilderGen

namespace Workspace

variable {workspace after : Workspace} {directory : Location} {name other text : String}

/-- Why a directory does not take a file of some name. -/
def fileFault? (workspace : Workspace) (directory : Location) (name : String) : Option FileFault :=
  if workspace.isDirectory (directory.enter name) then some .isDirectory
  else if isUsableName name then none
  else some .badName

/-- A file is written unless the directory does not take it. -/
theorem write_eq_error_iff {fault : FileFault} :
    workspace.write directory name text = .error fault ↔ workspace.fileFault? directory name = some fault := by
  rw [write, fileFault?]
  dsimp only
  split
  · simp
  · by_cases husable : isUsableName name = true
    · rw [if_neg (by simp [husable]), if_pos husable]
      split <;> simp
    · rw [if_pos (by simp [husable]), if_neg husable]
      simp

/-- Files of one directory do not lie below each other. -/
theorem isBelow_enter (hname : IsFileName name) (hother : IsFileName other) :
    isBelow (directory.enter name) (directory.enter other) = false := by
  simp [isBelow, Location.enter_name hname, Location.enter_name hother]

/-- A file that is written leaves the locations of the other files of its directory as they are. -/
theorem isDirectory_enter_of_write (h : workspace.write directory name text = .ok after)
    (hname : IsFileName name) (hother : IsFileName other) :
    after.isDirectory (directory.enter other) = workspace.isDirectory (directory.enter other) := by
  rcases write_cases h with ⟨old, _, rfl⟩ | ⟨_, rfl⟩
  · simp only [isDirectory, List.any_map]
    rfl
  · simp [isDirectory, isBelow_enter hname hother]

/-- Whether a directory takes a file does not depend on what else is written into it. -/
theorem fileFault?_of_write (h : workspace.write directory name text = .ok after)
    (hname : IsFileName name) (hother : IsFileName other) :
    after.fileFault? directory other = workspace.fileFault? directory other := by
  rw [fileFault?, fileFault?, isDirectory_enter_of_write h hname hother]

end Workspace

namespace Run

/-! ## Faults of the output -/

section Builders

variable {directory : Location} {path : String} {format : ArtefactFormat} {cratePath : String}

/-- Why a builder has no artefact: it cannot be rendered, or the directory does not take its file. -/
def builderFault? (workspace : Workspace) (directory : Location) (path : String) (format : ArtefactFormat)
    (cratePath : String) (builder : Builder) : Option RunFault :=
  match builder.contents format cratePath with
  | .error fault => some (.render builder.name fault)
  | .ok _ =>
      (workspace.fileFault? directory (builder.fileName format)).map
        (.file (FilePath.join path (builder.fileName format)))

theorem builderFault?_of_write {workspace after : Workspace} {builder : Builder} {text : String}
    (h : workspace.write directory (builder.fileName format) text = .ok after) :
    builderFault? after directory path format cratePath =
      builderFault? workspace directory path format cratePath := by
  funext other
  rw [builderFault?, builderFault?, Workspace.fileFault?_of_write h (builder.isFileName_fileName format)
    (other.isFileName_fileName format)]

/-- Builders are written up to the first one with a fault, and that is the fault of all. -/
theorem writeBuilders_fst (workspace : Workspace) (builders : List Builder) :
    (writeBuilders directory path format cratePath workspace builders).1 =
      match builders.findSome? (builderFault? workspace directory path format cratePath) with
      | some fault => .error fault
      | none => .ok (builders.map fun builder => FilePath.join path (builder.fileName format)) := by
  induction builders generalizing workspace with
  | nil => rfl
  | cons builder rest ih =>
      rw [writeBuilders, List.findSome?_cons]
      dsimp only
      cases hcontents : builder.contents format cratePath with
      | error fault =>
          rw [builderFault?, hcontents]
      | ok text =>
          cases hwrite : workspace.write directory (builder.fileName format) text with
          | error fault =>
              rw [builderFault?, hcontents, Workspace.write_eq_error_iff.mp hwrite]
              dsimp only
              rw [hwrite]
              rfl
          | ok after =>
              have hnone : builderFault? workspace directory path format cratePath builder = none := by
                rw [builderFault?, hcontents]
                dsimp only
                rw [Option.map_eq_none_iff, Option.eq_none_iff_forall_ne_some]
                intro fault hfault
                rw [Workspace.write_eq_error_iff.mpr hfault] at hwrite
                cases hwrite
              rw [hnone]
              dsimp only
              rw [hwrite]
              dsimp only
              rw [ih, builderFault?_of_write hwrite]
              cases rest.findSome? (builderFault? workspace directory path format cratePath) <;> rfl

end Builders

/-- The builders of a round.  A round that stopped has none. -/
def buildersOf : Except Fault Round → List Builder
  | .ok round => round.builders
  | .error _ => []

/-- Why the artefacts of builders cannot be left in the output directory: it cannot be opened, or some
builder has no artefact in it. -/
def outputFault? (workspace : Workspace) (arguments : Arguments) (cratePath : String)
    (builders : List Builder) : Option RunFault :=
  match workspace.openDirectory arguments.directory with
  | .error fault => some (.file arguments.directory fault)
  | .ok (opened, directory) =>
      builders.findSome? (builderFault? opened directory arguments.directory arguments.artefactFormat cratePath)

variable {workspace : Workspace} {environment : List (String × String)} {arguments : Arguments}
  {settings : Settings} {reading : Reading}

/-- A run whose round is run ends with the reports of the round, unless the output has a fault. -/
theorem run_fst (hsettings : Run.settings workspace environment arguments = .ok settings)
    (hreading : readInputs workspace arguments.inputs = .ok reading) :
    (run workspace environment arguments).1 =
      match outputFault? workspace arguments settings.cratePath
        (buildersOf (Round.run settings reading.declarations).2) with
      | some fault => .error fault
      | none => .ok
          { written := (buildersOf (Round.run settings reading.declarations).2).map fun builder =>
              FilePath.join arguments.directory (builder.fileName arguments.artefactFormat)
            reports := (Round.run settings reading.declarations).1 } := by
  have hstep : (run workspace environment arguments).1 =
      match workspace.openDirectory arguments.directory with
      | .error fault => .error (.file arguments.directory fault)
      | .ok (opened, directory) =>
          (writeBuilders directory arguments.directory arguments.artefactFormat settings.cratePath opened
            (buildersOf (Round.run settings reading.declarations).2)).1.map fun written =>
              { written, reports := (Round.run settings reading.declarations).1 } := by
    rw [run, hsettings, hreading]
    dsimp only [bind, Except.bind, pure, Except.pure]
    cases workspace.openDirectory arguments.directory with
    | error fault => rfl
    | ok opened => cases (Round.run settings reading.declarations).2 <;> rfl
  rw [hstep, outputFault?]
  cases workspace.openDirectory arguments.directory with
  | error fault => rfl
  | ok opened =>
      dsimp only
      rw [writeBuilders_fst]
      cases (buildersOf (Round.run settings reading.declarations).2).findSome?
        (builderFault? opened.1 opened.2 arguments.directory arguments.artefactFormat settings.cratePath) <;> rfl

end Run

/-! ## What is printed -/

/-- What the program prints when its round is run, and how it exits.

A fault of the output is the only line then: the reports of the round are lost.  Without such a fault every
report has its line, in the order of the reports.  The exit code is that of a failure just when an error was
reported or the output has a fault. -/
theorem Program.run_prints {workspace : Workspace} {environment : List (String × String)}
    {texts : List String} {arguments : Arguments} {settings : Settings} {reading : Reading}
    (harguments : Program.arguments texts = .ok arguments)
    (hsettings : Run.settings workspace environment arguments = .ok settings)
    (hreading : Run.readInputs workspace arguments.inputs = .ok reading) :
    ∃ reports outcome fault?,
      Round.run settings reading.declarations = (reports, outcome) ∧
      Run.outputFault? workspace arguments settings.cratePath (Run.buildersOf outcome) = fault? ∧
      (∀ fault, (Run.run workspace environment arguments).1 = .error fault ↔ fault? = some fault) ∧
      (fault? = none → (run workspace environment texts).lines = reports.map Diagnostic.display) ∧
      (∀ fault, fault? = some fault →
        (run workspace environment texts).lines = ["error: " ++ fault.message]) ∧
      (run workspace environment texts).exitCode =
        if Round.hasErrors reports || fault?.isSome then 1 else 0 := by
  have hrun := Run.run_fst hsettings hreading
  cases hround : Round.run settings reading.declarations with
  | mk reports outcome =>
      rw [hround] at hrun
      refine ⟨reports, outcome, _, rfl, rfl, ?_⟩
      rw [run, harguments]
      dsimp only at hrun ⊢
      generalize Run.run workspace environment arguments = result at hrun ⊢
      obtain ⟨ended, after⟩ := result
      cases hfault : Run.outputFault? workspace arguments settings.cratePath (Run.buildersOf outcome) with
      | none =>
          rw [hfault] at hrun
          subst hrun
          simp
      | some fault =>
          rw [hfault] at hrun
          subst hrun
          simp

/-! ## A sample -/

namespace Shop

/-- A file with a provider that provides nothing, a private aggregate and a public one. -/
def draftFiles : Workspace :=
  .ofFiles [("shop.rs",
    "#[provides] pub struct Names; #[builder] struct Draft \x7b\x7d #[builder] pub struct Order \x7b\x7d")]

/-- The lines for the two reports about `draftFiles`. -/
def draftLines : List String :=
  ["warning: shop::Names: shop::Names is marked as a provider but does not implement DefaultValueProvider<T>",
    "error: shop::Draft: Draft is private; give it `pub` or `pub(crate)` visibility"]

/-- What is reported about `draftFiles` under some settings. -/
theorem draft_reports (settings : Settings)
    (h : (Run.readInputs draftFiles ["shop.rs"]).toOption.map
      (fun reading => (Round.run settings reading.declarations).1.map Diagnostic.display) = some draftLines) :
    ∃ reading, Run.readInputs draftFiles ["shop.rs"] = .ok reading ∧
      (Round.run settings reading.declarations).1.map Diagnostic.display = draftLines := by
  obtain ⟨reading, hreading, hlines⟩ := Option.map_eq_some_iff.mp h
  exact ⟨reading, toOption_eq_some.mp hreading, hlines⟩

/-- When the artefact of the order is written, both reports are printed. -/
theorem draft_printed :
    ∃ reading, Program.arguments ["optbuilder", "shop.rs"] = .ok { inputs := ["shop.rs"] } ∧
      Run.settings draftFiles [] { inputs := ["shop.rs"] } = .ok {} ∧
      Run.readInputs draftFiles ["shop.rs"] = .ok reading ∧
      (Round.run {} reading.declarations).1.map Diagnostic.display = draftLines ∧
      (Program.run draftFiles [] ["optbuilder", "shop.rs"]).lines = draftLines := by
  have harguments : Program.arguments ["optbuilder", "shop.rs"] = .ok { inputs := ["shop.rs"] } :=
    toOption_eq_some.mp (by decide +kernel)
  have hsettings : Run.settings draftFiles [] { inputs := ["shop.rs"] } = .ok {} :=
    toOption_eq_some.mp (by decide +kernel)
  obtain ⟨reading, hreading, hlines⟩ := draft_reports {} (by decide +kernel)
  obtain ⟨reports, outcome, fault?, hround, _, hfault, hprinted, _⟩ :=
    Program.run_prints harguments hsettings hreading
  have hnone : fault? = none := by
    rw [Option.eq_none_iff_forall_ne_some]
    intro fault hsome
    have hok : (Run.run draftFiles [] { inputs := ["shop.rs"] }).1.isOk = true := by decide +kernel
    rw [(hfault fault).mpr hsome] at hok
    cases hok
  refine ⟨reading, harguments, hsettings, hreading, hlines, ?_⟩
  rw [hprinted hnone, ← hlines, hround]

/-- With a runtime path that is none, the order cannot be rendered, and neither report is printed. -/
theorem draft_reports_lost :
    ∃ arguments settings reading,
      Program.arguments ["optbuilder", "--crate-path", "a b", "shop.rs"] = .ok arguments ∧
      Run.settings draftFiles [] arguments = .ok settings ∧
      Run.readInputs draftFiles arguments.inputs = .ok reading ∧
      (Round.run settings reading.declarations).1.map Diagnostic.display = draftLines ∧
      (Program.run draftFiles [] ["optbuilder", "--crate-path", "a b", "shop.rs"]).lines =
        ["error: cannot render OrderBuilder: `a b` is not a valid path: unexpected token"] := by
  obtain ⟨reading, hreading, hlines⟩ := draft_reports { cratePath := "a b" } (by decide +kernel)
  exact ⟨{ inputs := ["shop.rs"], cratePath := some "a b" }, { cratePath := "a b" }, reading,
    toOption_eq_some.mp (by decide +kernel), toOption_eq_some.mp (by decide +kernel), hreading, hlines,
    by decide +kernel⟩

end Shop

end BuilderGen
