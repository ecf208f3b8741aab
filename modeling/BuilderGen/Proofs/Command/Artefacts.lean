import BuilderGen.Proofs.Builder.Generation
import BuilderGen.Proofs.Command.Inputs
import BuilderGen.Proofs.Command.Workspace
import BuilderGen.Proofs.Round
import BuilderGen.Proofs.Text.SnakeCase

/-!
# The artefacts that a run leaves

A run without errors writes one artefact for every aggregate of its inputs, each to a file of the output
directory.  The file is named after the builder, in snake case, and after nothing else.  So builders of
different modules, and builders whose names differ only in case, may share a file.  Then the last of them is
found in it and the others are lost, as with the tags of `Shop.labelFiles`.  When no two names are the same
in snake case, every aggregate has its artefact.

`writeBuilders_ok` is the loop: the last artefact of a name wins, and no other file is touched.
`hasArtefact_of_writeBuilders` turns it into a statement about aggregates and the paths of their artefacts.
-/

namespace BuilderGen

/-! ## Names of artefacts -/

/-- The name of the artefact for an aggregate. -/
def Aggregate.artefactName (aggregate : Aggregate) (format : ArtefactFormat) : String :=
  Text.snakeCase aggregate.generatedName ++ "." ++ format.extension

theorem Aggregate.fileName_of_generate {aggregate : Aggregate} {registry : Registry}
    {enumerations : List Enumeration} {builder : Builder}
    (hgenerate : aggregate.generate registry enumerations = .ok builder) (format : ArtefactFormat) :
    builder.fileName format = aggregate.artefactName format := by
  obtain ⟨constructor, choices, _, rfl⟩ := generate_eq_ok hgenerate
  rfl

/-- The name of an artefact names a file. -/
theorem Builder.isFileName_fileName (builder : Builder) (format : ArtefactFormat) :
    IsFileName (builder.fileName format) := by
  have hextension : '/' ∉ format.extension.toList ∧ 1 < format.extension.toList.length := by
    cases format <;> decide
  constructor
  case slash =>
    rw [fileName, String.toList_append, String.toList_append, List.mem_append, List.mem_append, not_or,
      not_or]
    exact ⟨⟨Text.slash_notMem_snakeCase builder.name, by decide⟩, hextension.1⟩
  case plain =>
    -- A dot and an extension of two letters or more are longer than any of the three pieces.
    intro hmem
    have hlength : (builder.fileName format).toList.length ≤ 2 := by
      simp only [List.mem_cons, List.not_mem_nil, or_false] at hmem
      rcases hmem with hname | hname | hname <;> rw [hname] <;> decide
    have hdot : ".".toList.length = 1 := rfl
    rw [fileName, String.toList_append, String.toList_append, List.length_append, List.length_append,
      hdot] at hlength
    omega

namespace Run

/-! ## Writing the artefacts -/

section Written

variable {directory : Location} {path : String} {format : ArtefactFormat} {cratePath : String}
  {workspace after : Workspace} {builders : List Builder} {written : List String}

/-- The file of a builder holds its artefact. -/
def Holds (workspace : Workspace) (directory : Location) (format : ArtefactFormat) (cratePath : String)
    (builder : Builder) : Prop :=
  ∃ text, builder.contents format cratePath = .ok text ∧
    workspace.file? (directory.enter (builder.fileName format)) = some text

/-- Builders that are written are written in order.  Directories stay, files with other names stay as they
are, and the last builder of each name has its artefact. -/
theorem writeBuilders_ok
    (h : writeBuilders directory path format cratePath workspace builders = (.ok written, after)) :
    written = builders.map (fun builder => FilePath.join path (builder.fileName format)) ∧
      Workspace.DirectoriesStay workspace after ∧
      (∀ location, (∀ builder ∈ builders, location ≠ directory.enter (builder.fileName format)) →
        after.file? location = workspace.file? location) ∧
      ∀ front builder back, builders = front ++ builder :: back →
        (∀ other ∈ back, other.fileName format ≠ builder.fileName format) →
        Holds after directory format cratePath builder := by
  induction builders generalizing workspace written with
  | nil =>
      cases h
      exact ⟨rfl, .refl _, fun _ _ => rfl, by simp⟩
  | cons first rest ih =>
      rw [writeBuilders] at h
      dsimp only at h
      split at h
      · cases h
      · rename_i text hcontents
        split at h
        · cases h
        · rename_i next hwrite
          obtain ⟨hstay, hfile, hothers⟩ := Workspace.write_ok hwrite
          obtain ⟨hwritten, hafter⟩ := Prod.mk.inj h
          obtain ⟨paths, hpaths, rfl⟩ := map_eq_ok.mp hwritten
          obtain ⟨hrest, hstay', hothers', hlast⟩ := ih (Prod.ext hpaths hafter)
          refine ⟨by rw [List.map_cons, hrest], hstay.trans hstay', fun location hlocation => ?_, ?_⟩
          · obtain ⟨hfirst, hrest⟩ := List.forall_mem_cons.mp hlocation
            exact (hothers' location hrest).trans (hothers location hfirst)
          · intro front builder back hsplit hback
            rcases List.cons_eq_append_iff.mp hsplit with ⟨rfl, hhead⟩ | ⟨more, rfl, hrest⟩
            · obtain ⟨rfl, rfl⟩ := List.cons.inj hhead
              refine ⟨text, hcontents, (hothers' _ fun other hother => ?_).trans hfile⟩
              rw [Ne, Location.enter_inj (builder.isFileName_fileName format)
                (other.isFileName_fileName format)]
              exact (hback other hother).symm
            · exact hlast more builder back hrest hback

end Written

/-! ## Runs -/

section Run

variable {workspace : Workspace} {environment : List (String × String)} {arguments : Arguments}
  {outcome : Outcome}

/-- A run that gets as far as the output directory ends with writing the builders of its round. -/
theorem writeBuilders_of_run {settings : Settings} {reading : Reading} {opened : Workspace}
    {directory : Location} {reports : List Diagnostic} {round : Round}
    (hrun : (run workspace environment arguments).1 = .ok outcome)
    (hsettings : Run.settings workspace environment arguments = .ok settings)
    (hreading : readInputs workspace arguments.inputs = .ok reading)
    (hround : Round.run settings reading.declarations = (reports, .ok round))
    (hopen : workspace.openDirectory arguments.directory = .ok (opened, directory)) :
    writeBuilders directory arguments.directory arguments.artefactFormat settings.cratePath opened
      round.builders = (.ok outcome.written, (run workspace environment arguments).2) := by
  rw [run, hsettings, hreading] at hrun ⊢
  dsimp only [bind, Except.bind, pure, Except.pure] at hrun ⊢
  rw [hround, hopen] at hrun ⊢
  obtain ⟨written, hwritten, rfl⟩ := map_eq_ok.mp hrun
  exact Prod.ext hwritten rfl

/-- A run that ends with an outcome has its settings, its inputs and its output directory. -/
theorem steps_of_run (hrun : (run workspace environment arguments).1 = .ok outcome) :
    ∃ settings reading opened directory,
      Run.settings workspace environment arguments = .ok settings ∧
      readInputs workspace arguments.inputs = .ok reading ∧
      workspace.openDirectory arguments.directory = .ok (opened, directory) ∧
      outcome.reports = (Round.run settings reading.declarations).1 := by
  rw [run] at hrun
  cases hsettings : Run.settings workspace environment arguments with
  | error fault =>
      rw [hsettings] at hrun
      cases hrun
  | ok settings =>
      cases hreading : readInputs workspace arguments.inputs with
      | error fault =>
          rw [hsettings, hreading] at hrun
          cases hrun
      | ok reading =>
          cases hopen : workspace.openDirectory arguments.directory with
          | error fault =>
              rw [hsettings, hreading, hopen] at hrun
              cases hrun
          | ok opened =>
              rw [hsettings, hreading, hopen] at hrun
              obtain ⟨written, _, rfl⟩ := map_eq_ok.mp hrun
              exact ⟨settings, reading, opened.1, opened.2, rfl, rfl, rfl, rfl⟩

/-- The path of the artefact for an aggregate. -/
def artefactPath (arguments : Arguments) (aggregate : Aggregate) : String :=
  FilePath.join arguments.directory (aggregate.artefactName arguments.artefactFormat)

/-- The file at a path holds the artefact for an aggregate. -/
def HasArtefact (workspace : Workspace) (arguments : Arguments) (settings : Settings) (registry : Registry)
    (enumerations : List Enumeration) (aggregate : Aggregate) (path : String) : Prop :=
  ∃ builder text, aggregate.generate registry enumerations = .ok builder ∧
    builder.contents arguments.artefactFormat settings.cratePath = .ok text ∧
    workspace.fileAt? path = some text

/-- Paths of artefacts differ when the names of the builders do in snake case. -/
theorem nodup_artefactPath_iff (arguments : Arguments) (aggregates : List Aggregate) :
    (aggregates.map (artefactPath arguments)).Nodup ↔
      (aggregates.map fun aggregate => Text.snakeCase aggregate.generatedName).Nodup := by
  have hinjective : Function.Injective fun name =>
      FilePath.join arguments.directory (name ++ "." ++ arguments.artefactFormat.extension) := by
    intro first second heq
    have hname := FilePath.join_inj.mp heq
    rwa [String.append_left_inj, String.append_left_inj] at hname
  have hmap : aggregates.map (artefactPath arguments) =
      (aggregates.map fun aggregate => Text.snakeCase aggregate.generatedName).map fun name =>
        FilePath.join arguments.directory (name ++ "." ++ arguments.artefactFormat.extension) := by
    rw [List.map_map]
    rfl
  rw [hmap, List.nodup_map_iff hinjective]

/-- The path of an artefact leads to its file, also when more has been written. -/
theorem fileAt?_artefactPath {opened after : Workspace} {directory : Location}
    (hopen : workspace.openDirectory arguments.directory = .ok (opened, directory))
    (hstay : Workspace.DirectoriesStay opened after) {aggregate : Aggregate} {registry : Registry}
    {enumerations : List Enumeration} {builder : Builder}
    (hgenerate : aggregate.generate registry enumerations = .ok builder) :
    after.fileAt? (artefactPath arguments aggregate) =
      after.file? (directory.enter (builder.fileName arguments.artefactFormat)) := by
  obtain ⟨hpath, hdirectory, _, hfollow⟩ := Workspace.openDirectory_ok hopen
  rw [artefactPath, ← Aggregate.fileName_of_generate hgenerate]
  exact Workspace.fileAt?_join hpath (builder.isFileName_fileName arguments.artefactFormat)
    (Workspace.follow_of_directoriesStay hstay hfollow) (hstay directory hdirectory)

/-- The builders of aggregates that are written into the output directory get the paths of the aggregates,
and the last aggregate of each path has its artefact. -/
theorem hasArtefact_of_writeBuilders {opened after : Workspace} {directory : Location} {settings : Settings}
    {registry : Registry} {enumerations : List Enumeration} {aggregates : List Aggregate}
    {builders : List Builder} {written : List String}
    (hopen : workspace.openDirectory arguments.directory = .ok (opened, directory))
    (hbuilders : List.Forall₂ (fun aggregate builder =>
      aggregate.generate registry enumerations = .ok builder) aggregates builders)
    (hwrite : writeBuilders directory arguments.directory arguments.artefactFormat settings.cratePath opened
      builders = (.ok written, after)) :
    written = aggregates.map (artefactPath arguments) ∧
      ∀ front aggregate back, aggregates = front ++ aggregate :: back →
        (∀ other ∈ back, artefactPath arguments other ≠ artefactPath arguments aggregate) →
        HasArtefact after arguments settings registry enumerations aggregate
          (artefactPath arguments aggregate) := by
  obtain ⟨hpaths, hstay, _, hlast⟩ := writeBuilders_ok hwrite
  refine ⟨?_, fun front aggregate back hsplit hback => ?_⟩
  · rw [hpaths]
    refine map_eq_map_of_forall₂ hbuilders.flip fun builder aggregate hgenerate => ?_
    rw [Aggregate.fileName_of_generate hgenerate, artefactPath]
  · rw [hsplit] at hbuilders
    obtain ⟨front', builder, back', hsplit', hgenerate, hrest⟩ := exists_split_of_forall₂ hbuilders
    have hlater : ∀ other ∈ back', other.fileName arguments.artefactFormat ≠
        builder.fileName arguments.artefactFormat := by
      intro other hother hname
      obtain ⟨last, hmem, hgenerate'⟩ := exists_of_forall₂_of_mem hrest hother
      refine hback last hmem ?_
      rw [artefactPath, artefactPath, ← Aggregate.fileName_of_generate hgenerate', hname,
        Aggregate.fileName_of_generate hgenerate]
    obtain ⟨text, hcontents, hfile⟩ := hlast front' builder back' hsplit' hlater
    refine ⟨builder, text, hgenerate, hcontents, ?_⟩
    rw [fileAt?_artefactPath hopen hstay hgenerate, hfile]

/-- What a run without errors leaves behind.

All inputs have been read, and the paths that were written follow the aggregates in the inputs one by one.
For every aggregate there is a builder.  The last aggregate whose artefact has some path is found in the file
at that path.  The paths differ just when the names of the builders do in snake case, and then every
aggregate has its own artefact. -/
theorem run_artefacts (hrun : (run workspace environment arguments).1 = .ok outcome)
    (hreports : Round.hasErrors outcome.reports = false) :
    ∃ settings files reading registry,
      Run.settings workspace environment arguments = .ok settings ∧
      List.Forall₂ (IsInput workspace) arguments.inputs files ∧
      (Reading.readFiles files).run {} = (files, reading) ∧
      reading.declarations.aggregates.map Aggregate.qualifiedName =
        files.flatMap Source.File.aggregateNames ∧
      (Registry.build settings reading.declarations.providers).2 = .ok registry ∧
      outcome.written = reading.declarations.aggregates.map (artefactPath arguments) ∧
      (∀ front aggregate back, reading.declarations.aggregates = front ++ aggregate :: back →
        (∀ other ∈ back, artefactPath arguments other ≠ artefactPath arguments aggregate) →
        HasArtefact (run workspace environment arguments).2 arguments settings registry
          reading.declarations.enumerations aggregate (artefactPath arguments aggregate)) ∧
      (outcome.written.Nodup ↔ (reading.declarations.aggregates.map fun aggregate =>
        Text.snakeCase aggregate.generatedName).Nodup) ∧
      (outcome.written.Nodup →
        List.Forall₂ (HasArtefact (run workspace environment arguments).2 arguments settings registry
          reading.declarations.enumerations) reading.declarations.aggregates outcome.written) := by
  obtain ⟨settings, reading, opened, directory, hsettings, hreading, hopen, heq⟩ := steps_of_run hrun
  obtain ⟨files, hfiles, hread⟩ := readInputs_ok hreading
  rw [heq] at hreports
  obtain ⟨registry, round, hregistry, hround, hbuilders⟩ := Round.forall₂_builders_of_run hreports
  have hwrite := writeBuilders_of_run hrun hsettings hreading (Prod.ext rfl hround) hopen
  obtain ⟨hwritten, hlast⟩ := hasArtefact_of_writeBuilders hopen hbuilders hwrite
  refine ⟨settings, files, reading, registry, hsettings, hfiles, hread, ?_, hregistry, hwritten, hlast,
    ?_, fun hnodup => ?_⟩
  · have hadds := Reading.adds_readFiles files {}
    rw [hread] at hadds
    exact hadds.aggregateNames
  · rw [hwritten, nodup_artefactPath_iff]
  · -- Where no path is repeated every aggregate is the last one of its path.
    rw [hwritten] at hnodup ⊢
    rw [List.forall₂_map_right_iff, List.forall₂_same]
    intro aggregate haggregate
    obtain ⟨front, back, hsplit⟩ := List.append_of_mem haggregate
    refine hlast front aggregate back hsplit fun other hother hsame => ?_
    rw [hsplit, List.map_append, List.map_cons] at hnodup
    have hfresh := (List.nodup_cons.mp hnodup.of_append_right).1
    exact hfresh (hsame ▸ List.mem_map_of_mem hother)

end Run

end Run

/-! ## A sample -/

namespace Shop

/-- Files with two tags and a link. -/
def labelFiles : Workspace :=
  .ofFiles [("home.rs", "#[builder] pub struct Tag \x7b\x7d"), ("post.rs", "#[builder] pub struct Tag \x7b\x7d"),
    ("web.rs", "#[builder] pub struct Link \x7b\x7d")]

/-- The arguments that ask for the builders of two files as JSON. -/
def labelArguments (first second : String) : Arguments :=
  { inputs := [first, second], format := some .json }

/-- A tag and a link have an artefact each. -/
theorem tag_and_link_artefacts :
    (Run.run labelFiles [] (labelArguments "home.rs" "web.rs")).1 =
        .ok { written := ["optbuilder-out/tag_builder.json", "optbuilder-out/link_builder.json"] } ∧
      Round.hasErrors [] = false ∧
      ∃ settings registry, ∃ reading : Reading,
        List.Forall₂ (Run.HasArtefact (Run.run labelFiles [] (labelArguments "home.rs" "web.rs")).2
            (labelArguments "home.rs" "web.rs") settings registry reading.declarations.enumerations)
          reading.declarations.aggregates
          ["optbuilder-out/tag_builder.json", "optbuilder-out/link_builder.json"] := by
  have hrun : (Run.run labelFiles [] (labelArguments "home.rs" "web.rs")).1.toOption =
      some { written := ["optbuilder-out/tag_builder.json", "optbuilder-out/link_builder.json"] } := by
    decide +kernel
  have hrun := toOption_eq_some.mp hrun
  obtain ⟨settings, files, reading, registry, _, _, _, _, _, _, _, _, hartefacts⟩ :=
    Run.run_artefacts hrun rfl
  exact ⟨hrun, rfl, settings, registry, reading, hartefacts (by decide)⟩

/-- Two tags of different modules share a file, and so one artefact is lost. -/
theorem tags_share_artefact :
    (Run.run labelFiles [] (labelArguments "home.rs" "post.rs")).1 =
        .ok { written := ["optbuilder-out/tag_builder.json", "optbuilder-out/tag_builder.json"] } ∧
      (Run.run labelFiles [] (labelArguments "home.rs" "post.rs")).2.files.map (fun file => file.1.names) =
        [["home.rs"], ["post.rs"], ["web.rs"], ["optbuilder-out", "tag_builder.json"]] := by
  have hrun : Prod.map Except.toOption (fun after => after.files.map fun file => file.1.names)
      (Run.run labelFiles [] (labelArguments "home.rs" "post.rs")) =
      (some { written := ["optbuilder-out/tag_builder.json", "optbuilder-out/tag_builder.json"] },
        [["home.rs"], ["post.rs"], ["web.rs"], ["optbuilder-out", "tag_builder.json"]]) := by
    decide +kernel
  rw [Prod.ext_iff, Prod.map_fst, Prod.map_snd] at hrun
  exact ⟨toOption_eq_some.mp hrun.1, hrun.2⟩

end Shop

end BuilderGen
