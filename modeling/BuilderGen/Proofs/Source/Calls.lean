import BuilderGen.Proofs.Source.Attach
import BuilderGen.Proofs.Source.Items

/-!
# Reading file after file

A round is read file after file on top of what has been read.  A file either is accepted as a whole, or a
marker in it is refused and it leaves no trace.  `Reading.Sound` is the invariant of such a run.  Every
capability of an accepted file is held by one provider that it belongs to, or it waits; and those that wait
belong to no provider that has been read.

`Sound.add` is the step and `Sound.readFiles` the run.  Capabilities are tried again with every file, so the
invariant needs nothing about the order of the files.  `Reading.Adds` says what is declared after a run.
-/

namespace BuilderGen

open Grammar (Item)

/-- A file of a round: the module that it is read as, and its items. -/
structure Source.File where
  package : String
  items : List Item

namespace Source.File

/-- The providers that a file declares, one for each struct. -/
def providers (file : File) : List Provider :=
  Source.providers file.package file.items

/-- The capabilities in a file, one for each implementation of a trait for a path. -/
def implementations (file : File) : List Capability :=
  Source.implementations file.package file.items

/-- The qualified names of the aggregates in a file. -/
def aggregateNames (file : File) : List String :=
  Source.markedNames file.package file.items

/-- What a file declares, if it can be read. -/
def declarations (file : File) : Declarations :=
  ((Source.ofItems file.package file.items).toOption.map Prod.fst).getD {}

theorem declarations_of_ok {file : File} {found : Declarations} {capabilities : List Capability}
    (hfile : Source.ofItems file.package file.items = .ok (found, capabilities)) :
    file.declarations = found := by
  rw [declarations, hfile]
  rfl

end Source.File

/-- Providers are found without capabilities. -/
theorem Source.capabilities_of_mem_providers {package : String} {items : List Item} {provider : Provider}
    (hprovider : provider ∈ providers package items) : provider.capabilities = [] := by
  obtain ⟨⟨module, item⟩, _, hmem⟩ := List.mem_flatMap.mp hprovider
  cases item with
  | struct item =>
      rw [List.mem_singleton.mp hmem]
      rfl
  | _ => cases hmem

theorem Source.bare_of_mem_providers {package : String} {items : List Item} {provider : Provider}
    (hprovider : provider ∈ providers package items) : provider.bare = provider := by
  rw [Provider.bare, ← capabilities_of_mem_providers hprovider]

theorem Source.map_bare_providers (package : String) (items : List Item) :
    (providers package items).map Provider.bare = providers package items :=
  (List.map_congr_left fun _ => bare_of_mem_providers).trans (List.map_id _)

namespace Reading

open Capability (Held HeldBy IsHomeless)

variable {reading : Reading} {read : List Capability}

/-- A file that can be read is added as a whole.  Any other file changes nothing. -/
theorem readItems_run (reading : Reading) (package : String) (items : List Item) :
    (readItems package items).run.run reading =
      match Source.ofItems package items with
      | .ok (found, capabilities) => (.ok (), reading.add found capabilities)
      | .error fault => (.error fault, reading) := by
  rw [readItems]
  cases Source.ofItems package items <;> rfl

/-- A file that extends a reading can be read, and is added as a whole. -/
theorem extend_eq_ok {reading next : Reading} {package : String} {items : List Item}
    (h : reading.extend package items = .ok next) :
    ∃ found capabilities, Source.ofItems package items = .ok (found, capabilities) ∧
      next = reading.add found capabilities := by
  rw [extend, readItems_run] at h
  cases hitems : Source.ofItems package items with
  | error fault =>
      rw [hitems] at h
      cases h
  | ok found =>
      rw [hitems] at h
      cases h
      exact ⟨found.1, found.2, rfl, rfl⟩

@[simp] theorem add_aggregates (found : Declarations) (capabilities : List Capability) :
    (reading.add found capabilities).declarations.aggregates =
      reading.declarations.aggregates ++ found.aggregates :=
  rfl

@[simp] theorem add_enumerations (found : Declarations) (capabilities : List Capability) :
    (reading.add found capabilities).declarations.enumerations =
      reading.declarations.enumerations ++ found.enumerations :=
  rfl

@[simp] theorem add_providers (found : Declarations) (capabilities : List Capability) :
    (reading.add found capabilities).declarations.providers =
      (Capability.attachAll (reading.waiting ++ capabilities)
        (reading.declarations.providers ++ found.providers)).1 :=
  rfl

@[simp] theorem add_waiting (found : Declarations) (capabilities : List Capability) :
    (reading.add found capabilities).waiting =
      (Capability.attachAll (reading.waiting ++ capabilities)
        (reading.declarations.providers ++ found.providers)).2 :=
  rfl

/-- What has been read accounts for these capabilities. -/
structure Sound (reading : Reading) (read : List Capability) : Prop where
  /-- Each of them either is held by a provider that it belongs to, or it waits. -/
  held : ∃ held, Held reading.declarations.providers held ∧ (held ++ reading.waiting).Perm read
  /-- Those that wait belong to no provider. -/
  homeless : ∀ capability ∈ reading.waiting, IsHomeless reading.declarations.providers capability

theorem sound_empty : Sound {} [] :=
  ⟨⟨[], ⟨[], .nil, .rfl⟩, .rfl⟩, by simp⟩

/-- Adding what was found keeps account of the capabilities that were found, and adds the providers. -/
theorem Sound.add (hsound : reading.Sound read) {found : Declarations}
    (hfound : ∀ provider ∈ found.providers, provider.capabilities = []) (capabilities : List Capability) :
    (reading.add found capabilities).Sound (read ++ capabilities) := by
  obtain ⟨held, hheld, hread⟩ := hsound.held
  obtain ⟨given, hgiven, hpending, hhomeless⟩ :=
    (hheld.append_bare hfound).attachAll (reading.waiting ++ capabilities)
  refine ⟨⟨given ++ held, hgiven, ?_⟩, fun capability hwaiting => ?_⟩
  · -- The order in which capabilities were given does not matter, so it is enough to count them.
    rw [List.perm_iff_count] at hread hpending ⊢
    intro capability
    have hread := hread capability
    have hpending := hpending capability
    simp only [List.count_append, add_waiting] at hread hpending ⊢
    omega
  · exact (hhomeless capability hwaiting).of_map_bare (Capability.map_bare_attachAll ..)

/-- The types of all capabilities that were read are those that providers have and those that wait. -/
theorem Sound.types_perm (hsound : reading.Sound read) :
    (reading.declarations.providers.flatMap Provider.capabilities ++
      reading.waiting.map Capability.type).Perm (read.map Capability.type) := by
  obtain ⟨held, ⟨parts, hparts, hflatten⟩, hread⟩ := hsound.held
  rw [Capability.flatMap_capabilities hparts, ← List.map_append]
  exact ((hflatten.append_right _).trans hread).map _

/-! ## Runs -/

/-- Reads files one after the other, and answers with those that were accepted. -/
def readFiles : List Source.File → StateM Reading (List Source.File)
  | [] => return []
  | file :: rest => do
      match ← (readItems file.package file.items).run with
      | .ok () => return file :: (← readFiles rest)
      | .error _ => readFiles rest

theorem readFiles_nil (reading : Reading) : (readFiles []).run reading = ([], reading) :=
  rfl

/-- A file that can be read is accepted, and the others are read on top of it. -/
theorem readFiles_of_ok {file : Source.File} {found : Declarations} {capabilities : List Capability}
    (hfile : Source.ofItems file.package file.items = .ok (found, capabilities))
    (rest : List Source.File) (reading : Reading) :
    (readFiles (file :: rest)).run reading =
      (file :: ((readFiles rest).run (reading.add found capabilities)).1,
        ((readFiles rest).run (reading.add found capabilities)).2) := by
  rw [readFiles, StateT.run_bind, readItems_run, hfile]
  rfl

/-- A file that cannot be read is passed over. -/
theorem readFiles_of_error {file : Source.File} {fault : MarkerFault}
    (hfile : Source.ofItems file.package file.items = .error fault) (rest : List Source.File)
    (reading : Reading) : (readFiles (file :: rest)).run reading = (readFiles rest).run reading := by
  rw [readFiles, StateT.run_bind, readItems_run, hfile]
  rfl

/-- What accepted files declare is added in their order. -/
structure Adds (reading next : Reading) (accepted : List Source.File) : Prop where
  aggregates : next.declarations.aggregates =
    reading.declarations.aggregates ++ accepted.flatMap (·.declarations.aggregates)
  aggregateNames : next.declarations.aggregates.map Aggregate.qualifiedName =
    reading.declarations.aggregates.map Aggregate.qualifiedName ++
      accepted.flatMap Source.File.aggregateNames
  enumerations : next.declarations.enumerations =
    reading.declarations.enumerations ++ accepted.flatMap (·.declarations.enumerations)
  providers : next.declarations.providers.map Provider.bare =
    reading.declarations.providers.map Provider.bare ++ accepted.flatMap Source.File.providers

theorem adds_nothing (reading : Reading) : Adds reading reading [] := by
  constructor <;> simp

/-- One more file in front. -/
theorem Adds.cons {file : Source.File} {found : Declarations} {capabilities : List Capability}
    (hfile : Source.ofItems file.package file.items = .ok (found, capabilities)) {next : Reading}
    {accepted : List Source.File} (hadds : Adds (reading.add found capabilities) next accepted) :
    Adds reading next (file :: accepted) := by
  have hfound := Source.ofItems_found hfile
  have hdeclarations := Source.File.declarations_of_ok hfile
  constructor
  case aggregates =>
    rw [hadds.aggregates, add_aggregates, List.flatMap_cons, hdeclarations, List.append_assoc]
  case aggregateNames =>
    have hnames : found.aggregates.map Aggregate.qualifiedName = file.aggregateNames := hfound.aggregates
    rw [hadds.aggregateNames, add_aggregates, List.map_append, hnames, List.flatMap_cons,
      List.append_assoc]
  case enumerations =>
    rw [hadds.enumerations, add_enumerations, List.flatMap_cons, hdeclarations, List.append_assoc]
  case providers =>
    have hbare : found.providers.map Provider.bare = file.providers := by
      rw [hfound.providers]
      exact Source.map_bare_providers file.package file.items
    rw [hadds.providers, add_providers, Capability.map_bare_attachAll, List.map_append, hbare,
      List.flatMap_cons, List.append_assoc]

/-- What is declared after a run is what the accepted files declare. -/
theorem adds_readFiles (files : List Source.File) (reading : Reading) :
    Adds reading ((readFiles files).run reading).2 ((readFiles files).run reading).1 := by
  induction files generalizing reading with
  | nil => exact adds_nothing reading
  | cons file rest ih =>
      cases hfile : Source.ofItems file.package file.items with
      | error fault =>
          rw [readFiles_of_error hfile]
          exact ih reading
      | ok found =>
          obtain ⟨declarations, capabilities⟩ := found
          rw [readFiles_of_ok hfile]
          exact (ih (reading.add declarations capabilities)).cons hfile

/-- Whatever files are read, the capabilities of those that were accepted are accounted for. -/
theorem Sound.readFiles (hsound : reading.Sound read) (files : List Source.File) :
    ((readFiles files).run reading).2.Sound
      (read ++ ((readFiles files).run reading).1.flatMap Source.File.implementations) := by
  induction files generalizing reading read with
  | nil =>
      rw [readFiles_nil, List.flatMap_nil, List.append_nil]
      exact hsound
  | cons file rest ih =>
      cases hfile : Source.ofItems file.package file.items with
      | error fault =>
          rw [readFiles_of_error hfile]
          exact ih hsound
      | ok found =>
          obtain ⟨declarations, capabilities⟩ := found
          have hfound := Source.ofItems_found hfile
          have hbare : ∀ provider ∈ declarations.providers, provider.capabilities = [] := by
            rw [hfound.providers]
            exact fun provider => Source.capabilities_of_mem_providers
          have hread : file.implementations = capabilities := hfound.capabilities.symm
          rw [readFiles_of_ok hfile, List.flatMap_cons, hread, ← List.append_assoc]
          exact ih (hsound.add hbare capabilities)

/-- Files may be read in any number, whether they are refused or not.

A file that is refused leaves what has been read as it was.  After every file there is a provider for each struct of
the accepted ones.  The capabilities of these files, one for each implementation of a trait for a path, are those
that providers have together with those that wait, each as often as it was read.  Every provider has the capabilities
of implementations that match it, and none of those that wait matches a provider. -/
theorem readFiles_sound (files : List Source.File) :
    let accepted := ((readFiles files).run {}).1
    let reading := ((readFiles files).run {}).2
    let read := accepted.flatMap Source.File.implementations
    (∀ package items fault, ((readItems package items).run.run reading).1 = .error fault →
        ((readItems package items).run.run reading).2 = reading) ∧
      reading.declarations.providers.map Provider.bare = accepted.flatMap Source.File.providers ∧
      (reading.declarations.providers.flatMap Provider.capabilities ++
        reading.waiting.map Capability.type).Perm (read.map Capability.type) ∧
      (∃ parts, List.Forall₂ (fun (provider : Provider) held =>
            provider.capabilities = held.map Capability.type ∧ ∀ capability ∈ held, capability.Matches provider)
          reading.declarations.providers parts ∧
        (parts.flatten ++ reading.waiting).Perm read) ∧
      ∀ capability ∈ reading.waiting, ∀ provider ∈ reading.declarations.providers, ¬capability.Matches provider := by
  intro accepted reading read
  have hsound : reading.Sound read := sound_empty.readFiles files
  refine ⟨fun package items fault herror => ?_, (adds_readFiles files {}).providers, hsound.types_perm, ?_, ?_⟩
  · rw [readItems_run] at herror ⊢
    cases hfound : Source.ofItems package items with
    | ok found =>
        rw [hfound] at herror
        cases herror
    | error fault => rfl
  · obtain ⟨held, ⟨parts, hparts, hflatten⟩, hread⟩ := hsound.held
    refine ⟨parts, hparts.imp fun provider part hpart => ⟨hpart.capabilities, fun capability hcapability => ?_⟩,
      (hflatten.append_right _).trans hread⟩
    exact Capability.belongsTo_iff.mp (hpart.belongs capability hcapability)
  · intro capability hwaiting provider hprovider
    rw [← Capability.belongsTo_iff, Bool.not_eq_true]
    exact hsound.homeless capability hwaiting provider hprovider

end Reading

end BuilderGen
