import BuilderGen.Proofs.Round.Legible
import BuilderGen.Proofs.Source.Described
import BuilderGen.Proofs.Source.Malformed
import BuilderGen.Proofs.Source.References

/-!
# Readings of well-named items are legible

Reading joins the names in items to packages, to the paths of constructors and to the scopes of visibilities.  As long
as the types of the fields and their default expressions can be read again as they are printed, everything that is read
of well-named items is legible.
-/

namespace BuilderGen

open Grammar

namespace Source

/-! ## Fields that can be printed -/

/-- Whether the type of a field and its default expression are read again as they are printed. -/
def readsBack (field : FieldTree) : Bool :=
  (field.type.parts.all fun part => part.readsBack) &&
    match Marker.marking field.attributes with
    | .ok (.initializer (some text)) => (expressionOfText? text).isOk
    | _ => true

/-- A field that is read again as it is printed.  The name `_` stands for no field. -/
structure Printable (field : FieldTree) : Prop where
  name : field.name ≠ some "_"
  text : readsBack field = true

section Printable

variable {field : FieldTree}

theorem Printable.type (h : Printable field) : ∀ part ∈ field.type.parts, part.readsBack = true := by
  have htext := h.text
  rw [readsBack, Bool.and_eq_true] at htext
  exact List.all_eq_true.mp htext.1

theorem Printable.initial (h : Printable field) {text : String}
    (hmarking : Marker.marking field.attributes = .ok (.initializer (some text))) :
    ∃ tokens, expressionOfText? text = .ok tokens := by
  have htext := h.text
  rw [readsBack, hmarking, Bool.and_eq_true, isOk_iff] at htext
  exact htext.2

end Printable

/-- The fields of a struct or of the variants of an enum. -/
def fieldsOf : Item → List FieldTree
  | .struct item => item.fields.toList
  | .enum item => item.variants.flatMap fun variant => variant.fields.toList
  | .module _ _ | .impl _ | .outline _ | .other _ => []

/-- The fields of the structs and enums among items, also inside of modules. -/
def fields (items : List Item) : List FieldTree :=
  (placed "" items).flatMap fun place => fieldsOf place.2

mutual

/-- The items inside of a module are the same wherever it stands. -/
theorem map_snd_placedItem (package other : String) (item : Item) :
    (placedItem package item).map Prod.snd = (placedItem other item).map Prod.snd := by
  cases item with
  | module head items => exact map_snd_placed _ _ items
  | struct _ | enum _ | impl _ | outline _ | other _ => rfl

theorem map_snd_placed (package other : String) (items : List Item) :
    (placed package items).map Prod.snd = (placed other items).map Prod.snd := by
  cases items with
  | nil => rfl
  | cons item rest =>
      rw [placed, placed, List.map_append, List.map_append, map_snd_placedItem package other item,
        map_snd_placed package other rest]

end

theorem mem_fields {package : String} {items : List Item} {field : FieldTree} :
    field ∈ fields items ↔ ∃ place ∈ placed package items, field ∈ fieldsOf place.2 := by
  have hplaced : ∀ module, (placed module items).flatMap (fun place => fieldsOf place.2) =
      ((placed module items).map Prod.snd).flatMap fieldsOf := fun module => by rw [List.flatMap_map]
  rw [fields, hplaced, map_snd_placed "" package, ← hplaced, List.mem_flatMap]

/-! ## Parts of declarations -/

theorem readable_visibility {tree : VisibilityTree} (h : tree.WellNamed) : (visibility tree).Readable := by
  cases tree with
  | everywhere | inherited => trivial
  | restricted inside scope =>
      rw [visibility]
      split
      · trivial
      · cases inside with
        | true => exact ⟨_, h.visibilityOfText?⟩
        | false =>
            obtain ⟨word, hword, rfl⟩ := h
            simp only [List.mem_cons, List.not_mem_nil, or_false] at hword
            rw [Visibility.Readable, ← isOk_iff]
            rcases hword with rfl | rfl | rfl <;> decide +kernel

section Fields

variable {field : FieldTree} {name : String}

theorem legible_parameter (hnamed : field.WellNamed) (hprintable : Printable field) (hname : field.name = some name)
    {found : Parameter} (h : parameter name field = .ok found) : found.Legible := by
  obtain ⟨setter, hsetter, h⟩ := bind_eq_ok.mp h
  obtain ⟨marking, hmarking, h⟩ := bind_eq_ok.mp h
  obtain rfl := pure_eq_ok.mp h
  have hsound : ∀ part ∈ field.type.parts, TypeView.isSound part = true := by
    intro part hpart
    rw [TypeView.isSound, hnamed.type part hpart, hprintable.type part hpart]
    rfl
  constructor
  case name =>
    rcases hnamed.name name hname with h | rfl
    · exact h
    · exact absurd hname hprintable.name
  case type => exact (TypeView.legible_ofTree hsound).1
  case setter =>
    rintro requested rfl
    exact Marker.isRequest_of_setter? hsetter
  case initial =>
    rintro text rfl
    exact hprintable.initial hmarking
  case reference =>
    rintro reference rfl
    exact Marker.namesPath_of_marking hnamed.attributes hmarking reference rfl

theorem legible_parameters {fields : FieldsTree} (hnamed : ∀ field ∈ fields.toList, field.WellNamed)
    (hprintable : ∀ field ∈ fields.toList, Printable field) {found : List Parameter}
    (h : parameters fields = .ok found) : ∀ parameter ∈ found, parameter.Legible := by
  intro found hfound
  obtain ⟨⟨name, field⟩, hmem, hparameter⟩ := exists_of_forall₂_of_mem (mapM_eq_ok.mp h) hfound
  obtain ⟨source, hsource, hsome⟩ := List.mem_filterMap.mp hmem
  obtain ⟨same, hname, heq⟩ := Option.map_eq_some_iff.mp hsome
  obtain ⟨rfl, rfl⟩ := Prod.mk.inj heq
  exact legible_parameter (hnamed source hsource) (hprintable source hsource) hname hparameter

end Fields

theorem isPathText_variant {item variant : String} (hitem : isIdentifier item = true)
    (hvariant : isIdentifier variant = true) : IsPathText (item ++ "::" ++ variant) := by
  obtain ⟨written, hwritten, rfl⟩ := isPathText_of_isIdentifier hitem
  rw [hwritten.text_concat]
  exact ⟨_, hwritten.concat (isSegmentName_of_isIdentifier hvariant), rfl⟩

/-! ## Items -/

section Items

variable {package : String}

/-- An aggregate is legible when its name, its visibility and its constructors are. -/
theorem AggregatesRead.legible {name : String} {attributes : List Attribute} {seen : VisibilityTree} {generic : Bool}
    {constructors : Except MarkerFault (List Constructor)} {aggregates : List Aggregate}
    (h : AggregatesRead package name attributes seen generic constructors aggregates)
    (hname : isIdentifier name = true) (hvisibility : seen.WellNamed)
    (hconstructors : ∀ found, constructors = .ok found → ∀ constructor ∈ found, constructor.Legible) :
    ∀ aggregate ∈ aggregates, aggregate.Legible := by
  cases h with
  | unmarked _ => exact nofun
  | marked hmarker hfound =>
      refine List.forall_mem_singleton.mpr ?_
      constructor
      case name => exact hname
      case visibility => exact readable_visibility hvisibility
      case builderName =>
        rintro name rfl
        exact Marker.isRequest_of_builder? hmarker
      case constructors => exact hconstructors _ hfound

theorem legible_structConstructors {item : StructTree} (hnamed : item.WellNamed)
    (hprintable : ∀ field ∈ item.fields.toList, Printable field) {constructors : List Constructor}
    (h : structConstructors item = .ok constructors) : ∀ constructor ∈ constructors, constructor.Legible := by
  unfold structConstructors at h
  split at h
  · obtain ⟨parameters, hparameters, rfl⟩ := map_eq_ok.mp h
    exact List.forall_mem_singleton.mpr
      ⟨isPathText_of_isIdentifier hnamed.name, legible_parameters hnamed.fields hprintable hparameters⟩
  · cases h
    exact nofun
  · cases h
    exact nofun

theorem legible_ofStruct (hpackage : IsModulePath package) {item : StructTree} (hnamed : item.WellNamed)
    (hprintable : ∀ field ∈ item.fields.toList, Printable field) {found : Declarations}
    (h : ofStruct package item = .ok found) : found.Legible := by
  have hread := ofStruct_eq_ok h
  constructor
  case aggregates =>
    exact hread.aggregates.legible hnamed.name hnamed.visibility fun _ =>
      legible_structConstructors hnamed hprintable
  case providers =>
    rw [hread.providers]
    exact List.forall_mem_singleton.mpr ⟨hnamed.name, hpackage⟩
  case enumerations =>
    rw [hread.enumerations]
    exact nofun

theorem legible_enumConstructors {item : EnumTree} (hnamed : item.WellNamed)
    (hprintable : ∀ variant ∈ item.variants, ∀ field ∈ variant.fields.toList, Printable field)
    {constructors : List Constructor} (h : enumConstructors item = .ok constructors) :
    ∀ constructor ∈ constructors, constructor.Legible := by
  intro constructor hconstructor
  unfold enumConstructors at h
  split at h
  · obtain ⟨variant, hvariant, hfound⟩ := exists_of_forall₂_of_mem (mapM_eq_ok.mp h) hconstructor
    obtain ⟨parameters, hparameters, rfl⟩ := map_eq_ok.mp hfound
    have hvariantNamed := hnamed.variants variant hvariant
    exact ⟨isPathText_variant hnamed.name hvariantNamed.name,
      legible_parameters hvariantNamed.fields (hprintable variant hvariant) hparameters⟩
  · cases h
    cases hconstructor

theorem legible_enumerationsOf {item : EnumTree} (hnamed : item.WellNamed) :
    ∀ enumeration ∈ enumerationsOf package (.enum item), enumeration.Legible := by
  rw [enumerationsOf]
  split
  · refine List.forall_mem_singleton.mpr ?_
    exact List.forall_mem_map.mpr fun variant hvariant => (hnamed.variants variant hvariant).name
  · exact nofun

theorem legible_ofEnum {item : EnumTree} (hnamed : item.WellNamed)
    (hprintable : ∀ variant ∈ item.variants, ∀ field ∈ variant.fields.toList, Printable field)
    {found : Declarations} (h : ofEnum package item = .ok found) : found.Legible := by
  have hread := ofEnum_eq_ok h
  constructor
  case aggregates =>
    exact hread.aggregates.legible hnamed.name hnamed.visibility fun _ =>
      legible_enumConstructors hnamed hprintable
  case providers =>
    rw [hread.providers]
    exact nofun
  case enumerations =>
    rw [hread.enumerations]
    exact legible_enumerationsOf hnamed

end Items

/-- Legible declarations beside others. -/
theorem legible_append {first second : Declarations} (hfirst : first.Legible) (hsecond : second.Legible) :
    (first ++ second).Legible where
  aggregates := List.forall_mem_append.mpr ⟨hfirst.aggregates, hsecond.aggregates⟩
  providers := List.forall_mem_append.mpr ⟨hfirst.providers, hsecond.providers⟩
  enumerations := List.forall_mem_append.mpr ⟨hfirst.enumerations, hsecond.enumerations⟩

theorem legible_empty : Declarations.Legible {} :=
  ⟨nofun, nofun, nofun⟩

mutual

theorem legible_ofItem {package : String} (hpackage : IsModulePath package) {item : Item} (hnamed : item.WellNamed)
    (hprintable : ∀ place ∈ placedItem package item, ∀ field ∈ fieldsOf place.2, Printable field)
    {found : Declarations × List Capability} (h : ofItem package item = .ok found) : found.1.Legible := by
  cases item with
  | struct tree =>
      obtain ⟨declarations, hdeclarations, rfl⟩ := map_eq_ok.mp h
      exact legible_ofStruct hpackage hnamed (List.forall_mem_singleton.mp hprintable) hdeclarations
  | enum tree =>
      obtain ⟨declarations, hdeclarations, rfl⟩ := map_eq_ok.mp h
      refine legible_ofEnum hnamed (fun variant hvariant field hfield => ?_) hdeclarations
      exact List.forall_mem_singleton.mp hprintable field (List.mem_flatMap.mpr ⟨variant, hvariant, hfield⟩)
  | module head items => exact legible_ofItems (hpackage.qualify hnamed.1) hnamed.2 hprintable h
  | impl _ | outline _ | other _ =>
      cases h
      exact legible_empty

/-- What is read of well-named items with fields that can be printed is legible. -/
theorem legible_ofItems {package : String} (hpackage : IsModulePath package) {items : List Item}
    (hnamed : WellNamedItems items)
    (hprintable : ∀ place ∈ placed package items, ∀ field ∈ fieldsOf place.2, Printable field)
    {found : Declarations × List Capability} (h : ofItems package items = .ok found) : found.1.Legible := by
  cases items with
  | nil =>
      cases h
      exact legible_empty
  | cons item rest =>
      obtain ⟨first, others, hfirst, hothers, rfl⟩ := ofItems_cons_eq_ok h
      obtain ⟨hitem, hrest⟩ := List.forall_mem_append.mp hprintable
      exact legible_append (legible_ofItem hpackage hnamed.1 hitem hfirst)
        (legible_ofItems hpackage hnamed.2 hrest hothers)

end

end Source

/-- Capabilities do not change what is legible about a provider. -/
theorem Provider.legible_bare {provider : Provider} : provider.bare.Legible ↔ provider.Legible :=
  ⟨fun h => ⟨h.name, h.package⟩, fun h => ⟨h.name, h.package⟩⟩

/-- Items with well-formed markers can be read into a reading. -/
theorem Reading.exists_ofItems {items : List Item} (package : String) (hmarked : Source.wellMarked items = true) :
    ∃ reading, Reading.ofItems package items = .ok reading := by
  obtain ⟨found, hfound⟩ := Source.exists_ofItems package hmarked
  rw [Reading.ofItems, extend, readItems_run, hfound]
  exact ⟨_, rfl⟩

/-- A reading of well-named items with fields that can be printed is legible. -/
theorem Reading.legible_ofItems {package : String} (hpackage : IsModulePath package) {items : List Item}
    (hnamed : WellNamedItems items) (hprintable : ∀ field ∈ Source.fields items, Source.Printable field)
    {reading : Reading} (h : Reading.ofItems package items = .ok reading) : reading.declarations.Legible := by
  obtain ⟨found, capabilities, hfound, rfl⟩ := extend_eq_ok h
  have hlegible : found.Legible := Source.legible_ofItems hpackage hnamed
    (fun place hplace field hfield => hprintable field (Source.mem_fields.mpr ⟨place, hplace, hfield⟩)) hfound
  constructor
  case aggregates => simpa using hlegible.aggregates
  case enumerations => simpa using hlegible.enumerations
  case providers =>
    intro provider hprovider
    rw [add_providers] at hprovider
    have hbare := List.mem_map_of_mem (f := Provider.bare) hprovider
    rw [Capability.map_bare_attachAll] at hbare
    obtain ⟨source, hsource, heq⟩ := List.mem_map.mp hbare
    have hmem : source ∈ found.providers := by simpa using hsource
    have hboth := Provider.legible_bare.mpr (hlegible.providers source hmem)
    rw [heq] at hboth
    exact Provider.legible_bare.mp hboth

/-! ## What is read is rendered -/

/-- Items that were read from texts are well named. -/
theorem Grammar.wellNamedItems_of_isRead {items : List Item} (hread : ∀ item ∈ items, item.IsRead) :
    WellNamedItems items :=
  wellNamedItems_iff.mpr fun item hitem => (hread item hitem).wellNamed

/-- Items with well-formed markers are read, and every builder of a round over what is read is rendered. -/
theorem Reading.renders_of_isRead {names : List String} {items : List Item}
    (hnames : ∀ name ∈ names, isIdentifier name = true) (hread : ∀ item ∈ items, item.IsRead)
    (hmarked : Source.wellMarked items = true)
    (hfields : ∀ field ∈ Source.fields items, field.name ≠ some "_")
    (htexts : ∀ field ∈ Source.fields items, Source.readsBack field = true) :
    ∃ reading, Reading.ofItems (Segments.join names) items = .ok reading ∧
      ∀ settings round cratePath, (Round.run settings reading.declarations).2 = .ok round →
        (∃ tokens, pathOfText? cratePath = .ok tokens) →
          ∀ builder ∈ round.builders, ∃ tokens, builder.render cratePath = .ok tokens := by
  have hpackage : IsModulePath (Segments.join names) :=
    ⟨names, rfl, fun name hname => by rw [isModuleName, hnames name hname, Bool.true_or]⟩
  obtain ⟨reading, hreading⟩ := exists_ofItems (Segments.join names) hmarked
  refine ⟨reading, hreading, fun settings round cratePath hrun hcrate => ?_⟩
  exact Round.exists_render
    (legible_ofItems hpackage (wellNamedItems_of_isRead hread)
      (fun field hfield => ⟨hfields field hfield, htexts field hfield⟩) hreading) hcrate hrun

/-! ## A sample -/

namespace Shop

/-- A module with a bolt, whose length is given by default. -/
def boltText : String :=
  "mod parts \x7b #[builder] pub(super) struct Bolt \x7b width: u8, " ++
    "#[optional(default = [3; 2])] length: [u8; 2] \x7d \x7d"

/-- The builder of a bolt that was read from a text is rendered. -/
theorem bolt_rendered :
    ∃ file reading round, fileOfText? boltText = .ok file ∧ Reading.ofItems "shop" file.items = .ok reading ∧
      (Round.run {} reading.declarations).2 = .ok round ∧ round.builders.length = 1 ∧
      ∀ builder ∈ round.builders, ∃ tokens, builder.render "::optbuilder" = .ok tokens := by
  have hsample : ((fileOfText? boltText).toOption.map fun file =>
      (Source.wellMarked file.items,
        (Source.fields file.items).all fun field => decide (field.name ≠ some "_") && Source.readsBack field,
        (Reading.ofItems "shop" file.items).toOption.bind fun reading =>
          (Round.run {} reading.declarations).2.toOption.map fun round => round.builders.length)) =
      some (true, true, some 1) := by
    decide +kernel
  obtain ⟨file, hfile, hsample⟩ := Option.map_eq_some_iff.mp hsample
  obtain ⟨hmarked, hsample⟩ := Prod.mk.inj hsample
  obtain ⟨hfields, hround⟩ := Prod.mk.inj hsample
  have hall : ∀ field ∈ Source.fields file.items, field.name ≠ some "_" ∧ Source.readsBack field = true :=
    fun field hfield => by simpa using List.all_eq_true.mp hfields field hfield
  have hcrate : ∃ tokens, pathOfText? "::optbuilder" = .ok tokens := by
    rw [← isOk_iff]
    decide +kernel
  obtain ⟨reading, hreading, hrenders⟩ := @Reading.renders_of_isRead ["shop"] file.items (by decide +kernel)
    (fun item hitem => .ofFile (toOption_eq_some.mp hfile) hitem) hmarked (fun field hfield => (hall field hfield).1)
    fun field hfield => (hall field hfield).2
  obtain ⟨same, hsame, hround⟩ := Option.bind_eq_some_iff.mp hround
  obtain ⟨round, hround, hlength⟩ := Option.map_eq_some_iff.mp hround
  cases hreading.symm.trans (toOption_eq_some.mp hsame)
  have hrun := toOption_eq_some.mp hround
  exact ⟨file, reading, round, toOption_eq_some.mp hfile, hreading, hrun, hlength,
    hrenders {} round "::optbuilder" hrun hcrate⟩

end Shop

end BuilderGen
