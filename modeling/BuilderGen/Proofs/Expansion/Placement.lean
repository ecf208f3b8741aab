import BuilderGen.Expansion.Basic
import BuilderGen.Proofs.Expansion.Growth
import BuilderGen.Proofs.Round.Order
import BuilderGen.Proofs.Source.Calls

/-!
# Where an expansion puts the builders

An expansion reads a module, runs a round over its declarations, and goes from the package of every builder back to
a list of items.  The three steps fit together: as long as no module with aggregates stands behind another one of its
name, every builder stands behind the items among which its aggregate is declared.  An aggregate without a builder
there is the subject of one error, and no builder is left over for want of a module.
-/

namespace BuilderGen

open Grammar (Item ModuleHead)
open Token (braces brackets op parens quoted)

namespace Expansion

/-! ## What becomes of an aggregate -/

/-- The wording of the warnings among reports. -/
def warningMessages (reports : List Diagnostic) : List String :=
  (reports.filter (!·.isError)).map Diagnostic.message

/-- The wording of the errors among reports. -/
def errorMessages (reports : List Diagnostic) : List String :=
  (reports.filter (·.isError)).map Diagnostic.message

/-- What becomes of an aggregate: the items of its builder, or the wording of what is wrong. -/
def outcome (settings : Settings) (made : Aggregate → Except Fault Builder) (aggregate : Aggregate) :
    Except String (List Item) :=
  (made aggregate).mapError Fault.message >>= builderItems settings

/-- The items that belong to an aggregate. -/
def rendered (settings : Settings) (made : Aggregate → Except Fault Builder) (aggregate : Aggregate) :
    Option (List Item) :=
  (outcome settings made aggregate).toOption

/-- What is wrong with aggregates, one wording for each that nothing belongs to. -/
def complaints (settings : Settings) (made : Aggregate → Except Fault Builder) (aggregates : List Aggregate) :
    List String :=
  aggregates.filterMap fun aggregate =>
    match outcome settings made aggregate with
    | .ok _ => none
    | .error message => some message

/-! ## Printed messages -/

/-- `const _: () = { #[deprecated(note = "optbuilder: …")] struct OptbuilderWarning; let _ = OptbuilderWarning; };` -/
def noteCode (message : String) : List Token :=
  [.word "const", .word "_"] ++ op ":" ++ [parens []] ++ op "=" ++
    [braces (op "#" ++ [brackets [.word "deprecated",
          parens ([.word "note"] ++ op "=" ++ [quoted ("optbuilder: " ++ message)])]] ++
      [.word "struct", .word "OptbuilderWarning"] ++ op ";" ++
      [.word "let", .word "_"] ++ op "=" ++ [.word "OptbuilderWarning"] ++ op ";")] ++ op ";"

/-- `::core::compile_error! { "…" }` -/
def errorCode (message : String) : List Token :=
  op "::" ++ [.word "core"] ++ op "::" ++ [.word "compile_error"] ++ op "!" ++ [braces [quoted message]]

/-- Behind the module stand a constant for each warning and an error for each fault, in order. -/
theorem tokens_eq (expansion : Expansion) :
    expansion.tokens = (Item.module expansion.head expansion.items).tokens ++
      (expansion.warnings.map noteCode).flatten ++ (expansion.errors.map errorCode).flatten := by
  rw [tokens, List.flatMap_def, List.flatMap_def]
  rfl

/-! ## Reports -/

theorem foldl_report (reports : List Diagnostic) (expansion : Expansion) :
    reports.foldl report expansion =
      { expansion with
        warnings := expansion.warnings ++ warningMessages reports
        errors := expansion.errors ++ errorMessages reports } := by
  induction reports generalizing expansion with
  | nil => simp [warningMessages, errorMessages]
  | cons diagnostic rest ih =>
      rw [List.foldl_cons, ih]
      cases herror : diagnostic.isError <;>
        simp [report, herror, warningMessages, errorMessages]

/-! ## Placing -/

section Placing

variable {settings : Settings} {made : Aggregate → Except Fault Builder}

/-- Placing a builder adds its items to the list that its package leads to. -/
theorem place_of_ok {expansion : Expansion} {builder : Builder} {added grown : List Item} {path : List String}
    (hitems : builderItems settings builder = .ok added)
    (hsegments : Placement.segments? expansion.head.name builder.package = some path)
    (hgrown : Placement.addAt? added path expansion.items = some grown) :
    place settings expansion builder = { expansion with items := grown } := by
  have hadd : Placement.add? expansion.head.name builder.package added expansion.items = some grown := by
    rw [Placement.add?, hsegments]
    exact hgrown
  rw [place, hitems]
  dsimp only
  rw [hadd]

/-- A builder that cannot be rendered is the subject of an error. -/
theorem place_of_error {builder : Builder} {message : String}
    (hitems : builderItems settings builder = .error message) (expansion : Expansion) :
    place settings expansion builder = { expansion with errors := expansion.errors ++ [message] } := by
  rw [place, hitems]

/-- Placing the builders of located aggregates adds their items one after the other.  What cannot be rendered is
the subject of an error. -/
theorem foldl_place {places : List (List String × Aggregate)} {head : ModuleHead}
    (hpackage : ∀ aggregate builder, made aggregate = .ok builder → builder.package = aggregate.package)
    (hplaces : ∀ place ∈ places, Placement.segments? head.name place.2.package = some place.1)
    {items grown : List Item} (hgrown : addAll (rendered settings made) places items = some grown)
    (warnings errors : List String) :
    ((places.map Prod.snd).filterMap fun aggregate => (made aggregate).toOption).foldl (place settings)
        { head, items, warnings, errors } =
      { head, items := grown, warnings
        errors := errors ++
          complaints settings made ((places.map Prod.snd).filter fun aggregate => (made aggregate).isOk) } := by
  induction places generalizing items errors with
  | nil =>
      cases hgrown
      simp [complaints]
  | cons entry places ih =>
      obtain ⟨path, aggregate⟩ := entry
      obtain ⟨hsegments, hrest⟩ := List.forall_mem_cons.mp hplaces
      rw [List.map_cons, List.filter_cons]
      rw [addAll] at hgrown
      cases hmade : made aggregate with
      | error fault =>
          have hnothing : rendered settings made aggregate = none := by
            rw [rendered, outcome, hmade]
            rfl
          rw [hnothing] at hgrown
          rw [if_neg (by simp [Except.isOk, Except.toBool]), List.filterMap_cons_none (by rw [hmade]; rfl)]
          exact ih hrest hgrown errors
      | ok builder =>
          have houtcome : outcome settings made aggregate = builderItems settings builder := by
            rw [outcome, hmade]
            rfl
          have hok : (Except.ok builder : Except Fault Builder).isOk = true := rfl
          rw [if_pos hok, List.filterMap_cons_some (by rw [hmade]; rfl), List.foldl_cons]
          cases hitems : builderItems settings builder with
          | error message =>
              rw [rendered, houtcome, hitems] at hgrown
              rw [place_of_error hitems, ih hrest hgrown, complaints, complaints,
                List.filterMap_cons_some (by rw [houtcome, hitems]), List.append_assoc, List.singleton_append]
          | ok added =>
              rw [rendered, houtcome, hitems] at hgrown
              obtain ⟨next, hnext, hgrown⟩ := Option.bind_eq_some_iff.mp hgrown
              rw [← hpackage aggregate builder hmade] at hsegments
              rw [place_of_ok hitems hsegments hnext, ih hrest hgrown, complaints, complaints,
                List.filterMap_cons_none (by rw [houtcome, hitems])]

end Placing

end Expansion

/-- The builder of an aggregate belongs to the module of the aggregate. -/
theorem Aggregate.package_of_generate {aggregate : Aggregate} {registry : Registry}
    {enumerations : List Enumeration} {builder : Builder}
    (h : aggregate.generate registry enumerations = .ok builder) : builder.package = aggregate.package := by
  obtain ⟨_, _, _, rfl⟩ := Aggregate.generate_eq_ok h
  rfl

namespace Expansion

/-! ## Errors -/

section Errors

variable {settings : Settings} {made : Aggregate → Except Fault Builder}

theorem warningMessages_of_notes {providers : List Provider} {notes failures : List Diagnostic}
    (hnotes : ∀ note ∈ notes, Registry.IsNote providers note)
    (hfailures : ∀ report ∈ failures, report.isError = true) :
    warningMessages (notes ++ failures) = notes.map Diagnostic.message ∧
      errorMessages (notes ++ failures) = failures.map Diagnostic.message := by
  have hwarnings : notes.filter (!·.isError) = notes :=
    List.filter_eq_self.mpr fun note hnote => by simp [(hnotes note hnote).isError]
  have hsilent : notes.filter (·.isError) = [] :=
    List.filter_eq_nil_iff.mpr fun note hnote => by simp [(hnotes note hnote).isError]
  have hnone : failures.filter (!·.isError) = [] :=
    List.filter_eq_nil_iff.mpr fun report hreport => by simp [hfailures report hreport]
  have herrors : failures.filter (·.isError) = failures := List.filter_eq_self.mpr hfailures
  rw [warningMessages, errorMessages, List.filter_append, List.filter_append, hwarnings, hsilent, hnone, herrors,
    List.append_nil, List.nil_append]
  exact ⟨rfl, rfl⟩

/-- The errors that a round reports say what is wrong with the aggregates that failed. -/
theorem messages_of_accounts {aggregates : List Aggregate} {round : Round} {failures : List Diagnostic}
    (haccounts : Round.Accounts made aggregates round failures) :
    failures.map Diagnostic.message =
      complaints settings made (aggregates.filter fun aggregate => !(made aggregate).isOk) := by
  have hfailures := haccounts.failures
  generalize aggregates.filter (fun aggregate => !(made aggregate).isOk) = failed at hfailures
  clear haccounts
  induction hfailures with
  | nil => rfl
  | @cons aggregate report failed failures hreport _ ih =>
      obtain ⟨fault, hmade, hreports⟩ := hreport
      have houtcome : outcome settings made aggregate = .error fault.message := by
        rw [outcome, hmade]
        rfl
      rw [List.map_cons, ih, hreports.message, complaints, complaints,
        List.filterMap_cons_some (by rw [houtcome])]

end Errors

/-! ## Expansions -/

variable {settings : Settings} {head : ModuleHead} {items : List Item} {reading : Reading}

/-- What a round reports is repeated, and its builders are placed.  A round that stops leaves none. -/
theorem ofModule_of_run (hread : Reading.ofItems head.name items = .ok reading) {reports : List Diagnostic}
    {outcome : Except Fault Round} (hrun : Round.run settings reading.declarations = (reports, outcome)) :
    ofModule settings (.module head items) = .ok (((outcome.toOption.map Round.builders).getD []).foldl (place settings)
      { head
        items := Strip.items items
        warnings := warningMessages reports
        errors := errorMessages reports }) := by
  rw [ofModule, ofItems, hread]
  dsimp only [bind, Except.bind]
  rw [hrun, foldl_report]
  cases outcome <;> rfl

/-- Every list of items grows by the builders of the aggregates in it.

A round that stops leaves the items without their markers, and one error.  When the round completes, every list of
items is there without markers, in order, and behind it are the items of the builders whose aggregates are declared
directly in this list, in their order.  There is one error for each aggregate without such items: first for those
that have no builder, then for those whose builder cannot be rendered.  The warnings are those of the round.

The aggregates of the round are the structs and enums with the builder marker in the module, at any depth.  In the
tokens a constant for each warning and an error for each fault stand behind the module. -/
theorem ofModule_grows (hread : Reading.ofItems head.name items = .ok reading) (hplain : Source.plain items = true)
    (hreachable : reachable head.name [] items = true) :
    ((∃ fault, (Round.run settings reading.declarations).2 = .error fault ∧
        ofModule settings (.module head items) = .ok
          { head
            items := Strip.items items
            warnings := warningMessages (Round.run settings reading.declarations).1
            errors := [fault.message] }) ∨
      ∃ made round, Round.Completes settings reading.declarations made round ∧
        ofModule settings (.module head items) = .ok
          { head
            items := grow (rendered settings made) head.name items
            warnings := warningMessages (Round.run settings reading.declarations).1
            errors :=
              complaints settings made (reading.declarations.aggregates.filter fun aggregate =>
                  !(made aggregate).isOk) ++
                complaints settings made (reading.declarations.aggregates.filter fun aggregate =>
                  (made aggregate).isOk) }) ∧
      reading.declarations.aggregates = (Source.locate head.name items).map Prod.snd ∧
      ∀ expansion, ofModule settings (.module head items) = .ok expansion →
        expansion.tokens = (Item.module expansion.head expansion.items).tokens ++
          (expansion.warnings.map noteCode).flatten ++ (expansion.errors.map errorCode).flatten := by
  obtain ⟨found, capabilities, hitems, hreading⟩ := Reading.extend_eq_ok hread
  have haggregates : reading.declarations.aggregates = (Source.locate head.name items).map Prod.snd := by
    rw [hreading, Reading.add_aggregates]
    exact Source.ofItems_aggregates hitems
  refine ⟨?_, haggregates, fun expansion _ => expansion.tokens_eq⟩
  obtain ⟨notes, hnotes, ⟨registry, hbuild⟩ | ⟨report, fault, provider, _, hreport, hbuild⟩⟩ :=
    Registry.build_reports settings reading.declarations.providers
  · right
    obtain ⟨round, failures, hrun, haccounts⟩ := Round.run_of_build_ok hbuild
    have herrors := (warningMessages_of_notes hnotes fun _ => haccounts.isError).2
    have hplaces : ∀ place ∈ Source.locate head.name items,
        Placement.segments? head.name place.2.package = some place.1 := by
      intro place hplace
      have hlocated := Source.located_of_mem_locate hplain place hplace
      rw [hlocated.package, Placement.segments?_foldl_qualify head.name hlocated.segments]
    refine ⟨(·.generate registry reading.declarations.enumerations), round,
      ⟨⟨registry, by rw [hbuild], fun _ => rfl⟩, notes, failures, hrun, hnotes, haccounts⟩, ?_⟩
    rw [ofModule_of_run hread hrun, hrun, Except.toOption, Option.map_some, Option.getD_some, haccounts.builders_eq,
      haggregates, foldl_place (fun _ _ => Aggregate.package_of_generate) hplaces (addAll_eq_grow hreachable),
      herrors, messages_of_accounts haccounts, haggregates]
  · left
    have hstops := Round.run_of_build_error hbuild
    have herror : ∀ other ∈ [report], other.isError = true := by
      simpa using hreport.isError
    refine ⟨fault, by rw [hstops], ?_⟩
    rw [ofModule_of_run hread hstops, hstops, (warningMessages_of_notes hnotes herror).2, List.map_singleton,
      hreport.message]
    rfl

end Expansion

/-! ## A sample -/

namespace Shop

/-- A struct with the builder marker, and with one field. -/
def markedStruct (name field : String) : Item :=
  .struct
    { attributes := [{ path := { names := ["builder"] }, body := .bare }]
      visibility := .everywhere
      name
      generics := []
      constraints := []
      fields := .named
        [{ attributes := [], visibility := .everywhere, name := some field, type := .path false [.mk "u8" .none],
           comma := false }] }

/-- A module of the shop, apart from its items. -/
def moduleHead (name : String) : ModuleHead :=
  { attributes := [], innerAttributes := [], visibility := .everywhere, isUnsafe := false, name }

/-- An order, and a module with a bolt. -/
def shelves : List Item :=
  [markedStruct "Order" "size", .module (moduleHead "parts") [markedStruct "Bolt" "width"]]

/-- The builders of an order and of a bolt stand beside them. -/
theorem shelves_grow :
    ∃ reading made round, Reading.ofItems "shop" shelves = .ok reading ∧
      Round.Completes {} reading.declarations made round ∧
      ∃ expansion, Expansion.ofModule {} (.module (moduleHead "shop") shelves) = .ok expansion ∧
        expansion.items = Expansion.grow (Expansion.rendered {} made) "shop" shelves := by
  have hruns : ((Reading.ofItems "shop" shelves).map fun reading =>
      (Round.run {} reading.declarations).2.isOk).toOption = some true := by
    decide +kernel
  obtain ⟨reading, hread, hround⟩ := map_eq_ok.mp (toOption_eq_some.mp hruns)
  obtain ⟨hgrows, -⟩ :=
    @Expansion.ofModule_grows {} (moduleHead "shop") shelves reading hread (by decide) (by decide)
  rcases hgrows with ⟨fault, hfault, _⟩ | ⟨made, round, hcompletes, hexpansion⟩
  · rw [hfault] at hround
    cases hround
  · exact ⟨reading, made, round, hread, hcompletes, _, hexpansion, rfl⟩

/-- Two modules of one name, of which the second has an order. -/
def twins : List Item :=
  [.module (moduleHead "parts") [], .module (moduleHead "parts") [markedStruct "Order" "size"]]

/-- The number of items in each module with a body. -/
def bodyLengths (items : List Item) : List Nat :=
  items.filterMap fun item =>
    match item with
    | .module _ inner => some inner.length
    | _ => none

/-- The builder of the order stands in the first of two modules of one name, and not beside the order. -/
theorem twins_misplaced :
    ∃ reading made round, Reading.ofItems "shop" twins = .ok reading ∧
      Round.Completes {} reading.declarations made round ∧
      ∃ expansion, Expansion.ofModule {} (.module (moduleHead "shop") twins) = .ok expansion ∧
        expansion.errors = [] ∧ bodyLengths expansion.items = [3, 1] ∧
        bodyLengths (Expansion.grow (Expansion.rendered {} made) "shop" twins) = [0, 4] := by
  have hrun : ((Reading.ofItems "shop" twins).toOption.bind fun reading =>
      (Registry.build {} reading.declarations.providers).2.toOption.bind fun registry =>
        (Expansion.ofModule {} (.module (moduleHead "shop") twins)).toOption.map fun expansion =>
          (expansion.errors, bodyLengths expansion.items,
            bodyLengths (Expansion.grow (Expansion.rendered {} fun aggregate =>
              aggregate.generate registry reading.declarations.enumerations) "shop" twins))) =
      some ([], [3, 1], [0, 4]) := by
    decide +kernel
  obtain ⟨reading, hread, hrun⟩ := Option.bind_eq_some_iff.mp hrun
  obtain ⟨registry, hbuild, hrun⟩ := Option.bind_eq_some_iff.mp hrun
  obtain ⟨expansion, hexpansion, hrun⟩ := Option.map_eq_some_iff.mp hrun
  obtain ⟨round, hround⟩ := Round.completes_of_build (toOption_eq_some.mp hbuild)
  rw [Prod.mk.injEq, Prod.mk.injEq] at hrun
  exact ⟨reading, _, round, toOption_eq_some.mp hread, hround, expansion, toOption_eq_some.mp hexpansion, hrun⟩

end Shop

end BuilderGen
