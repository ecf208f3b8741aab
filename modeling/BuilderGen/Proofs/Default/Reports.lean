import BuilderGen.Default.Registry
import BuilderGen.Proofs.Success

/-!
# What entering providers reports

A provider that does not fit is either noted, and the next one is entered, or it stops the registry.  So the
reports of a registry that was built are warnings.  When building stops, one error follows the warnings, and
it reports the fault that stopped it.
-/

namespace BuilderGen

/-- A report of a fault at a declaration: an error in the words of the fault, at the parameter that the fault
is about. -/
structure Diagnostic.Reports (report : Diagnostic) (fault : Fault) (package declaration : String) :
    Prop where
  severity : report.severity = .error fault.category
  message : report.message = fault.message
  package : report.site.package = package
  declaration : report.site.declaration = declaration
  parameter : report.site.parameter = fault.parameter?

theorem Diagnostic.reports_ofFault (fault : Fault) (package declaration : String) :
    (ofFault fault package declaration).Reports fault package declaration :=
  ⟨rfl, rfl, rfl, rfl, rfl⟩

theorem Diagnostic.Reports.isError {report : Diagnostic} {fault : Fault} {package declaration : String}
    (hreports : report.Reports fault package declaration) : report.isError = true := by
  rw [Diagnostic.isError, hreports.severity]

theorem Diagnostic.Reports.site_eq {report : Diagnostic} {fault : Fault} {package declaration : String}
    (hreports : report.Reports fault package declaration) :
    report.site = { package, declaration, parameter := fault.parameter? } := by
  rw [← hreports.package, ← hreports.declaration, ← hreports.parameter]

namespace Registry

/-- A warning about one of these providers. -/
structure IsNote (providers : List Provider) (report : Diagnostic) : Prop where
  severity : report.severity = .warning
  site : ∃ provider ∈ providers,
    report.site = { package := provider.package, declaration := provider.name }

theorem IsNote.isError {providers : List Provider} {report : Diagnostic}
    (hnote : IsNote providers report) : report.isError = false := by
  rw [Diagnostic.isError, hnote.severity]

theorem IsNote.mono {providers more : List Provider} {report : Diagnostic}
    (hnote : IsNote providers report) (hsubset : providers ⊆ more) : IsNote more report := by
  obtain ⟨provider, hprovider, hsite⟩ := hnote.site
  exact ⟨hnote.severity, provider, hsubset hprovider, hsite⟩

/-- How entering providers ends: with entries after a few notes, or with a fault that is reported last. -/
inductive Ends (providers : List Provider) : Step → Prop
  | entered {notes : List Diagnostic} {entries : List (DeclaredType × Provider)}
      (hnotes : ∀ note ∈ notes, IsNote providers note) : Ends providers ⟨notes, .ok entries⟩
  | stopped {notes : List Diagnostic} {report : Diagnostic} {fault : Fault} {provider : Provider}
      (hnotes : ∀ note ∈ notes, IsNote providers note) (hprovider : provider ∈ providers)
      (hreport : report.Reports fault provider.package provider.name) :
      Ends providers ⟨notes ++ [report], .error fault⟩

theorem ends_enter (settings : Settings) (entries : List (DeclaredType × Provider))
    (provider : Provider) : Ends [provider] (enter settings entries provider) := by
  have hsilent : ∀ note ∈ ([] : List Diagnostic), IsNote [provider] note := by simp
  have hnote (message : String) :
      ∀ note ∈ [Diagnostic.ofWarning message provider.package provider.name],
        IsNote [provider] note := by
    intro note hnote
    rw [List.mem_singleton.mp hnote]
    exact ⟨rfl, provider, List.mem_singleton_self provider, rfl⟩
  have hstopped (fault : Fault) :
      Ends [provider] ⟨[.ofFault fault provider.package provider.name], .error fault⟩ :=
    .stopped hsilent (List.mem_singleton_self provider) (Diagnostic.reports_ofFault ..)
  unfold enter
  cases provider.produced? with
  | none =>
      cases settings.strictness with
      | strict => exact hstopped _
      | lenient => exact .entered (hnote _)
  | some type =>
      dsimp only
      cases entries.lookup type with
      | none => exact .entered hsilent
      | some previous =>
          cases settings.duplicates with
          | error => exact hstopped _
          | warn => exact .entered (hnote _)
          | lastWins => exact .entered hsilent

/-- Notes may precede whatever entering the other providers comes to. -/
theorem Ends.prepend {providers more : List Provider} (hsubset : more ⊆ providers)
    {notes : List Diagnostic} (hnotes : ∀ note ∈ notes, IsNote providers note) {later : Step}
    (hlater : Ends more later) : Ends providers ⟨notes ++ later.reports, later.entries⟩ := by
  cases hlater with
  | entered hothers =>
      refine .entered fun note hnote => ?_
      rcases List.mem_append.mp hnote with hnote | hnote
      · exact hnotes note hnote
      · exact (hothers note hnote).mono hsubset
  | stopped hothers hprovider hreport =>
      dsimp only
      rw [← List.append_assoc]
      refine .stopped (fun note hnote => ?_) (hsubset hprovider) hreport
      rcases List.mem_append.mp hnote with hnote | hnote
      · exact hnotes note hnote
      · exact (hothers note hnote).mono hsubset

theorem ends_enterAll (settings : Settings) (entries : List (DeclaredType × Provider))
    (providers : List Provider) : Ends providers (enterAll settings entries providers) := by
  induction providers generalizing entries with
  | nil => exact .entered (by simp)
  | cons provider rest ih =>
      have hrest : rest ⊆ provider :: rest := List.subset_cons_self provider rest
      have hfirst : [provider] ⊆ provider :: rest := by simp
      have hsilent : ∀ note ∈ ([] : List Diagnostic), IsNote (provider :: rest) note := by simp
      unfold enterAll
      split
      · have hstep := ends_enter settings entries provider
        generalize enter settings entries provider = step at hstep
        cases hstep with
        | entered hnotes =>
            exact Ends.prepend hrest (fun note hnote => (hnotes note hnote).mono hfirst) (ih _)
        | stopped hnotes hprovider hreport =>
            exact .stopped (fun note hnote => (hnotes note hnote).mono hfirst) (hfirst hprovider) hreport
      · exact Ends.prepend hrest hsilent (ih entries)

/-- Building a registry either succeeds after a few notes, or it stops with a fault, and then the report of
the fault follows the notes. -/
theorem build_reports (settings : Settings) (providers : List Provider) :
    ∃ notes, (∀ note ∈ notes, IsNote providers note) ∧
      ((∃ registry, build settings providers = (notes, .ok registry)) ∨
        ∃ report fault, ∃ provider ∈ providers,
          report.Reports fault provider.package provider.name ∧
            build settings providers = (notes ++ [report], .error fault)) := by
  have hends := ends_enterAll settings [] providers
  unfold build
  generalize enterAll settings [] providers = step at hends
  cases hends with
  | @entered notes entries hnotes => exact ⟨notes, hnotes, .inl ⟨_, rfl⟩⟩
  | @stopped notes report fault provider hnotes hprovider hreport =>
      exact ⟨notes, hnotes, .inr ⟨report, fault, provider, hprovider, hreport, rfl⟩⟩

end Registry

end BuilderGen
