import BuilderGen.Model.Reference
import BuilderGen.Proofs.Records
import BuilderGen.Proofs.Text.Segments

/-!
# References that lead back

A reference from one module to a declaration in another climbs with `super` to the module that both lie in,
and goes down from there.  Read in the module that it was written in, it denotes that declaration: climbing
drops exactly the segments that the two modules do not share, so the first candidate is the qualified name.
Only the names of the declarations have to be names.  The module of the reference may be any text.
-/

namespace BuilderGen.Reference

/-! ## The module that both lie in -/

theorem shared_le_length (left right : List String) : shared left right ≤ left.length := by
  induction left generalizing right with
  | nil => simp [shared]
  | cons first left ih =>
      cases right with
      | nil => simp [shared]
      | cons second right =>
          have hrest := ih right
          simp only [shared, List.length_cons]
          split <;> omega

/-- Two paths start with the segments that they share. -/
theorem take_shared (left right : List String) :
    left.take (shared left right) = right.take (shared left right) := by
  induction left generalizing right with
  | nil => simp [shared]
  | cons first left ih =>
      cases right with
      | nil => simp [shared]
      | cons second right =>
          rw [shared]
          split
          · rename_i hsame
            rw [List.take_succ_cons, List.take_succ_cons, ih right, hsame]
          · rfl

/-! ## Climbing -/

/-- A path that starts with a name does not climb. -/
theorem climb_name {name : String} (hname : Segments.IsName name) (module rest : List String) :
    climb module (name :: rest) = (module, name :: rest, false) := by
  have hplain := hname.plain
  simp only [List.mem_cons, not_or] at hplain
  rw [climb]
  · intro tail heq
    exact hplain.2.1 (List.cons.inj heq).1
  · intro tail heq
    exact hplain.2.2.1 (List.cons.inj heq).1

/-- A word by which a reference moves between modules. -/
inductive Step where
  | stay
  | up
deriving DecidableEq, Repr

/-- The word for a step. -/
def Step.word : Step → String
  | stay => "self"
  | up => "super"

theorem Step.isSegment_word (step : Step) : Segments.IsSegment step.word := by
  cases step <;> decide

/-- Climbing takes all steps in front of a name, and every step up drops one segment of the module. -/
theorem climb_steps {name : String} (hname : Segments.IsName name) (steps : List Step)
    (module rest : List String) :
    climb module (steps.map Step.word ++ name :: rest) =
      (module.take (module.length - steps.count .up), name :: rest, !steps.isEmpty) := by
  induction steps generalizing module with
  | nil =>
      rw [List.map_nil, List.nil_append, climb_name hname, List.count_nil, Nat.sub_zero, List.take_length]
      rfl
  | cons step steps ih =>
      cases step with
      | stay =>
          rw [List.map_cons, List.cons_append, Step.word, climb, ih, List.count_cons_of_ne (by decide)]
          rfl
      | up =>
          have htake : module.dropLast.take (module.dropLast.length - steps.count .up) =
              module.take (module.length - (steps.count .up + 1)) := by
            rw [List.dropLast_eq_take, List.take_take, List.length_take]
            congr 1
            omega
          rw [List.map_cons, List.cons_append, Step.word, climb, ih, htake, List.count_cons_self]
          rfl

/-- A path that climbs to a name does not start at the root. -/
theorem steps_ne_crate {name : String} (hname : Segments.IsName name) (steps : List Step)
    (rest more : List String) : steps.map Step.word ++ name :: rest ≠ "crate" :: more := by
  intro heq
  cases steps with
  | nil =>
      have hplain := hname.plain
      rw [(List.cons.inj heq).1] at hplain
      simp at hplain
  | cons step steps =>
      have hword : step.word = "crate" := (List.cons.inj heq).1
      cases step <;> exact absurd hword (by decide)

theorem replicate_super (count : Nat) :
    List.replicate count "super" = (List.replicate count Step.up).map Step.word := by
  rw [List.map_replicate, Step.word]

/-! ## The way there and back -/

/-- The segments of the reference from one module to a name in another. -/
def way (origin target : List String) (name : String) : List String :=
  List.replicate (origin.length - shared origin target) "super" ++
    (target.drop (shared origin target) ++ [name])

section Way

variable {target : List String} (htarget : ∀ segment ∈ target, Segments.IsName segment) {name : String}
  (hname : Segments.IsName name)

include htarget

theorem relative_join (origin : String) :
    relative origin (Segments.join target) name =
      Segments.join (way (Segments.ofPackage origin) target name) := by
  have hsegments := Segments.ofPackage_join fun segment hsegment => (htarget segment hsegment).toIsSegment
  rw [relative, hsegments, way, List.append_assoc]

include hname

theorem isSegment_of_mem_way (origin : List String) :
    ∀ segment ∈ way origin target name, Segments.IsSegment segment := by
  intro segment hsegment
  rw [way, List.mem_append, List.mem_append, List.mem_singleton] at hsegment
  rcases hsegment with hsegment | hsegment | rfl
  · rw [List.eq_of_mem_replicate hsegment]
    decide
  · exact (htarget segment (List.mem_of_mem_drop hsegment)).toIsSegment
  · exact hname.toIsSegment

/-- The way down starts with a name. -/
theorem exists_name_of_way (count : Nat) :
    ∃ first rest, target.drop count ++ [name] = first :: rest ∧ Segments.IsName first := by
  cases hdrop : target.drop count with
  | nil => exact ⟨name, [], rfl, hname⟩
  | cons first rest =>
      refine ⟨first, rest ++ [name], rfl, htarget first (List.mem_of_mem_drop (i := count) ?_)⟩
      rw [hdrop]
      exact List.mem_cons_self

/-- A way does not start at the root. -/
theorem way_ne_crate (origin rest : List String) : way origin target name ≠ "crate" :: rest := by
  obtain ⟨first, down, hdown, hfirst⟩ := exists_name_of_way htarget hname (shared origin target)
  rw [way, hdown, replicate_super]
  exact steps_ne_crate hfirst _ down rest

/-- Climbing leads to the module that both lie in.  What is left is the way down. -/
theorem climb_way (origin : List String) :
    ∃ climbed, climb origin (way origin target name) =
      (target.take (shared origin target), target.drop (shared origin target) ++ [name], climbed) := by
  obtain ⟨first, down, hdown, hfirst⟩ := exists_name_of_way htarget hname (shared origin target)
  have hlength := shared_le_length origin target
  have hcommon : origin.length - (origin.length - shared origin target) = shared origin target := by omega
  rw [way, hdown, replicate_super, climb_steps hfirst, List.count_replicate_self, hcommon, take_shared]
  exact ⟨_, rfl⟩

/-- Read in the module where it was written, a reference denotes the qualified name it was written for
before any other. -/
theorem candidates_relative (origin : String) :
    (candidates (relative origin (Segments.join target) name) origin).head? =
      some (Segments.join (target ++ [name])) := by
  have hway := isSegment_of_mem_way htarget hname (Segments.ofPackage origin)
  have hne : way (Segments.ofPackage origin) target name ≠ [] := by
    simp [way]
  have hsplit : (Segments.split (relative origin (Segments.join target) name)).map Text.trim =
      way (Segments.ofPackage origin) target name := by
    rw [relative_join htarget, Segments.split_join hne fun segment hsegment => (hway segment hsegment).colon]
    rw [List.map_congr_left fun segment hsegment =>
      Text.trim_of_not_isBlank (hway segment hsegment).blank, List.map_id']
  obtain ⟨climbed, hclimb⟩ := climb_way htarget hname (Segments.ofPackage origin)
  rw [candidates, hsplit]
  split
  · rename_i rest heq
    exact absurd heq (way_ne_crate htarget hname _ rest)
  · -- climbing stops where the target parts from the origin, so the way down completes the target
    have hdown : target.take (shared (Segments.ofPackage origin) target) ++
        (target.drop (shared (Segments.ofPackage origin) target) ++ [name]) = target ++ [name] := by
      rw [← List.append_assoc, List.take_append_drop]
    rw [hclimb]
    dsimp only
    rw [hdown]
    split <;> rfl

end Way

/-- There are no blanks in a reference between modules. -/
theorem trim_relative {package name : String} (hpackage : Segments.IsModule package)
    (hname : Segments.IsName name) (origin : String) :
    Text.trim (relative origin package name) = relative origin package name := by
  obtain ⟨target, rfl, htarget⟩ := hpackage
  rw [relative_join htarget]
  exact Text.trim_of_not_isBlank (Segments.not_isBlank_join (isSegment_of_mem_way htarget hname _))

/-- Read in the module where it was written, the reference to a declared provider denotes this provider, when
qualified names do not repeat. -/
theorem provider?_relative {providers : List Provider}
    (hnames : (providers.map Provider.qualifiedName).Nodup) {provider : Provider}
    (hprovider : provider ∈ providers) (hpackage : Segments.IsModule provider.package)
    (hname : Segments.IsName provider.name) (origin : String) :
    provider? providers (relative origin provider.package provider.name) origin = some provider := by
  obtain ⟨target, htarget, hsegments⟩ := hpackage
  have hqualified : Segments.join (target ++ [provider.name]) = provider.qualifiedName := by
    rw [Provider.qualifiedName, htarget,
      Segments.qualify_join fun segment hsegment => (hsegments segment hsegment).toIsSegment]
  have hbare : Segments.bare (relative origin provider.package provider.name) =
      relative origin provider.package provider.name := by
    rw [htarget, relative_join hsegments]
    exact Segments.bare_join (isSegment_of_mem_way hsegments hname _)
  have hcandidates := candidates_relative hsegments hname origin
  rw [← htarget, hqualified] at hcandidates
  obtain ⟨others, hcandidates⟩ := List.head?_eq_some_iff.mp hcandidates
  have hfind : providers.reverse.find? (·.qualifiedName = provider.qualifiedName) = some provider := by
    refine find?_name ?_ (List.mem_reverse.mpr hprovider)
    rw [List.map_reverse]
    exact List.nodup_reverse.mpr hnames
  rw [provider?, hbare, hcandidates, List.findSome?_cons, hfind]

end BuilderGen.Reference
