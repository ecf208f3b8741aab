import BuilderGen.Builder.Basic
import BuilderGen.Proofs.Success
import BuilderGen.Render.Part

/-!
# What rendering demands of a builder

A builder holds texts, and rendering reads the same text in many places.  `Builder.demands` lists the texts once,
each with what it has to be read as.  A demand is met when its text is read.

A computation `Rests` on demands when it succeeds only if they are all met, and fails only with the fault of one of
them.  The steps of rendering inherit this from the texts that they read: a sequence of steps rests on what its
steps rest on, and a traversal on what it does at every item.  So each function that reads a part of a builder gets
one lemma, which says what it rests on.  Here are the lemmas for single texts and for types.
-/

namespace BuilderGen

open Grammar (expressionOfText? identOfText? pathOfText? typeOfText? visibilityOfText?)

namespace Render

/-- A text that has to be read before a builder is rendered. -/
inductive Demand where
  | name (text : String)
  | path (text : String)
  | expression (text : String)
  /-- A type that is kept as text. -/
  | type (text : String)
  /-- The scope of a visibility. -/
  | scope (text : String)
  /-- The element type of an array that has none. -/
  | element (array : DeclaredType)

namespace Demand

/-- Whether the text is read as it has to be.  A type that is missing cannot be read. -/
def Met : Demand → Prop
  | name text => ∃ found, identOfText? text = .ok found
  | path text => ∃ tokens, pathOfText? text = .ok tokens
  | expression text => ∃ tokens, expressionOfText? text = .ok tokens
  | type text => ∃ tree, typeOfText? text = .ok tree
  | scope text => ∃ tree, visibilityOfText? ("pub(" ++ text ++ ")") = .ok tree
  | element _ => False

/-- The text that a fault shows. -/
def subject : Demand → String
  | name text | path text | expression text | type text => text
  | scope text => "pub(" ++ text ++ ")"
  | element array => array.display

/-- The fault of rendering when the text cannot be read, with the reason that the grammar gives. -/
inductive Gives : Demand → RenderFault → Prop
  | name {text cause} (h : identOfText? text = .error cause) : Gives (name text) (.identifier text cause)
  | path {text cause} (h : pathOfText? text = .error cause) : Gives (path text) (.path text cause)
  | expression {text cause} (h : expressionOfText? text = .error cause) :
      Gives (expression text) (.expression text cause)
  | type {text cause} (h : typeOfText? text = .error cause) : Gives (type text) (.type text cause)
  | scope {text cause} (h : visibilityOfText? ("pub(" ++ text ++ ")") = .error cause) :
      Gives (scope text) (.visibility ("pub(" ++ text ++ ")") cause)
  | element (array : DeclaredType) : Gives (element array) (.elementless array.display)

/-- A demand that gives a fault is not met, and the fault shows its text. -/
theorem Gives.not_met {demand : Demand} {fault : RenderFault} (h : demand.Gives fault) :
    ¬demand.Met ∧ demand.subject = fault.subject := by
  cases h with
  | element array => exact ⟨id, rfl⟩
  | name h | path h | expression h | type h | scope h =>
      refine ⟨?_, rfl⟩
      rintro ⟨_, hread⟩
      rw [h] at hread
      cases hread

end Demand

mutual

/-- The texts that have to be read for a declared type. -/
def typeDemands : DeclaredType → List Demand
  | ⟨head, args, nullable⟩ =>
      match head with
      | .unit => []
      | .named text => .path text :: typesDemands args
      | .array length =>
          (match args with
            | [] => [.element ⟨.array length, [], nullable⟩]
            | element :: _ => typeDemands element) ++ [.expression length]
      | .verbatim text => [.type text]

/-- The texts that have to be read for declared types. -/
def typesDemands : List DeclaredType → List Demand
  | [] => []
  | first :: rest => typeDemands first ++ typesDemands rest

end

end Render

open Render (Demand typeDemands typesDemands)

/-- The texts of a strategy. -/
def Strategy.demands : Strategy → List Demand
  | .mandatory | .nullable | .initializer none => []
  | .zero _ text | .variant _ _ text | .initializer (some text) => [.expression text]
  | .provider reference _ => [.path reference]

/-- The texts of a field. -/
def Field.demands (field : Field) : List Demand :=
  .name field.name :: (typeDemands field.type ++ field.strategy.demands)

/-- The text of a visibility, if it has a scope. -/
def Visibility.demands : Visibility → List Demand
  | .everywhere | .ownModule => []
  | .within scope => [.scope scope]

/-- All texts of a builder, and the path to the run-time library. -/
def Builder.demands (builder : Builder) (cratePath : String) : List Demand :=
  [.path cratePath, .name builder.name, .name builder.target, .path builder.constructorPath] ++
    builder.visibility.demands ++ builder.fields.flatMap Field.demands ++
    builder.setters.map fun setter => .name setter.name

namespace Render

/-! ## Computations that rest on demands -/

variable {α β : Type}

/-- A computation that succeeds only if some demands are met, and fails only with the fault of one of them. -/
structure Rests (demands : List Demand) (result : Except RenderFault α) : Prop where
  met : ∀ value, result = .ok value → ∀ demand ∈ demands, demand.Met
  blamed : ∀ fault, result = .error fault → ∃ demand ∈ demands, demand.Gives fault

theorem rests_ok (value : α) : Rests [] (.ok value : Except RenderFault α) where
  met := fun _ _ => nofun
  blamed := fun _ h => by cases h

theorem rests_error {demand : Demand} {fault : RenderFault} (hgives : demand.Gives fault) :
    Rests [demand] (.error fault : Except RenderFault α) where
  met := fun _ h => by cases h
  blamed := fun other h => by
    cases h
    exact ⟨demand, List.mem_singleton_self demand, hgives⟩

/-- Reading a text rests on its demand. -/
theorem rests_mapError (demand : Demand) {result : Except Grammar.TextFailure α}
    {fault : Grammar.TextFailure → RenderFault} (hmet : ∀ value, result = .ok value → demand.Met)
    (hgives : ∀ cause, result = .error cause → demand.Gives (fault cause)) :
    Rests [demand] (result.mapError fault) := by
  cases result with
  | error cause => exact rests_error (hgives cause rfl)
  | ok value =>
      exact ⟨fun _ _ => List.forall_mem_singleton.mpr (hmet value rfl), fun _ h => by cases h⟩

namespace Rests

variable {demands others : List Demand} {first : Except RenderFault α}

/-- The demands decide whether a computation succeeds. -/
theorem exists_ok_iff (h : Rests demands first) :
    (∃ value, first = .ok value) ↔ ∀ demand ∈ demands, demand.Met := by
  constructor
  · rintro ⟨value, hvalue⟩
    exact h.met value hvalue
  · intro hmet
    cases first with
    | ok value => exact ⟨value, rfl⟩
    | error fault =>
        obtain ⟨demand, hdemand, hgives⟩ := h.blamed fault rfl
        exact absurd (hmet demand hdemand) hgives.not_met.1

/-- Only the demands that are not met matter, in whatever order and however often they are listed. -/
theorem congr (h : Rests demands first) (hsame : ∀ demand, ¬demand.Met → (demand ∈ demands ↔ demand ∈ others)) :
    Rests others first where
  met := fun value hvalue demand hdemand => by
    by_contra hunmet
    exact hunmet (h.met value hvalue demand ((hsame demand hunmet).mpr hdemand))
  blamed := fun fault hfault => by
    obtain ⟨demand, hdemand, hgives⟩ := h.blamed fault hfault
    exact ⟨demand, (hsame demand hgives.not_met.1).mp hdemand, hgives⟩

theorem bind {next : α → Except RenderFault β} (hfirst : Rests demands first)
    (hnext : ∀ value, Rests others (next value)) : Rests (demands ++ others) (first >>= next) where
  met := fun result h => by
    obtain ⟨value, hvalue, hresult⟩ := bind_eq_ok.mp h
    exact List.forall_mem_append.mpr ⟨hfirst.met value hvalue, (hnext value).met result hresult⟩
  blamed := fun fault h => by
    cases first with
    | error same =>
        cases h
        obtain ⟨demand, hdemand, hgives⟩ := hfirst.blamed fault rfl
        exact ⟨demand, List.mem_append_left _ hdemand, hgives⟩
    | ok value =>
        obtain ⟨demand, hdemand, hgives⟩ := (hnext value).blamed fault h
        exact ⟨demand, List.mem_append_right _ hdemand, hgives⟩

/-- Steps that cannot fail rest on nothing. -/
theorem finish {next : α → Except RenderFault β} (hfirst : Rests demands first)
    (hnext : ∀ value, ∃ result, next value = .ok result) : Rests demands (first >>= next) := by
  have hrest : ∀ value, Rests [] (next value) := by
    intro value
    obtain ⟨result, hresult⟩ := hnext value
    rw [hresult]
    exact rests_ok result
  have hall := hfirst.bind hrest
  rwa [List.append_nil] at hall

theorem map (hfirst : Rests demands first) (function : α → β) : Rests demands (first.map function) :=
  hfirst.finish fun value => ⟨function value, rfl⟩

theorem mapM {step : α → Except RenderFault β} {items : List α} {parts : α → List Demand}
    (hstep : ∀ item ∈ items, Rests (parts item) (step item)) : Rests (items.flatMap parts) (items.mapM step) where
  met := fun results h demand hdemand => by
    obtain ⟨item, hitem, hpart⟩ := List.mem_flatMap.mp hdemand
    obtain ⟨result, _, hresult⟩ := exists_of_forall₂_of_mem (mapM_eq_ok.mp h).flip hitem
    exact (hstep item hitem).met result hresult demand hpart
  blamed := fun fault h => by
    rw [← error?_eq_some, error?_mapM] at h
    obtain ⟨item, hitem, hfault⟩ := List.exists_of_findSome?_eq_some h
    obtain ⟨demand, hdemand, hgives⟩ := (hstep item hitem).blamed fault (error?_eq_some.mp hfault)
    exact ⟨demand, List.mem_flatMap.mpr ⟨item, hitem, hdemand⟩, hgives⟩

end Rests

/-! ## Single texts -/

theorem rests_identifier (text : String) : Rests [.name text] (identifier text) :=
  rests_mapError (.name text) (fun found h => ⟨found, h⟩) fun _ => .name

theorem rests_path (text : String) : Rests [.path text] (path text) :=
  rests_mapError (.path text) (fun tokens h => ⟨tokens, h⟩) fun _ => .path

theorem rests_expression (text : String) : Rests [.expression text] (expression text) :=
  rests_mapError (.expression text) (fun tokens h => ⟨tokens, h⟩) fun _ => .expression

theorem rests_visibility (seen : Visibility) : Rests seen.demands (visibility seen) := by
  cases seen with
  | everywhere | ownModule => exact rests_ok _
  | within scope => exact (rests_mapError (.scope scope) (fun tree h => ⟨tree, h⟩) fun _ => .scope).map _

/-! ## Types -/

mutual

theorem rests_type (declared : DeclaredType) : Rests (typeDemands declared) (type declared) := by
  obtain ⟨head, args, nullable⟩ := declared
  rw [type.eq_def, typeDemands.eq_def]
  cases head with
  | unit => exact rests_ok _
  | verbatim text =>
      exact ((rests_mapError (.type text) (fun tree h => ⟨tree, h⟩) fun _ => .type).map _).finish fun _ => ⟨_, rfl⟩
  | named text =>
      refine (rests_path text).bind fun _ => (rests_types args).finish fun _ => ?_
      split <;> exact ⟨_, rfl⟩
  | array length =>
      have hlength := rests_expression length
      cases args with
      | nil => exact (rests_error (.element _)).bind fun _ => hlength.finish fun _ => ⟨_, rfl⟩
      | cons element rest => exact (rests_type element).bind fun _ => hlength.finish fun _ => ⟨_, rfl⟩

/-- Rendering types rests on the texts in them. -/
theorem rests_types (args : List DeclaredType) : Rests (typesDemands args) (types args) := by
  cases args with
  | nil =>
      rw [types, typesDemands]
      exact rests_ok []
  | cons first rest =>
      rw [types, typesDemands]
      exact (rests_type first).bind fun _ => (rests_types rest).finish fun _ => ⟨_, rfl⟩

end

end Render

end BuilderGen
