import BuilderGen.Proofs.Grammar.Identifier
import BuilderGen.Proofs.Render.Code
import BuilderGen.Proofs.Render.Readable

/-!
# The names of rendered functions

The code of a builder has up to three implementations: of its methods, of `Default` and of `Debug`.  This module lists
the functions in them with their names and the names of their parameters (`Outline.implementations`), and shows that
the tokens consist of these functions and no others.

Conflicts between names are found before anything is rendered, by comparing the texts of setters and fields.  What
counts for the code is what these texts are read as.  So all names are identifiers, and the names of the methods
differ exactly when different texts are read apart (`ReadApart`).
-/

namespace BuilderGen

open Grammar (VisibilityTree identOfText?_of_isIdentifier isIdentifier isIdentifier_of_identOfText?)
open Token (op parens braces phrase)

namespace Outline

/-- The name of a function and the names of its parameters, apart from the builder itself. -/
structure Signature where
  name : String
  parameters : List String
deriving DecidableEq, Repr

/-- What can stand for the builder among the parameters. -/
def receivers : List (List (List Token)) :=
  [[], [phrase "self"], [phrase "& self"], [phrase "& mut self"]]

/-- The tokens of a function with a signature.  No other function stands in front of it, and its parameters are all
that the parentheses behind its name hold besides the builder. -/
def Signature.Heads (signature : Signature) (function : List Token) : Prop :=
  ∃ (front generics : List Token) (receiver : List (List Token)) (parameters : List OutlineParameter)
    (result body : List Token),
    Token.word "fn" ∉ front ∧ generics ∈ [[], callbackParameter] ∧ receiver ∈ receivers ∧
      signature.parameters = parameters.map OutlineParameter.name ∧
      function = front ++ [.word "fn", .word signature.name] ++ generics ++
        [parens (Render.commaSeparated (receiver ++ parameters.map fun parameter =>
          typed parameter.name parameter.type))] ++ result ++ [braces body]

/-- The tokens of an implementation with some functions. -/
def Implements (signatures : List Signature) (tokens : List Token) : Prop :=
  ∃ front functions, List.Forall₂ Signature.Heads signatures functions ∧ tokens = front ++ [braces functions.flatten]

variable (outline : Outline)

/-- The methods of the builder. -/
def methods : List Signature :=
  [⟨"from_parts", outline.fields.map OutlineField.name⟩, ⟨"new", outline.mandatory.map OutlineParameter.name⟩,
    ⟨"create", outline.mandatory.map OutlineParameter.name ++ ["optbuilder_configure"]⟩] ++
    outline.setters.map (fun setter => ⟨setter.name, ["value"]⟩) ++ [⟨"build", []⟩]

/-- The functions of the implementations. -/
def implementations : List (List Signature) :=
  outline.methods :: (if outline.defaultable then [[⟨"default", []⟩]] else []) ++ [[⟨"fmt", ["f"]⟩]]

end Outline

open Outline (Implements Signature)

/-! ## Methods -/

/-- The names of a method and of its parameters. -/
def Method.signature (method : Method) : Signature :=
  ⟨method.name, method.parameters.map OutlineParameter.name⟩

theorem Method.Written.heads {method : Method} {tokens : List Token} (hwritten : method.Written tokens)
    (hreceiver : method.receiver ∈ Outline.receivers) : method.signature.Heads tokens := by
  obtain ⟨front, generics, result, hfront, hgenerics, rfl⟩ := hwritten
  refine ⟨front, generics, method.receiver, method.parameters, result, method.body, hfront.1, hgenerics, hreceiver, rfl,
    ?_⟩
  rw [Render.commaSeparated_eq_intercalate]
  rfl

namespace Outline

variable {outline : Outline}

theorem map_signature_methods : outline.code.methods.map Method.signature = outline.methods := by
  simp [code, methods, Method.signature, fromPartsMethod, newMethod, createMethod, buildMethod, setterMethod]

theorem receiver_mem_receivers {method : Method} (hmethod : method ∈ outline.code.methods) :
    method.receiver ∈ receivers := by
  simp only [code, List.mem_append, List.mem_cons, List.mem_map, List.not_mem_nil, or_false] at hmethod
  rcases hmethod with ((rfl | rfl | rfl) | ⟨setter, _, rfl⟩) | rfl <;>
    simp [receivers, fromPartsMethod, newMethod, createMethod, setterMethod, buildMethod]

/-! ## Implementations -/

theorem implements_implTokens (hvisible : Method.Front outline.visibility) :
    Implements outline.methods outline.implTokens := by
  have hheads := ((List.forall₂_and_left _ _).mpr ⟨fun _ => receiver_mem_receivers, written_methods hvisible⟩).imp
    fun method tokens hmethod => hmethod.2.heads hmethod.1
  refine ⟨derived ++ [.word "impl", .word outline.name], [outline.fromParts, outline.newFunction,
    outline.createFunction] ++ outline.setters.map outline.setterTokens ++ [outline.buildFunction], ?_, ?_⟩
  · rw [← map_signature_methods, List.forall₂_map_left_iff]
    exact hheads
  · simp [implTokens, List.flatMap_def]

theorem implements_singleton {signature : Signature} {function tokens : List Token} (front : List Token)
    (htokens : tokens = front ++ [braces function]) (hheads : signature.Heads function) :
    Implements [signature] tokens :=
  ⟨front, [function], .cons hheads .nil, by rw [htokens, List.flatten_singleton]⟩

theorem implements_defaultTokens (hdefaultable : outline.defaultable = true) :
    Implements [⟨"default", []⟩] outline.defaultTokens := by
  rw [defaultTokens, if_pos hdefaultable]
  refine implements_singleton _ rfl ⟨[], [], [], [], phrase "-> Self", ?body, List.not_mem_nil, List.mem_cons_self,
    List.mem_cons_self, rfl, ?tokens⟩
  case tokens => rfl

theorem implements_debugTokens : Implements [⟨"fmt", ["f"]⟩] outline.debugTokens := by
  refine implements_singleton _ rfl ⟨[], [], [phrase "& self"],
    [⟨"f", phrase "& mut :: core :: fmt :: Formatter < '_ >"⟩], phrase "-> :: core :: fmt :: Result", ?body,
    List.not_mem_nil, List.mem_cons_self, ?receiver, rfl, ?tokens⟩
  case receiver => simp [receivers]
  case tokens => rfl

/-- The code of a builder consists of the struct and the implementations, and these of their functions. -/
theorem tokens_eq (hvisible : Method.Front outline.visibility) :
    ∃ blocks, List.Forall₂ Implements outline.implementations blocks ∧
      outline.tokens = outline.structTokens ++ blocks.flatten := by
  have hmethods := implements_implTokens hvisible
  have hdebug : Implements [⟨"fmt", ["f"]⟩] outline.debugTokens := implements_debugTokens
  cases hdefaultable : outline.defaultable with
  | false =>
      refine ⟨[outline.implTokens, outline.debugTokens], ?_, ?_⟩
      · rw [implementations, hdefaultable]
        exact .cons hmethods (.cons hdebug .nil)
      · simp [tokens, defaultTokens, hdefaultable]
  | true =>
      refine ⟨[outline.implTokens, outline.defaultTokens, outline.debugTokens], ?_, ?_⟩
      · rw [implementations, hdefaultable]
        exact .cons hmethods (.cons (implements_defaultTokens hdefaultable) (.cons hdebug .nil))
      · simp [tokens]

/-- What all functions of the implementations have in common. -/
theorem forall_signatures_iff {holds : Signature → Prop} :
    (∀ signatures ∈ outline.implementations, ∀ signature ∈ signatures, holds signature) ↔
      holds ⟨"from_parts", outline.fields.map OutlineField.name⟩ ∧
      holds ⟨"new", outline.mandatory.map OutlineParameter.name⟩ ∧
      holds ⟨"create", outline.mandatory.map OutlineParameter.name ++ ["optbuilder_configure"]⟩ ∧
      (∀ setter ∈ outline.setters, holds ⟨setter.name, ["value"]⟩) ∧ holds ⟨"build", []⟩ ∧
      (outline.defaultable = true → holds ⟨"default", []⟩) ∧ holds ⟨"fmt", ["f"]⟩ := by
  cases hdefaultable : outline.defaultable <;>
    simp [implementations, methods, hdefaultable, or_imp, forall_and, and_assoc]

end Outline

/-! ## Names -/

namespace Render

variable {text : String}

theorem isIdentifier_spelled (h : (Demand.name text).Met) : isIdentifier (spelled text) = true := by
  obtain ⟨found, hfound⟩ := h
  have hspelled : spelled text = found := reading_of_eq_ok (mapError_eq_ok.mpr hfound)
  rw [hspelled]
  exact isIdentifier_of_identOfText? hfound

/-- An identifier is read as it stands. -/
theorem spelled_of_isIdentifier (h : isIdentifier text = true) : spelled text = text :=
  reading_of_eq_ok (mapError_eq_ok.mpr (identOfText?_of_isIdentifier h))

/-- Different texts of a list are read as different identifiers. -/
def ReadApart (texts : List String) : Prop :=
  ∀ first ∈ texts, ∀ second ∈ texts, spelled first = spelled second → first = second

theorem readApart_of_isIdentifier {texts : List String} (h : ∀ text ∈ texts, isIdentifier text = true) :
    ReadApart texts := by
  intro first hfirst second hsecond hsame
  rwa [spelled_of_isIdentifier (h first hfirst), spelled_of_isIdentifier (h second hsecond)] at hsame

end Render

open Render (Outlined ReadApart isIdentifier_spelled spelled spelled_of_isIdentifier)

/-- Besides the setters there are four methods. -/
theorem Outlined.methodNames {builder : Builder} {outline : Outline} (houtlined : Outlined builder outline) :
    outline.methods.map Signature.name =
      ["from_parts", "new", "create"] ++ builder.setters.map (spelled ·.name) ++ ["build"] := by
  rw [← houtlined.setterNames, Outline.methods, List.map_append, List.map_append, List.map_map]
  rfl

section Generated

variable {aggregate : Aggregate} {registry : Registry} {enumerations : List Enumeration} {constructor : Constructor}
  {choices : List Choice} {outline : Outline}
  (hgenerated : aggregate.Generated registry enumerations constructor choices)
  (houtlined : Outlined (.ofChoices aggregate constructor.path choices) outline)

include hgenerated houtlined

/-- No two methods have the same name when the texts of the setters and of the methods that every builder has are read
apart. -/
theorem nodup_methods_iff : (outline.methods.map Signature.name).Nodup ↔
    ReadApart (Scope.reservedMethods ++ (choices.map Choice.fluentSetter).map Setter.name) := by
  have hreserved : Scope.reservedMethods.map spelled = Scope.reservedMethods := by
    have hall : ∀ name ∈ Scope.reservedMethods, isIdentifier name = true := by decide
    exact (List.map_congr_left fun name hname => spelled_of_isIdentifier (hall name hname)).trans (List.map_id _)
  have hdistinct : (Scope.reservedMethods ++ (choices.map Choice.fluentSetter).map Setter.name).Nodup := by
    rw [List.map_map]
    refine List.nodup_append.mpr ⟨by decide, hgenerated.setters, ?_⟩
    rintro name hname other hother rfl
    exact hgenerated.methods name hother hname
  have hmethods : (outline.methods.map Signature.name).Perm
      ((Scope.reservedMethods ++ (choices.map Choice.fluentSetter).map Setter.name).map spelled) := by
    have hfixed : ["from_parts", "new", "create", "build"].Perm Scope.reservedMethods := by decide
    rw [Outlined.methodNames houtlined, List.map_append, hreserved, List.map_map, List.append_assoc]
    exact (List.Perm.append_left _ List.perm_append_comm).trans (hfixed.append_right _)
  rw [hmethods.nodup_iff]
  exact List.nodup_map_iff_inj_on hdistinct

/-- No function has two parameters of the same name when the texts of the fields are read apart, and no mandatory one as
the name of the callback. -/
theorem nodup_parameters_iff :
    (∀ signatures ∈ outline.implementations, ∀ signature ∈ signatures, signature.parameters.Nodup) ↔
      ReadApart ((choices.map Choice.field).map Field.name) ∧
        ∀ field ∈ choices.map Choice.field, field.strategy = .mandatory →
          spelled field.name ≠ "optbuilder_configure" := by
  have hapart : ((choices.map Choice.field).map (spelled ·.name)).Nodup ↔
      ReadApart ((choices.map Choice.field).map Field.name) := by
    have hiff := List.nodup_map_iff_inj_on hgenerated.nodup_fieldNames (f := spelled)
    rwa [List.map_map] at hiff
  have hconfigure : "optbuilder_configure" ∉
      ((choices.map Choice.field).filter (·.strategy = .mandatory)).map (spelled ·.name) ↔
        ∀ field ∈ choices.map Choice.field, field.strategy = .mandatory →
          spelled field.name ≠ "optbuilder_configure" := by
    simp only [List.mem_map, List.mem_filter, decide_eq_true_eq]
    grind
  rw [Outline.forall_signatures_iff, houtlined.fields, houtlined.mandatory, ← hapart, ← hconfigure]
  constructor
  · rintro ⟨hfields, -, hcreate, -⟩
    exact ⟨hfields, fun hmem => List.disjoint_of_nodup_append hcreate hmem (List.mem_singleton_self _)⟩
  · rintro ⟨hfields, hfree⟩
    have hmandatory : (((choices.map Choice.field).filter (·.strategy = .mandatory)).map (spelled ·.name)).Nodup :=
      hfields.sublist (List.filter_sublist.map _)
    have hcreate := hmandatory.append (List.nodup_singleton "optbuilder_configure")
      (List.disjoint_singleton.mpr hfree)
    exact ⟨hfields, hmandatory, hcreate, fun _ _ => List.nodup_singleton "value", .nil, fun _ => .nil,
      List.nodup_singleton "f"⟩

/-- Every function and every parameter has an identifier for its name. -/
theorem isIdentifier_signatures {cratePath : String}
    (houtline : Render.outline (.ofChoices aggregate constructor.path choices) cratePath = .ok outline) :
    ∀ signatures ∈ outline.implementations, ∀ signature ∈ signatures,
      isIdentifier signature.name = true ∧ ∀ parameter ∈ signature.parameters, isIdentifier parameter = true := by
  have hmet := (Render.rests_outline hgenerated.nodup_fieldNames cratePath).met outline houtline
  have hfields : ∀ name ∈ (choices.map Choice.field).map (spelled ·.name), isIdentifier name = true := by
    intro name hname
    obtain ⟨field, hfield, rfl⟩ := List.mem_map.mp hname
    refine isIdentifier_spelled (hmet _ (List.mem_append_left _ (List.mem_append_right _ ?_)))
    exact List.mem_flatMap.mpr ⟨field, hfield, List.mem_cons_self⟩
  have hsetters : ∀ name ∈ outline.setters.map OutlineSetter.name, isIdentifier name = true := by
    rw [houtlined.setterNames]
    intro name hname
    obtain ⟨setter, hsetter, rfl⟩ := List.mem_map.mp hname
    exact isIdentifier_spelled (hmet _ (List.mem_append_right _ (List.mem_map_of_mem hsetter)))
  have hmandatory : ∀ name ∈ ((choices.map Choice.field).filter (·.strategy = .mandatory)).map (spelled ·.name),
      isIdentifier name = true :=
    fun name hname => hfields name ((List.filter_sublist.map _).subset hname)
  have hfixed : ∀ name ∈ ["from_parts", "new", "create", "optbuilder_configure", "value", "build", "default", "fmt",
      "f"], isIdentifier name = true := by
    decide
  simp only [List.forall_mem_cons] at hfixed
  obtain ⟨hparts, hnew, hcreate, hconfigure, hvalue, hbuild, hdefault, hfmt, hformatter, -⟩ := hfixed
  rw [Outline.forall_signatures_iff, houtlined.fields, houtlined.mandatory]
  refine ⟨⟨hparts, hfields⟩, ⟨hnew, hmandatory⟩, ⟨hcreate, ?_⟩, fun setter hsetter => ⟨?_, ?_⟩, ⟨hbuild, nofun⟩,
    fun _ => ⟨hdefault, nofun⟩, hfmt, List.forall_mem_singleton.mpr hformatter⟩
  · exact List.forall_mem_append.mpr ⟨hmandatory, List.forall_mem_singleton.mpr hconfigure⟩
  · exact hsetters setter.name (List.mem_map_of_mem hsetter)
  · exact List.forall_mem_singleton.mpr hvalue

end Generated

/-- The functions of a rendered builder, which are all that stands in its implementations.

Their names and those of their parameters are identifiers.  No two methods share a name exactly when the texts of the
setters are read apart from each other and from the methods that every builder has.  No function has two parameters
of one name exactly when the texts of the fields are read apart, and no mandatory one as the name of the callback. -/
theorem Aggregate.signatures_of_render {aggregate : Aggregate} {registry : Registry} {enumerations : List Enumeration}
    {builder : Builder} {cratePath : String} {tokens : List Token}
    (hgenerate : aggregate.generate registry enumerations = .ok builder)
    (hrender : builder.render cratePath = .ok tokens) :
    ∃ outline blocks, Render.outline builder cratePath = .ok outline ∧
      List.Forall₂ Implements outline.implementations blocks ∧ tokens = outline.structTokens ++ blocks.flatten ∧
      outline.methods.map Signature.name =
        ["from_parts", "new", "create"] ++ builder.setters.map (spelled ·.name) ++ ["build"] ∧
      (∀ signatures ∈ outline.implementations, ∀ signature ∈ signatures,
        isIdentifier signature.name = true ∧ ∀ parameter ∈ signature.parameters, isIdentifier parameter = true) ∧
      ((outline.methods.map Signature.name).Nodup ↔
        ReadApart (Scope.reservedMethods ++ builder.setters.map Setter.name)) ∧
      ((∀ signatures ∈ outline.implementations, ∀ signature ∈ signatures, signature.parameters.Nodup) ↔
        ReadApart (builder.fields.map Field.name) ∧
          ∀ field ∈ builder.fields, field.strategy = .mandatory → spelled field.name ≠ "optbuilder_configure") := by
  obtain ⟨constructor, choices, hgenerated, rfl⟩ := generate_eq_ok hgenerate
  obtain ⟨outline, houtline, rfl⟩ := map_eq_ok.mp hrender
  have houtlined := Render.outline_eq_ok hgenerated.nodup_fieldNames houtline
  obtain ⟨blocks, hblocks, htokens⟩ := Outline.tokens_eq (Render.front_visibility houtlined.visibility)
  exact ⟨outline, blocks, houtline, hblocks, htokens, Outlined.methodNames houtlined,
    isIdentifier_signatures hgenerated houtlined houtline, nodup_methods_iff hgenerated houtlined,
    nodup_parameters_iff hgenerated houtlined⟩

namespace Shop

/-- The texts of a parcel are identifiers, so all names of its functions differ. -/
theorem signatures_of_parcel : (parcelOutline.methods.map Signature.name).Nodup ∧
    ∀ signatures ∈ parcelOutline.implementations, ∀ signature ∈ signatures, signature.parameters.Nodup := by
  have hrender : parcelBuilder.render "::optbuilder" = .ok parcelOutline.tokens :=
    congrArg (Except.map Outline.tokens) outline_parcelBuilder
  have hnames : ∀ name ∈ parcelBuilder.fields.map Field.name, isIdentifier name = true := by decide +kernel
  have hmethods : ∀ name ∈ Scope.reservedMethods ++ parcelBuilder.setters.map Setter.name,
      isIdentifier name = true := by
    decide +kernel
  have hfree : ∀ field ∈ parcelBuilder.fields, field.name ≠ "optbuilder_configure" := by decide
  obtain ⟨outline, _, houtline, -, -, -, -, hdistinct, hparameters⟩ :=
    Aggregate.signatures_of_render generate_parcel hrender
  rw [outline_parcelBuilder] at houtline
  obtain rfl := Except.ok.inj houtline
  refine ⟨hdistinct.mpr (Render.readApart_of_isIdentifier hmethods),
    hparameters.mpr ⟨Render.readApart_of_isIdentifier hnames, fun field hfield _ => ?_⟩⟩
  rw [spelled_of_isIdentifier (hnames _ (List.mem_map_of_mem hfield))]
  exact hfree field hfield

/-- A pair with blanks around the name that it requests for its first setter. -/
def pair : Aggregate where
  name := "Pair"
  package := "a"
  constructors := [{ path := "Pair", parameters := [
    { name := "y", type := named "u8", setterName := some " x " }, { name := "x", type := named "u8" }] }]

/-- The two setters of a pair are read as the same identifier, though their texts differ. -/
theorem setters_of_pair : ∃ builder outline, pair.generate nameRegistry [] = .ok builder ∧
    Render.outline builder "::optbuilder" = .ok outline ∧ ¬(outline.methods.map Signature.name).Nodup := by
  refine ⟨_, _, rfl, rfl, ?_⟩
  change ¬["from_parts", "new", "create", "x", "x", "build"].Nodup
  decide

end Shop

end BuilderGen
