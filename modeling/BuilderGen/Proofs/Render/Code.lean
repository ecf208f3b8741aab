import BuilderGen.Execution.Run
import BuilderGen.Proofs.Render.Outline
import BuilderGen.Render.Template

/-!
# The methods in rendered code

The methods of a rendered builder stand in one implementation, one behind the other.  `Code` is this
implementation cut into methods, and `Code.Written` says where it stands in the tokens.

The tokens are written out a second time here, apart from the template, so that it can be said what they mean
without looking at how they are made.

* What stands in the bodies.  There is one definition for each statement and each expression, from
  `Code.handed`, the body of the method that starts a builder, to `Code.matched`, the match over slots.
* Patterns.  `Code.MatchesAll` says which values a tuple of patterns matches, and what it binds.
* The comparison.  `Outline.code` puts an outline into these parts, and `Outline.written_code` finds them in
  the tokens that the template makes of it.
-/

namespace BuilderGen

open Token (op parens braces phrase)

/-- A method of the generated code. -/
structure Method where
  name : String
  /-- What stands for the builder in front of the parameters. -/
  receiver : List (List Token)
  parameters : List OutlineParameter
  body : List Token

namespace Method

/-- What can stand in front of a function: attributes and a visibility, but no other function and no body. -/
def Front (front : List Token) : Prop :=
  Token.word "fn" ∉ front ∧ ∀ content, braces content ∉ front

/-- The tokens of a method.  At their end are the braces with its body. -/
def Written (method : Method) (tokens : List Token) : Prop :=
  ∃ front generics result,
    Front front ∧ generics ∈ [[], phrase "< OptbuilderFn >"] ∧
      tokens = front ++ [.word "fn", .word method.name] ++ generics ++
        [parens (List.intercalate (op ",") (method.receiver ++ method.parameters.map fun parameter =>
          [.word parameter.name] ++ op ":" ++ parameter.type))] ++ result ++ [braces method.body]

theorem front_nil : Front [] :=
  ⟨List.not_mem_nil, fun _ => List.not_mem_nil⟩

theorem front_attr (content : List Token) : Front (Token.attr content) := by
  constructor <;> simp [Token.attr, Token.brackets, braces]

theorem Front.append {front back : List Token} (hfront : Front front) (hback : Front back) : Front (front ++ back) :=
  ⟨List.not_mem_append hfront.1 hback.1, fun content => List.not_mem_append (hfront.2 content) (hback.2 content)⟩

end Method

/-- The methods of a builder, and what their bodies refer to: the run-time library and the constructor of the
aggregate. -/
structure Code where
  name : String
  runtime : List Token
  constructor : List Token
  methods : List Method

namespace Code

/-- The methods stand in the implementation of the builder's type. -/
def Written (code : Code) (tokens : List Token) : Prop :=
  ∃ front pieces back, List.Forall₂ Method.Written code.methods pieces ∧
    tokens = front ++ [.word "impl", .word code.name, braces pieces.flatten] ++ back

/-- The methods stand in the tokens of a builder, which finds the run-time library under a path. -/
structure Rendered (code : Code) (builder : Builder) (cratePath : String) (tokens : List Token) : Prop where
  name : Render.identifier builder.name = .ok code.name
  runtime : Render.path cratePath = .ok code.runtime
  constructor : Render.path builder.constructorPath = .ok code.constructor
  methods : code.methods.map Method.name =
    ["from_parts", "new", "create"] ++ builder.setters.map (fun setter => Render.spelled setter.name) ++ ["build"]
  written : code.Written tokens

/-- There is a method of a name, with parameters of these names. -/
def Defines (code : Code) (name : String) (receiver : List (List Token)) (parameters : List String)
    (body : List Token) : Prop :=
  ∃ method ∈ code.methods, method.name = name ∧ method.receiver = receiver ∧
    method.parameters.map OutlineParameter.name = parameters ∧ method.body = body

/-! ## What stands in the bodies -/

/-- `Some(inner)`, as an expression or as a pattern. -/
def present (inner : List Token) : List Token :=
  phrase ":: core :: option :: Option :: Some" ++ [parens inner]

/-- `None`, as an expression or as a pattern. -/
def absent : List Token :=
  phrase ":: core :: option :: Option :: None"

/-- `Self::from_parts(value, …)` -/
def handed (values : List (List Token)) : List Token :=
  phrase "Self :: from_parts" ++ [parens (List.intercalate (op ",") values)]

/-- `Self { field: runtime::Supplied::ready(name), … }`, for pairs of a field and a name. -/
def filled (runtime : List Token) (slots : List (String × String)) : List Token :=
  [.word "Self", braces (slots.flatMap fun (field, name) =>
    [.word field] ++ op ":" ++ runtime ++ phrase ":: Supplied :: ready" ++ [parens [.word name]] ++ op ",")]

/-- `self.field = runtime::Supplied::deferred(callback); self` -/
def replaced (runtime : List Token) (field : String) (callback : List Token) : List Token :=
  phrase "self ." ++ [.word field] ++ op "=" ++ runtime ++ phrase ":: Supplied :: deferred" ++
    [parens callback] ++ phrase "; self"

/-- `move || Some(value())` -/
def wrapping : List Token :=
  phrase "move ||" ++ present (phrase "value" ++ [parens []])

/-- `let mut builder = Self::new(name, …); optbuilder_configure(&mut builder); builder.build()` -/
def adjusted (names : List String) : List Token :=
  phrase "let mut builder = Self :: new" ++
    [parens (List.intercalate (op ",") (names.map fun name => [.word name]))] ++
    op ";" ++ phrase "optbuilder_configure" ++ [parens (phrase "& mut builder")] ++ op ";" ++
    phrase "builder . build" ++ [parens []]

/-- `self.field.resolve()` -/
def taken (field : String) : List Token :=
  phrase "self ." ++ [.word field] ++ phrase ". resolve" ++ [parens []]

/-- `let name = self.field.resolve();`, or `let name = self.field.resolve().unwrap_or_else(|| fallback);` -/
def declared (name field : String) (fallback : Option (List Token)) : List Token :=
  phrase "let" ++ [.word name] ++ op "=" ++ taken field ++
    (match fallback with
      | none => []
      | some expression => phrase ". unwrap_or_else" ++ [parens (op "||" ++ expression)]) ++ op ";"

/-- `<P as runtime::DefaultValueProvider<T>>::get(&P)`, or with `&<P as ::core::default::Default>::default()`
for a provider without a single instance. -/
def asked (runtime : List Token) (call : ProviderCall) : List Token :=
  op "<" ++ call.provider ++ phrase "as" ++ runtime ++ phrase ":: DefaultValueProvider <" ++
    call.produced ++ phrase ">> :: get" ++
    [parens (if call.singleton then
        op "&" ++ call.provider
      else
        phrase "& <" ++ call.provider ++ phrase "as :: core :: default :: Default > :: default" ++ [parens []])]

/-- `name`, or `name: value` with the value that a provider is asked for. -/
def member (runtime : List Token) (name : String) (call : Option ProviderCall) : List Token :=
  match call with
  | none => [.word name]
  | some call => [.word name] ++ op ":" ++ asked runtime call

/-- `Constructor { member, … }` -/
def constructed (constructor : List Token) (members : List (List Token)) : List Token :=
  constructor ++ [braces (members.flatMap (· ++ op ","))]

/-- An arm of a match: a pattern for each value, and the members of a constructing expression. -/
structure Arm where
  patterns : List (List Token)
  members : List (List Token)

/-- `(pattern, …) => Constructor { member, … },` -/
def Arm.tokens (constructor : List Token) (arm : Arm) : List Token :=
  [parens (arm.patterns.flatMap (· ++ op ","))] ++ op "=>" ++ constructed constructor arm.members ++ op ","

/-- `match (self.field.resolve(), …) { arm … }` -/
def matched (constructor : List Token) (fields : List String) (arms : List Arm) : List Token :=
  [.word "match", parens (fields.flatMap (taken · ++ op ",")), braces (arms.flatMap (Arm.tokens constructor))]

/-! ## Patterns -/

section Patterns

variable {α : Type}

/-- A pattern matches a value and binds variables. -/
inductive Matches : List Token → Datum α → List (String × Datum α) → Prop
  | present (name : String) (value : Datum α) :
      Matches (present [.word name]) (.present value) [(name, value)]
  | absent : Matches absent .absent []

/-- A tuple of patterns matches as many values. -/
inductive MatchesAll : List (List Token) → List (Datum α) → List (String × Datum α) → Prop
  | nil : MatchesAll [] [] []
  | cons {pattern : List Token} {patterns : List (List Token)} {value : Datum α} {values : List (Datum α)}
      {bound others : List (String × Datum α)} (hfirst : Matches pattern value bound)
      (hrest : MatchesAll patterns values others) :
      MatchesAll (pattern :: patterns) (value :: values) (bound ++ others)

/-- The patterns of an arm match some values. -/
def Arm.Accepts (arm : Arm) (values : List (Datum α)) : Prop :=
  ∃ bound, MatchesAll arm.patterns values bound

theorem present_injective {inner other : List Token} (h : present inner = present other) : inner = other := by
  simpa [present, parens] using h

theorem present_ne_absent (inner : List Token) : present inner ≠ absent := by
  have hsome : phrase ":: core :: option :: Option :: Some" =
      phrase ":: core :: option :: Option ::" ++ [.word "Some"] := by decide +kernel
  have hnone : phrase ":: core :: option :: Option :: None" =
      phrase ":: core :: option :: Option ::" ++ [.word "None"] := by decide +kernel
  rw [present, absent, hsome, hnone, List.append_assoc, ne_eq, List.append_cancel_left_eq]
  simp

theorem matches_present_iff {name : String} {value : Datum α} {bound : List (String × Datum α)} :
    Matches (present [.word name]) value bound ↔ ∃ inner, value = .present inner ∧ bound = [(name, inner)] := by
  constructor
  · generalize hpattern : present [.word name] = pattern
    rintro (⟨other, inner⟩ | _)
    · obtain rfl : name = other := by simpa using present_injective hpattern
      exact ⟨inner, rfl, rfl⟩
    · exact absurd hpattern (present_ne_absent _)
  · rintro ⟨inner, rfl, rfl⟩
    exact .present name inner

theorem matches_absent_iff {value : Datum α} {bound : List (String × Datum α)} :
    Matches absent value bound ↔ value = .absent ∧ bound = [] := by
  constructor
  · generalize hpattern : absent = pattern
    rintro (⟨name, inner⟩ | _)
    · exact absurd hpattern.symm (present_ne_absent _)
    · exact ⟨rfl, rfl⟩
  · rintro ⟨rfl, rfl⟩
    exact .absent

theorem matchesAll_cons_iff {pattern : List Token} {patterns : List (List Token)} {values : List (Datum α)}
    {bound : List (String × Datum α)} :
    MatchesAll (pattern :: patterns) values bound ↔
      ∃ value rest front back, values = value :: rest ∧ Matches pattern value front ∧
        MatchesAll patterns rest back ∧ bound = front ++ back := by
  constructor
  · rintro (_ | ⟨hfirst, hrest⟩)
    exact ⟨_, _, _, _, rfl, hfirst, hrest, rfl⟩
  · rintro ⟨value, rest, front, back, rfl, hfirst, hrest, rfl⟩
    exact .cons hfirst hrest

end Patterns

end Code

/-! ## The methods of an outline -/

namespace Outline

/-- The pattern that binds a name, or else matches only the absent value. -/
def patternCode : Option String → List Token
  | some name => Code.present [.word name]
  | none => Code.absent

/-- What `from_parts` is given for a slot. -/
def initialCode : OutlineInitial → List Token
  | .argument name => [.word name]
  | .absent => Code.absent
  | .value expression => Code.present expression

variable (outline : Outline)

/-- An arm of the match, in tokens. -/
def armCode (arm : OutlineArm) : Code.Arm where
  patterns := arm.patterns.map patternCode
  members := arm.members.map fun member => Code.member outline.runtime member.name member.call

/-- The end of the method that builds. -/
def bodyCode : List Token :=
  match outline.body with
  | .direct members =>
      Code.constructed outline.constructor
        (members.map fun member => Code.member outline.runtime member.name member.call)
  | .branched slots arms => Code.matched outline.constructor slots (arms.map outline.armCode)

def fromPartsMethod : Method where
  name := "from_parts"
  receiver := []
  parameters := outline.fields.map fun field => ⟨field.name, field.slot⟩
  body := Code.filled outline.runtime (outline.fields.map fun field => (field.name, field.name))

def newMethod : Method where
  name := "new"
  receiver := []
  parameters := outline.mandatory
  body := Code.handed (outline.initials.map initialCode)

def createMethod : Method where
  name := "create"
  receiver := []
  parameters := outline.mandatory ++ [⟨"optbuilder_configure", [.word "OptbuilderFn"]⟩]
  body := Code.adjusted (outline.mandatory.map OutlineParameter.name)

def setterMethod (setter : OutlineSetter) : Method where
  name := setter.name
  receiver := [phrase "& mut self"]
  parameters := [⟨"value", [.word "OptbuilderFn"]⟩]
  body := Code.replaced outline.runtime setter.field (if setter.wraps then Code.wrapping else phrase "value")

def buildMethod : Method where
  name := "build"
  receiver := [phrase "self"]
  parameters := []
  body := (outline.locals.flatMap fun item => Code.declared item.name item.name item.fallback) ++ outline.bodyCode

/-- The methods that the code of an outline has. -/
def code : Code where
  name := outline.name
  runtime := outline.runtime
  constructor := outline.constructor
  methods := [outline.fromPartsMethod, outline.newMethod, outline.createMethod] ++
    outline.setters.map outline.setterMethod ++ [outline.buildMethod]

end Outline

/-! ## The tokens of an outline -/

theorem Render.commaSeparated_eq_intercalate (items : List (List Token)) :
    commaSeparated items = List.intercalate (op ",") items := by
  induction items with
  | nil => rfl
  | cons item items ih =>
      cases items with
      | nil => simp [commaSeparated, List.intercalate]
      | cons other items =>
          rw [commaSeparated, ih, List.intercalate, List.intercalate, List.intersperse_cons_cons, List.flatten_cons,
            List.flatten_cons, List.append_assoc]
          exact nofun

/-- Lists with a comma behind each, and a last one. -/
theorem Render.commaSeparated_concat (items : List (List Token)) (last : List Token) :
    commaSeparated (items ++ [last]) = items.flatMap (· ++ op ",") ++ last := by
  induction items with
  | nil => rfl
  | cons item items ih =>
      have hcons : commaSeparated (item :: (items ++ [last])) = item ++ op "," ++ commaSeparated (items ++ [last]) := by
        cases items <;> rfl
      rw [List.cons_append, hcons, ih, List.flatMap_cons, List.append_assoc, List.append_assoc, List.append_assoc]

namespace Outline

variable {outline : Outline}

theorem construction_eq (members : List OutlineMember) :
    outline.construction members = Code.constructed outline.constructor
      (members.map fun member => Code.member outline.runtime member.name member.call) := by
  rw [construction, Code.constructed, List.flatMap_map]
  rfl

theorem armTokens_eq (arm : OutlineArm) :
    outline.armTokens arm = (outline.armCode arm).tokens outline.constructor := by
  have hpatterns : ∀ patterns : List (Option String),
      (patterns.flatMap fun pattern =>
        (match pattern with
          | some name => Render.someOf [.word name]
          | none => Render.absent) ++ op ",") =
      (patterns.map patternCode).flatMap (· ++ op ",") := by
    intro patterns
    rw [List.flatMap_map]
    refine congrArg (List.flatMap · patterns) (funext fun pattern => ?_)
    cases pattern <;> rfl
  rw [Code.Arm.tokens, armCode, ← hpatterns, ← construction_eq]
  rfl

theorem bodyTokens_eq : outline.bodyTokens = outline.bodyCode := by
  rw [bodyTokens, bodyCode]
  cases outline.body with
  | direct members => exact construction_eq members
  | branched slots arms =>
      dsimp only
      rw [Code.matched, List.flatMap_map, ← funext armTokens_eq]
      rfl

theorem localTokens_eq (item : OutlineLocal) :
    localTokens item = Code.declared item.name item.name item.fallback := rfl

theorem initialTokens_eq (initial : OutlineInitial) : initialTokens initial = initialCode initial := by
  cases initial <;> rfl

theorem suppliedBy_ready (argument : List Token) : outline.suppliedBy "ready" argument =
    outline.runtime ++ phrase ":: Supplied :: ready" ++ [parens argument] := by
  have hphrase : phrase ":: Supplied :: ready" = phrase ":: Supplied ::" ++ [.word "ready"] := by decide +kernel
  rw [suppliedBy, hphrase, List.append_assoc, List.append_assoc, List.append_assoc]
  rfl

theorem suppliedBy_deferred (argument : List Token) : outline.suppliedBy "deferred" argument =
    outline.runtime ++ phrase ":: Supplied :: deferred" ++ [parens argument] := by
  have hphrase : phrase ":: Supplied :: deferred" = phrase ":: Supplied ::" ++ [.word "deferred"] := by
    decide +kernel
  rw [suppliedBy, hphrase, List.append_assoc, List.append_assoc, List.append_assoc]
  rfl

theorem written_fromParts : outline.fromPartsMethod.Written outline.fromParts := by
  refine ⟨[], [], phrase "-> Self", Method.front_nil, List.mem_cons_self, ?_⟩
  rw [fromParts, Render.commaSeparated_eq_intercalate, fromPartsMethod, Code.filled, List.flatMap_map, List.map_map,
    List.nil_append]
  simp only [suppliedBy_ready, typed, List.append_assoc]
  rfl

section Visible

variable (hvisible : Method.Front outline.visibility)

include hvisible

/-- In front of a method stand its documentation and its visibility. -/
theorem front_documented (text : String) : Method.Front (documented text ++ outline.visibility) :=
  (Method.front_attr _).append hvisible

theorem written_newFunction : outline.newMethod.Written outline.newFunction := by
  refine ⟨documented ?text ++ Token.attr (phrase "must_use") ++ outline.visibility, [], phrase "-> Self",
    ((Method.front_attr _).append (Method.front_attr _)).append hvisible, List.mem_cons_self, ?tokens⟩
  case tokens =>
    rw [newFunction, Render.commaSeparated_eq_intercalate, Render.commaSeparated_eq_intercalate, newMethod,
      Code.handed, List.append_nil, List.nil_append, funext initialTokens_eq]
    rfl

theorem written_createFunction : outline.createMethod.Written outline.createFunction := by
  refine ⟨documented ?text ++ outline.visibility, phrase "< OptbuilderFn >",
    op "->" ++ [.word outline.target] ++ callbackConstraint (phrase "& mut Self") [], front_documented hvisible ?text,
    List.mem_cons_of_mem _ List.mem_cons_self, ?tokens⟩
  case tokens =>
    rw [createMethod, List.nil_append, List.map_append, List.map_singleton, ← Render.commaSeparated_eq_intercalate,
      Render.commaSeparated_concat, List.flatMap_map, Code.adjusted, List.map_map,
      ← Render.commaSeparated_eq_intercalate, createFunction]
    simp only [List.append_assoc]
    rfl

theorem written_setterTokens (setter : OutlineSetter) :
    (outline.setterMethod setter).Written (outline.setterTokens setter) := by
  refine ⟨documented ?text ++ outline.visibility, phrase "< OptbuilderFn >",
    phrase "-> & mut Self" ++ callbackConstraint [] (op "->" ++ setter.valueType ++ phrase "+ 'static"),
    front_documented hvisible ?text, List.mem_cons_of_mem _ List.mem_cons_self, ?tokens⟩
  case tokens =>
    rw [setterTokens, setterMethod, Code.replaced, suppliedBy_deferred]
    simp only [List.append_assoc]
    rfl

theorem written_buildFunction : outline.buildMethod.Written outline.buildFunction := by
  refine ⟨documented ?text ++ outline.visibility, [], op "->" ++ [.word outline.target],
    front_documented hvisible ?text, List.mem_cons_self, ?tokens⟩
  case tokens =>
    rw [buildFunction, buildMethod, bodyTokens_eq, funext localTokens_eq]
    simp only [List.append_assoc]
    rfl

/-- The tokens of the methods, one behind the other. -/
theorem written_methods : List.Forall₂ Method.Written outline.code.methods
    ([outline.fromParts, outline.newFunction, outline.createFunction] ++ outline.setters.map outline.setterTokens ++
      [outline.buildFunction]) := by
  have hsetters : List.Forall₂ Method.Written (outline.setters.map outline.setterMethod)
      (outline.setters.map outline.setterTokens) := by
    rw [List.forall₂_map_left_iff, List.forall₂_map_right_iff, List.forall₂_same]
    exact fun setter _ => written_setterTokens hvisible setter
  refine List.rel_append (List.rel_append ?_ hsetters) (.cons (written_buildFunction hvisible) .nil)
  exact .cons written_fromParts
    (.cons (written_newFunction hvisible) (.cons (written_createFunction hvisible) .nil))

/-- The methods of an outline stand in its tokens. -/
theorem written_code : outline.code.Written outline.tokens := by
  refine ⟨outline.structTokens ++ derived, _, outline.defaultTokens ++ outline.debugTokens,
    written_methods hvisible, ?_⟩
  simp [tokens, implTokens, code, List.flatMap_def]

end Visible

/-! ## Patterns and methods by name -/

/-- The patterns of an arm bind in the tokens what they bind in the outline. -/
theorem matchesAll_patternCode_iff {α : Type} {patterns : List (Option String)} {values : List (Datum α)}
    {bound : List (String × Datum α)} :
    Code.MatchesAll (patterns.map patternCode) values bound ↔ bind? patterns values = some bound := by
  induction patterns generalizing values bound with
  | nil =>
      cases values with
      | nil => exact ⟨fun h => by cases h; rfl, fun h => by cases h; exact .nil⟩
      | cons value values => exact ⟨nofun, nofun⟩
  | cons pattern patterns ih =>
      rw [List.map_cons, Code.matchesAll_cons_iff]
      simp only [ih]
      cases pattern with
      | some name =>
          simp only [patternCode, Code.matches_present_iff]
          cases values with
          | nil => simp [bind?]
          | cons value values => cases value <;> simp [bind?, Option.map_eq_some_iff, @eq_comm _ bound]
      | none =>
          simp only [patternCode, Code.matches_absent_iff]
          cases values with
          | nil => simp [bind?]
          | cons value values => cases value <;> simp [bind?]

theorem defines_fromParts : outline.code.Defines "from_parts" [] (outline.fields.map OutlineField.name)
    (Code.filled outline.runtime (outline.fields.map fun field => (field.name, field.name))) := by
  refine ⟨outline.fromPartsMethod, by simp [code], rfl, rfl, ?_, rfl⟩
  rw [fromPartsMethod, List.map_map]
  rfl

theorem defines_new : outline.code.Defines "new" [] (outline.mandatory.map OutlineParameter.name)
    (Code.handed (outline.initials.map initialCode)) :=
  ⟨outline.newMethod, by simp [code], rfl, rfl, rfl, rfl⟩

theorem defines_create :
    outline.code.Defines "create" [] (outline.mandatory.map OutlineParameter.name ++ ["optbuilder_configure"])
      (Code.adjusted (outline.mandatory.map OutlineParameter.name)) := by
  refine ⟨outline.createMethod, by simp [code], rfl, rfl, ?_, rfl⟩
  rw [createMethod, List.map_append, List.map_singleton]

theorem defines_setter {setter : OutlineSetter} (hsetter : setter ∈ outline.setters) :
    outline.code.Defines setter.name [phrase "& mut self"] ["value"]
      (Code.replaced outline.runtime setter.field (if setter.wraps then Code.wrapping else phrase "value")) := by
  refine ⟨outline.setterMethod setter, ?_, rfl, rfl, rfl, rfl⟩
  simp [code, List.mem_map_of_mem hsetter]

theorem defines_build : outline.code.Defines "build" [phrase "self"] []
    ((outline.locals.flatMap fun item => Code.declared item.name item.name item.fallback) ++ outline.bodyCode) :=
  ⟨outline.buildMethod, by simp [code], rfl, rfl, rfl, rfl⟩

end Outline

/-! ## The code of a builder -/

namespace Render

theorem front_visibility {seen : Visibility} {tokens : List Token} (h : visibility seen = .ok tokens) :
    Method.Front tokens := by
  cases seen with
  | everywhere | ownModule =>
      cases h
      constructor <;> simp [braces]
  | within scope =>
      obtain ⟨tree, _, rfl⟩ := map_eq_ok.mp h
      cases tree <;> constructor <;> simp [Grammar.VisibilityTree.tokens, parens, braces]

/-- The methods of its outline stand in the tokens of a builder. -/
theorem rendered_code {builder : Builder} {cratePath : String} {outline : Outline}
    (houtline : Render.outline builder cratePath = .ok outline) :
    outline.code.Rendered builder cratePath outline.tokens := by
  unfold Render.outline at houtline
  obtain ⟨runtime, hruntime, houtline⟩ := bind_eq_ok.mp houtline
  obtain ⟨name, hname, houtline⟩ := bind_eq_ok.mp houtline
  obtain ⟨target, _, houtline⟩ := bind_eq_ok.mp houtline
  obtain ⟨visibility, hvisibility, houtline⟩ := bind_eq_ok.mp houtline
  obtain ⟨fields, _, houtline⟩ := bind_eq_ok.mp houtline
  obtain ⟨mandatory, _, houtline⟩ := bind_eq_ok.mp houtline
  obtain ⟨initials, _, houtline⟩ := bind_eq_ok.mp houtline
  obtain ⟨setters, hsetters, houtline⟩ := bind_eq_ok.mp houtline
  obtain ⟨constructor, hconstructor, houtline⟩ := bind_eq_ok.mp houtline
  obtain ⟨locals, _, houtline⟩ := bind_eq_ok.mp houtline
  obtain ⟨body, _, houtline⟩ := bind_eq_ok.mp houtline
  obtain rfl := pure_eq_ok.mp houtline
  refine ⟨hname, hruntime, hconstructor, ?_, Outline.written_code (front_visibility hvisibility)⟩
  have hspelled := map_eq_map_of_forall₂ (mapM_eq_ok.mp hsetters) fun setter outlined hsetter =>
    (outlineSetter_eq_ok hsetter).1.symm
  rw [hspelled]
  simp [Outline.code, Outline.fromPartsMethod, Outline.newMethod, Outline.createMethod, Outline.buildMethod,
    Outline.setterMethod]

end Render

end BuilderGen
