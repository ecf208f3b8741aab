import BuilderGen.Json.Builder

/-!
# The JSON form loses nothing

Reading the JSON form of a value gives the value back, for every part of declarations and of builders.  Parts that
are left out (arguments, requested names, the content of a constructor without any) are what their absence stands
for.

Each law is about the reader and the writer of one type, and rests on the laws of the types inside.  A record is
read field by field, so its law comes down to the look-ups of its keys.  Declared types nest, and there the law is
an induction over types and lists of types.
-/

namespace BuilderGen

namespace Json

variable {α : Type} {fields : List (String × Json)} {key other : String} {read : Json → Option α}
  {write : α → Json}

/-! ## Values -/

@[simp] theorem text?_text (value : String) : text? (.text value) = some value := rfl

@[simp] theorem bool?_bool (value : Bool) : bool? (.bool value) = some value := rfl

@[simp] theorem object?_object (fields : List (String × Json)) : object? (.object fields) = some fields := rfl

@[simp] theorem record?_object (keys : List String) (fields : List (String × Json)) :
    record? keys (.object fields) = some fields := rfl

/-- A list is read when its items are. -/
theorem list?_map (hread : ∀ value, read (write value) = some value) (values : List α) :
    list? read (.array (values.map write)) = some values := by
  rw [list?]
  induction values with
  | nil => rfl
  | cons value values ih =>
      rw [List.map_cons, List.mapM_cons, hread, ih]
      rfl

@[simp] theorem list?_ofTexts (texts : List String) : list? text? (ofTexts texts) = some texts := by
  rw [ofTexts, list?_map text?_text]

/-! ## Fields -/

@[simp] theorem required_cons_self (value : Json) : required ((key, value) :: fields) key read = read value := by
  rw [required, List.lookup_cons_self, Option.bind_some]

@[simp] theorem required_cons_of_ne (hne : key ≠ other) (value : Json) :
    required ((other, value) :: fields) key read = required fields key read := by
  rw [required, List.lookup_cons, beq_eq_false_iff_ne.mpr hne, required]

@[simp] theorem defaulted_cons_self (fallback : α) (value : Json) :
    defaulted ((key, value) :: fields) key fallback read = read value := by
  rw [defaulted, List.lookup_cons_self]

@[simp] theorem defaulted_cons_of_ne (hne : key ≠ other) (fallback : α) (value : Json) :
    defaulted ((other, value) :: fields) key fallback read = defaulted fields key fallback read := by
  rw [defaulted, List.lookup_cons, beq_eq_false_iff_ne.mpr hne, defaulted]

@[simp] theorem optional_cons_of_ne (hne : key ≠ other) (value : Json) :
    optional ((other, value) :: fields) key read = optional fields key read := by
  rw [optional, defaulted_cons_of_ne hne, optional]

/-- A text that is left out when there is none is read as what it was. -/
@[simp] theorem optional_field?_text (hfresh : fields.lookup key = none) (value : Option String) :
    optional (field? key (value.map .text) ++ fields) key text? = some value := by
  cases value with
  | none => rw [optional, defaulted, Option.map_none, field?, List.nil_append, hfresh]
  | some value => rw [optional, Option.map_some, field?, List.singleton_append, defaulted_cons_self]; rfl

/-- A field that may be left out does not hide the others. -/
@[simp] theorem required_field?_append (hne : key ≠ other) (value : Option Json) :
    required (field? other value ++ fields) key read = required fields key read := by
  cases value with
  | none => rfl
  | some value => exact required_cons_of_ne hne value

@[simp] theorem defaulted_field?_append (hne : key ≠ other) (fallback : α) (value : Option Json) :
    defaulted (field? other value ++ fields) key fallback read = defaulted fields key fallback read := by
  cases value with
  | none => rfl
  | some value => exact defaulted_cons_of_ne hne fallback value

@[simp] theorem optional_cons_self_ofOption (value : Option String) :
    optional ((key, ofOption .text value) :: fields) key text? = some value := by
  rw [optional, defaulted_cons_self]
  cases value <;> rfl

end Json

open Json (list?_map)

/-! ## Types -/

@[simp] theorem TypeHead.ofJson?_toJson (head : TypeHead) : ofJson? head.toJson = some head := by
  cases head <;> rfl

namespace DeclaredType

/-- The arguments of a type are read as what they were, also when they were left out. -/
theorem ofFields?_args (head : Option TypeHead) (nullable : Bool) (fields : List (String × Json))
    {types : List DeclaredType} (htypes : listOfJson? (toJsonAll types) = some types) :
    ofFields? head [] nullable
        (Json.field? "args" (if types.isEmpty then none else some (.array (toJsonAll types))) ++ fields) =
      ofFields? head types nullable fields := by
  cases types with
  | nil => rfl
  | cons type types => simp [Json.field?, ofFields?, htypes]

mutual

@[simp] theorem ofJson?_toJson (type : DeclaredType) : ofJson? type.toJson = some type := by
  obtain ⟨head, args, nullable⟩ := type
  have hargs := ofFields?_args (some head) false [("nullable", .bool nullable)] (listOfJson?_toJsonAll args)
  simp only [toJson, ofJson?, List.cons_append, List.nil_append, ofFields?, if_true, TypeHead.ofJson?_toJson, hargs]
  simp

theorem listOfJson?_toJsonAll (types : List DeclaredType) : listOfJson? (toJsonAll types) = some types := by
  cases types with
  | nil => rfl
  | cons type types => simp [toJsonAll, listOfJson?, ofJson?_toJson type, listOfJson?_toJsonAll types]

end

end DeclaredType

/-! ## Declarations -/

@[simp] theorem VariantEnd.ofJson?_keyword (position : VariantEnd) :
    ofJson? (.text position.keyword) = some position := by
  cases position <;> rfl

@[simp] theorem Marking.ofJson?_toJson (marking : Marking) : ofJson? marking.toJson = some marking := by
  cases marking <;> simp [toJson, ofJson?]

@[simp] theorem Parameter.ofJson?_toJson (parameter : Parameter) : ofJson? parameter.toJson = some parameter := by
  simp [toJson, ofJson?]

@[simp] theorem Constructor.ofJson?_toJson (constructor : Constructor) :
    ofJson? constructor.toJson = some constructor := by
  simp [toJson, ofJson?, list?_map Parameter.ofJson?_toJson]

@[simp] theorem Visibility.ofJson?_toJson (visibility : Visibility) : ofJson? visibility.toJson = some visibility := by
  cases visibility <;> simp [toJson, ofJson?]

@[simp] theorem Aggregate.ofJson?_toJson (aggregate : Aggregate) : ofJson? aggregate.toJson = some aggregate := by
  simp [toJson, ofJson?, list?_map Constructor.ofJson?_toJson]

@[simp] theorem Enumeration.ofJson?_toJson (enumeration : Enumeration) :
    ofJson? enumeration.toJson = some enumeration := by
  simp [toJson, ofJson?]

@[simp] theorem Provider.Form.ofJson?_keyword (form : Form) : ofJson? (.text form.keyword) = some form := by
  cases form <;> rfl

@[simp] theorem Provider.ofJson?_toJson (provider : Provider) : ofJson? provider.toJson = some provider := by
  simp [toJson, ofJson?, list?_map DeclaredType.ofJson?_toJson]

theorem Declarations.ofJson?_toJson (declarations : Declarations) :
    ofJson? declarations.toJson = some declarations := by
  simp [toJson, ofJson?, list?_map Aggregate.ofJson?_toJson, list?_map Provider.ofJson?_toJson,
    list?_map Enumeration.ofJson?_toJson]

/-! ## Builders -/

@[simp] theorem Strategy.ofJson?_toJson (strategy : Strategy) : ofJson? strategy.toJson = some strategy := by
  cases strategy <;> simp [toJson, ofJson?, Json.keyword?, ZeroKind.ofKeyword?_keyword]

@[simp] theorem Field.ofJson?_toJson (field : Field) : ofJson? field.toJson = some field := by
  simp [toJson, ofJson?]

@[simp] theorem Setter.ofJson?_toJson (setter : Setter) : ofJson? setter.toJson = some setter := by
  simp [toJson, ofJson?]

@[simp] theorem Initial.ofJson?_toJson (initial : Initial) : ofJson? initial.toJson = some initial := by
  cases initial <;> rfl

@[simp] theorem DefaultValue.ofJson?_toJson (value : DefaultValue) : ofJson? value.toJson = some value := by
  simp [toJson, ofJson?]

@[simp] theorem Factory.ofJson?_toJson (factory : Factory) : ofJson? factory.toJson = some factory := by
  simp [toJson, ofJson?, list?_map DefaultValue.ofJson?_toJson]

@[simp] theorem Resolution.ofJson?_toJson (resolution : Resolution) : ofJson? resolution.toJson = some resolution := by
  cases resolution <;> rfl

@[simp] theorem FieldResolution.ofJson?_toJson (resolution : FieldResolution) :
    ofJson? resolution.toJson = some resolution := by
  simp [toJson, ofJson?]

@[simp] theorem Binding.ofJson?_toJson (binding : Binding) : ofJson? binding.toJson = some binding := by
  simp [toJson, ofJson?]

@[simp] theorem Branch.ofJson?_toJson (branch : Branch) : ofJson? branch.toJson = some branch := by
  simp [toJson, ofJson?]

@[simp] theorem Plan.ofJson?_toJson (plan : Plan) : ofJson? plan.toJson = some plan := by
  cases plan <;>
    simp [toJson, ofJson?, list?_map FieldResolution.ofJson?_toJson, list?_map Binding.ofJson?_toJson,
      list?_map Branch.ofJson?_toJson]

theorem Builder.ofJson?_toJson (builder : Builder) : ofJson? builder.toJson = some builder := by
  simp [toJson, ofJson?, list?_map Field.ofJson?_toJson, list?_map Setter.ofJson?_toJson]

/-- The JSON form of the model is lossless: builders and declarations are read back as what they were. -/
theorem Json.model_restored :
    (∀ builder : Builder, Builder.ofJson? builder.toJson = some builder) ∧
      ∀ declarations : Declarations, Declarations.ofJson? declarations.toJson = some declarations :=
  ⟨Builder.ofJson?_toJson, Declarations.ofJson?_toJson⟩

end BuilderGen
