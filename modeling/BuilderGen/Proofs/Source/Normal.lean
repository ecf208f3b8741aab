import BuilderGen.Proofs.Grammar.PlainType
import BuilderGen.Proofs.Render.Types
import BuilderGen.Source.Describe
import Mathlib.Tactic.Choose

/-!
# Normal types

A declared type is normal when it is what a plain type is described as.  Such a type has no part that is kept as text,
and it is not named `Option` with one argument unless it is nullable, since the option would have been folded.  Writing
a normal type and describing what is read gives the type back, at any depth of options, arguments and arrays.

A nullable type is written with an option around it.  Describing folds that option again, and when the type inside is
described as nullable too, it is the plain description of it that stays.  `describe_option` covers both cases, and so
the induction over normal types only has to say what the type without its flag is written as.
-/

namespace BuilderGen

open Grammar

/-! ## Normal types -/

/-- A text that is one literal, a whole number. -/
structure IsWhole (text : String) : Prop where
  token : Lexer.tokenize text = some [.literal text]
  value : (Literal.whole? text).isSome = true

section Normal

variable (IsName : String → Prop)

/-- The names of a path to a type, with the last one apart.  They satisfy `IsName`, and besides they are words that may
stand in such a path: identifiers, and the few keywords that name modules or the type at hand. -/
structure IsTypePath (front : List String) (last : String) : Prop where
  leads : ∀ name ∈ front, isSegmentName name = true ∧ name ≠ "try"
  takes : takesTypes last = true
  names : ∀ name ∈ front ++ [last], IsName name

/-- Identifiers may stand anywhere in the path of a type. -/
theorem isTypePath_of_isIdentifier {front : List String} {last : String}
    (h : ∀ name ∈ front ++ [last], isIdentifier name = true) :
    IsTypePath (isIdentifier · = true) front last where
  leads := by
    intro name hname
    have hidentifier := h name (List.mem_append_left _ hname)
    refine ⟨isSegmentName_of_isIdentifier hidentifier, ?_⟩
    rintro rfl
    exact absurd hidentifier (by decide +kernel)
  takes := by rw [takesTypes, h last (by simp), Bool.true_or]
  names := h

/-- Normal types.  Where no argument or flag is restricted there may be any. -/
inductive DeclaredType.Normal : DeclaredType → Prop
  | unit (nullable : Bool) : Normal ⟨.unit, [], nullable⟩
  | array {element : DeclaredType} {length : String} (hlength : IsWhole length) (helement : Normal element)
      (nullable : Bool) : Normal ⟨.array length, [element], nullable⟩
  | named {front : List String} {last : String} {args : List DeclaredType} {nullable : Bool}
      (hpath : IsTypePath IsName front last) (hargs : ∀ arg ∈ args, Normal arg)
      (hoption : nullable = true ∨ ¬(last = "Option" ∧ args.length = 1)) (leading : Bool) :
      Normal ⟨.named (NamePath.text ⟨leading, front ++ [last]⟩), args, nullable⟩

/-- Arguments that are types. -/
inductive Grammar.Arguments.Are : Arguments → List TypeTree → Prop
  | none : Are .none []
  | angle (separated : Bool) (items : List (TypeTree × Bool)) :
      Are (.angle separated (items.map fun item => .type item.1 item.2)) (items.map Prod.fst)

/-- Plain types: units, arrays of a whole length, and paths with types behind the last name only. -/
inductive Grammar.TypeTree.Plain : TypeTree → Prop
  | unit : Plain .unit
  | array {element : TypeTree} {length : String} (hlength : IsWhole length) (helement : Plain element) :
      Plain (.array element [.literal length])
  | path {front : List Segment} {last : String} {arguments : Arguments} {types : List TypeTree}
      (hpath : IsTypePath IsName (front.map Segment.name) last) (hfront : ∀ segment ∈ front, segment.arguments.Are [])
      (harguments : arguments.Are types) (htypes : ∀ type ∈ types, Plain type) (leading : Bool) :
      Plain (.path leading (front ++ [.mk last arguments]))

end Normal

/-! ## Descriptions of paths -/

namespace TypeView

section Paths

variable {front : List Segment} {last : String} {arguments : Arguments} {types : List TypeTree}

theorem ofArguments_of_are (h : arguments.Are types) : ofArguments arguments = some (types.map ofTree) := by
  cases h with
  | none => rfl
  | angle separated items =>
      rw [ofArguments]
      induction items with
      | nil => rfl
      | cons item items ih => rw [List.map_cons, ofItems, ih, Option.map_some, List.map_cons, List.map_cons]

theorem ofLastSegment_concat (front : List Segment) (last : String) (arguments : Arguments) :
    ofLastSegment (front ++ [.mk last arguments]) = ofArguments arguments := by
  induction front with
  | nil => rfl
  | cons segment front ih =>
      rw [List.cons_append, ofLastSegment, ih]
      simp

theorem eq_of_are_nil (h : arguments.Are []) : arguments = .none ∨ ∃ separated, arguments = .angle separated [] := by
  generalize htypes : ([] : List TypeTree) = types at h
  cases h with
  | none => exact .inl rfl
  | angle separated items =>
      rw [List.map_eq_nil_iff.mp htypes.symm]
      exact .inr ⟨separated, rfl⟩

theorem leadsBare_concat (hfront : ∀ segment ∈ front, segment.arguments.Are []) (last : Segment) :
    leadsBare (front ++ [last]) = true := by
  induction front with
  | nil => rfl
  | cons segment front ih =>
      obtain ⟨hsegment, hrest⟩ := List.forall_mem_cons.mp hfront
      have hnonempty : front ++ [last] ≠ [] := List.append_ne_nil_of_right_ne_nil front (List.cons_ne_nil last [])
      have hlater := ih hrest
      obtain ⟨next, more, hmore⟩ := List.exists_cons_of_ne_nil hnonempty
      rw [hmore] at hlater
      rw [List.cons_append, hmore]
      obtain ⟨name, arguments⟩ := segment
      rcases eq_of_are_nil hsegment with heq | ⟨separated, heq⟩
      · cases heq
        simpa [leadsBare] using hlater
      · cases heq
        simpa [leadsBare] using hlater

theorem pathText_concat (leading : Bool) (front : List Segment) (last : String) (arguments : Arguments) :
    pathText leading (front ++ [.mk last arguments]) = NamePath.text ⟨leading, front.map Segment.name ++ [last]⟩ := by
  rw [pathText, NamePath.text, List.map_append]
  rfl

/-- The plain description of a path with types behind its last name only. -/
def named (leading : Bool) (names : List String) (types : List TypeTree) : DeclaredType :=
  ⟨.named (NamePath.text ⟨leading, names⟩), types.map describe, false⟩

theorem plain_path (leading : Bool) (hfront : ∀ segment ∈ front, segment.arguments.Are [])
    (harguments : arguments.Are types) :
    (ofTree (.path leading (front ++ [.mk last arguments]))).plain =
      named leading (front.map Segment.name ++ [last]) types := by
  rw [ofTree, ofLastSegment_concat, ofArguments_of_are harguments, leadsBare_concat hfront, pathText_concat]
  simp [named, describe, Function.comp_def]

/-- An option is folded. -/
theorem folded_option (leading : Bool) (front : List Segment) {inner : TypeTree} (harguments : arguments.Are [inner]) :
    (ofTree (.path leading (front ++ [.mk "Option" arguments]))).folded = (ofTree inner).option := by
  rw [ofTree, ofLastSegment_concat, ofArguments_of_are harguments]
  simp [lastName, Segment.name]

/-- Every other path is described as it stands. -/
theorem folded_path (leading : Bool) (hfront : ∀ segment ∈ front, segment.arguments.Are [])
    (harguments : arguments.Are types) (hoption : ¬(last = "Option" ∧ types.length = 1)) :
    (ofTree (.path leading (front ++ [.mk last arguments]))).folded =
      named leading (front.map Segment.name ++ [last]) types := by
  rw [← plain_path leading hfront harguments]
  rw [ofTree, ofLastSegment_concat, ofArguments_of_are harguments]
  rcases types with _ | ⟨first, _ | ⟨second, rest⟩⟩
  · rfl
  · have hlast : last ≠ "Option" := fun heq => hoption ⟨heq, rfl⟩
    simp [lastName, Segment.name, hlast]
  · rfl

theorem nullable_option (view : TypeView) : view.option.nullable = true := by
  rw [option]
  split <;> rfl

/-- An option around a path keeps the path as it stands: a path that is an option itself is not folded again. -/
theorem option_path (leading : Bool) (hfront : ∀ segment ∈ front, segment.arguments.Are [])
    (harguments : arguments.Are types) :
    (ofTree (.path leading (front ++ [.mk last arguments]))).option =
      (named leading (front.map Segment.name ++ [last]) types).orAbsent := by
  by_cases hoption : last = "Option" ∧ types.length = 1
  · obtain ⟨rfl, hlength⟩ := hoption
    obtain ⟨inner, rfl⟩ := List.length_eq_one_iff.mp hlength
    rw [option, folded_option leading front harguments, if_pos (nullable_option _),
      plain_path leading hfront harguments]
  · have hfolded := folded_path leading hfront harguments hoption
    rw [option, hfolded, if_neg (by simp [named])]

end Paths

end TypeView

/-! ## What plain types are described as -/

section Described

variable {IsName : String → Prop}

theorem print_literal (text : String) : Token.print [.literal text] = text := by
  simp [Token.print, Token.piecesOfList, Token.pieces, String.join]

theorem DeclaredType.Normal.orAbsent {declared : DeclaredType} (h : declared.Normal IsName) :
    declared.orAbsent.Normal IsName := by
  cases h with
  | unit nullable => exact .unit true
  | array hlength helement nullable => exact .array hlength helement true
  | named hpath hargs hoption leading => exact .named hpath hargs (.inl rfl) leading

/-- Both descriptions of a plain type are normal, the plain one where it may be used: under a flag. -/
theorem normal_ofTree {tree : TypeTree} (h : tree.Plain IsName) :
    (TypeView.ofTree tree).folded.Normal IsName ∧
      ((TypeView.ofTree tree).folded.nullable = true → (TypeView.ofTree tree).plain.orAbsent.Normal IsName) := by
  induction h with
  | unit => exact ⟨.unit false, fun hnullable => absurd hnullable Bool.false_ne_true⟩
  | array hlength _ ih =>
      rw [TypeView.ofTree, print_literal]
      exact ⟨.array hlength ih.1 false, fun hnullable => absurd hnullable Bool.false_ne_true⟩
  | @path front last arguments types hpath hfront harguments _ leading ih =>
      have hargs : ∀ arg ∈ types.map describe, arg.Normal IsName := by
        intro arg harg
        obtain ⟨type, htype, rfl⟩ := List.mem_map.mp harg
        exact (ih type htype).1
      refine ⟨?_, fun _ => ?_⟩
      · by_cases hoption : last = "Option" ∧ types.length = 1
        · obtain ⟨rfl, hlength⟩ := hoption
          obtain ⟨inner, rfl⟩ := List.length_eq_one_iff.mp hlength
          obtain ⟨hfolded, hplain⟩ := ih inner List.mem_cons_self
          rw [TypeView.folded_option leading front harguments, TypeView.option]
          split
          · rename_i hnullable
            exact hplain hnullable
          · exact hfolded.orAbsent
        · rw [TypeView.folded_path leading hfront harguments hoption]
          rw [← @List.length_map _ _ types describe] at hoption
          exact .named hpath hargs (.inr hoption) leading
      · rw [TypeView.plain_path leading hfront harguments]
        exact .named hpath hargs (.inl rfl) leading

end Described

/-! ## What normal types are written as -/

section Written

variable {IsName : String → Prop}

/-- The type of an option as it is written around another type. -/
def optionTree (inner : TypeTree) : TypeTree :=
  typePath true ["core", "option"] "Option" [inner]

theorem tokens_optionTree (inner : TypeTree) : (optionTree inner).tokens = Render.optionOf inner.tokens := by
  have hphrases : Token.phrase ":: core :: option :: Option <" =
      (TypeTree.path true (["core", "option", "Option"].map bareSegment)).tokens ++ Token.op "<" ∧
        Token.phrase ">" = Token.op ">" := by
    decide +kernel
  rw [optionTree, tokens_typePath, tokens_typeArguments (List.cons_ne_nil _ _), Render.optionOf, hphrases.1, hphrases.2]
  simp [Render.commaSeparated]

theorem returns_optionTree {inner : TypeTree} (h : inner.Returns) : (optionTree inner).Returns :=
  returns_typePath true (by decide +kernel) (by decide +kernel) (List.forall_mem_singleton.mpr h)

theorem are_listed (trees : List TypeTree) :
    ∃ items : List (TypeTree × Bool), listed trees = items.map (fun item => .type item.1 item.2) ∧
      items.map Prod.fst = trees := by
  fun_induction listed trees with
  | case1 => exact ⟨[], rfl, rfl⟩
  | case2 tree => exact ⟨[(tree, false)], rfl, rfl⟩
  | case3 tree next rest ih =>
      obtain ⟨items, hlisted, htrees⟩ := ih
      exact ⟨(tree, true) :: items, by rw [hlisted, List.map_cons], by rw [List.map_cons, htrees]⟩

theorem are_typeArguments (trees : List TypeTree) : (typeArguments trees).Are trees := by
  cases trees with
  | nil => exact .none
  | cons tree trees =>
      obtain ⟨items, hlisted, htrees⟩ := are_listed (tree :: trees)
      rw [typeArguments, hlisted, ← htrees]
      exact .angle false items

theorem are_bareSegment (names : List String) : ∀ segment ∈ names.map bareSegment, segment.arguments.Are [] := by
  intro segment hsegment
  obtain ⟨name, _, rfl⟩ := List.mem_map.mp hsegment
  exact .none

@[simp] theorem map_name_bareSegment (names : List String) : (names.map bareSegment).map Segment.name = names := by
  rw [List.map_map]
  exact List.map_id names

/-- The paths that normal types are written as are plain. -/
theorem plain_typePath {front : List String} {last : String} {trees : List TypeTree}
    (hpath : IsTypePath IsName front last) (htrees : ∀ tree ∈ trees, tree.Plain IsName) (leading : Bool) :
    (typePath leading front last trees).Plain IsName := by
  rw [← map_name_bareSegment front] at hpath
  exact .path hpath (are_bareSegment front) (are_typeArguments trees) htrees leading

/-- The type of a flagged type as it is written. -/
def flaggedTree (nullable : Bool) (tree : TypeTree) : TypeTree :=
  if nullable then optionTree tree else tree

theorem tokens_flaggedTree (nullable : Bool) (tree : TypeTree) :
    (flaggedTree nullable tree).tokens = if nullable then Render.optionOf tree.tokens else tree.tokens := by
  cases nullable with
  | false => rfl
  | true => exact tokens_optionTree tree

theorem returns_flaggedTree (nullable : Bool) {tree : TypeTree} (h : tree.Returns) :
    (flaggedTree nullable tree).Returns := by
  cases nullable with
  | false => exact h
  | true => exact returns_optionTree h

theorem type_unit (nullable : Bool) :
    Render.type ⟨.unit, [], nullable⟩ = .ok (flaggedTree nullable .unit).tokens := by
  rw [tokens_flaggedTree]
  rfl

theorem type_array {element : DeclaredType} {length : String} {tree : TypeTree} (hlength : IsWhole length)
    (helement : Render.type element = .ok tree.tokens) (nullable : Bool) :
    Render.type ⟨.array length, [element], nullable⟩ =
      .ok (flaggedTree nullable (.array tree [.literal length])).tokens := by
  have hexpression : Render.expression length = .ok [.literal length] := by
    have hread := expression_literal (8 * weightOfList [.literal length] + 14) true length
    refine mapError_eq_ok.mpr (readText_eq_ok.mpr ⟨_, hlength.token, ?_⟩)
    rw [Parsers.enough, map_apply, hread]
    rfl
  rw [tokens_flaggedTree, Render.type.eq_def]
  dsimp only
  rw [helement, hexpression]
  rfl

theorem types_eq_ok {args : List DeclaredType} {tree : DeclaredType → TypeTree}
    (h : ∀ arg ∈ args, Render.type arg = .ok (tree arg).tokens) :
    Render.types args = .ok ((args.map tree).map TypeTree.tokens) := by
  induction args with
  | nil => rfl
  | cons arg args ih =>
      obtain ⟨harg, hargs⟩ := List.forall_mem_cons.mp h
      rw [Render.types, harg, ih hargs]
      rfl

theorem type_named {front : List String} {last : String} {args : List DeclaredType} {tree : DeclaredType → TypeTree}
    (hpath : IsTypePath IsName front last) (hargs : ∀ arg ∈ args, Render.type arg = .ok (tree arg).tokens)
    (leading nullable : Bool) :
    Render.type ⟨.named (NamePath.text ⟨leading, front ++ [last]⟩), args, nullable⟩ =
      .ok (flaggedTree nullable (typePath leading front last (args.map tree))).tokens := by
  have hnames : IsPath ⟨leading, front ++ [last]⟩ := by
    refine ⟨List.append_ne_nil_of_right_ne_nil front (List.cons_ne_nil last []), fun name hname => ?_⟩
    rcases List.mem_append.mp hname with hfront | hlast
    · exact (hpath.leads name hfront).1
    · rw [List.mem_singleton.mp hlast]
      exact isSegmentName_of_takesTypes hpath.takes
  have hbase : Render.path (NamePath.text ⟨leading, front ++ [last]⟩) = _ := mapError_eq_ok.mpr hnames.pathOfText?
  rw [tokens_flaggedTree, tokens_typePath, Render.type.eq_def]
  dsimp only
  rw [hbase, types_eq_ok hargs]
  cases args with
  | nil => simp [typeArguments, Arguments.tokens, bind, Except.bind, pure, Except.pure]
  | cons arg args =>
      rw [tokens_typeArguments (by simp)]
      simp [bind, Except.bind, pure, Except.pure]

theorem describe_optionTree (inner : TypeTree) : describe (optionTree inner) = (TypeView.ofTree inner).option :=
  TypeView.folded_option true _ (are_typeArguments [inner])

theorem describe_unit (nullable : Bool) : describe (flaggedTree nullable .unit) = ⟨.unit, [], nullable⟩ := by
  cases nullable with
  | false => rfl
  | true => exact describe_optionTree .unit

theorem describe_array (element : TypeTree) (length : String) (nullable : Bool) :
    describe (flaggedTree nullable (.array element [.literal length])) =
      ⟨.array length, [describe element], nullable⟩ := by
  have hfolded : describe (.array element [.literal length]) = ⟨.array length, [describe element], false⟩ := by
    rw [describe, TypeView.ofTree, print_literal]
    rfl
  cases nullable with
  | false => exact hfolded
  | true =>
      refine (describe_optionTree _).trans ?_
      rw [describe] at hfolded
      rw [TypeView.option, hfolded]
      rfl

/-- A path is described by its names, unless it is an option without a flag. -/
theorem describe_typePath {last : String} {trees : List TypeTree} {nullable : Bool}
    (hoption : nullable = true ∨ ¬(last = "Option" ∧ trees.length = 1)) (leading : Bool) (front : List String) :
    describe (flaggedTree nullable (typePath leading front last trees)) =
      ⟨.named (NamePath.text ⟨leading, front ++ [last]⟩), trees.map describe, nullable⟩ := by
  have harguments := are_typeArguments trees
  cases nullable with
  | false =>
      have hfolded := TypeView.folded_path leading (are_bareSegment front) harguments
        (hoption.resolve_left Bool.false_ne_true)
      rw [map_name_bareSegment] at hfolded
      exact hfolded
  | true =>
      refine (describe_optionTree _).trans ?_
      rw [typePath, TypeView.option_path leading (are_bareSegment front) harguments, map_name_bareSegment]
      rfl

/-- A normal type is written as a type that comes back and is described as the normal type. -/
theorem exists_written {declared : DeclaredType} (h : declared.Normal IsName) :
    ∃ tree : TypeTree, Render.type declared = .ok tree.tokens ∧ tree.Returns ∧ describe tree = declared := by
  induction h with
  | unit nullable =>
      exact ⟨_, type_unit nullable, returns_flaggedTree nullable returns_unit, describe_unit nullable⟩
  | array hlength _ nullable ih =>
      obtain ⟨tree, htokens, hreturns, rfl⟩ := ih
      exact ⟨_, type_array hlength htokens nullable, returns_flaggedTree nullable (returns_array hreturns _),
        describe_array tree _ nullable⟩
  | @named front last args nullable hpath _ hoption leading ih =>
      choose! tree htree using ih
      have hreturns : ∀ written ∈ args.map tree, written.Returns := by
        intro written hwritten
        obtain ⟨arg, harg, rfl⟩ := List.mem_map.mp hwritten
        exact (htree arg harg).2.1
      have hargs : (args.map tree).map describe = args := by
        rw [List.map_map]
        exact (List.map_congr_left fun arg harg => (htree arg harg).2.2).trans (List.map_id' args)
      refine ⟨_, type_named hpath (fun arg harg => (htree arg harg).1) leading nullable,
        returns_flaggedTree nullable (returns_typePath leading hpath.leads hpath.takes hreturns), ?_⟩
      rw [← @List.length_map _ _ args tree] at hoption
      rw [describe_typePath hoption, hargs]

end Written

/-- Writing a type and describing what is read are inverse to each other on normal types.

Every normal type is written, what is written is read as a type to its end, and that type is described as the one that
was written.  Every plain type is described as a normal type.  This holds for whatever names the paths are restricted
to, for instance identifiers, as long as they may stand in the path of a type. -/
theorem describe_written (IsName : String → Prop) :
    (∀ declared : DeclaredType, declared.Normal IsName → ∃ tokens tree, Render.type declared = .ok tokens ∧
      Grammar.read (fun g => g.type true) tokens = .ok tree ∧ describe tree = declared) ∧
      ∀ tree : TypeTree, tree.Plain IsName → (describe tree).Normal IsName := by
  refine ⟨fun declared hnormal => ?_, fun tree hplain => (normal_ofTree hplain).1⟩
  obtain ⟨tree, htokens, hreturns, hdescribe⟩ := exists_written hnormal
  have hread := hreturns.reads (8 * weightOfList tree.tokens + 16) (by omega) [] rfl
  rw [List.append_nil] at hread
  refine ⟨tree.tokens, tree, htokens, ?_, hdescribe⟩
  rw [Grammar.read, Parsers.enough, complete, hread]
  rfl

/-! ## A sample -/

namespace Shop

/-- The type `Option<Option<Stock<[Option<u8>; 3], ()>>>`, described. -/
def stockType : DeclaredType :=
  let row : DeclaredType := ⟨.array "3", [⟨.named "u8", [], true⟩], false⟩
  ⟨.named "Option", [⟨.named "Stock", [row, ⟨.unit, [], false⟩], false⟩], true⟩

/-- The type `[::shop::Shelf<()>; 3]`. -/
def shelvesTree : TypeTree :=
  .array (typePath true ["shop"] "Shelf" [.unit]) [.literal "3"]

/-- A name is a path. -/
theorem normal_name {name : String} {args : List DeclaredType} {nullable : Bool} (hname : isIdentifier name = true)
    (hargs : ∀ arg ∈ args, arg.Normal (isIdentifier · = true))
    (hoption : nullable = true ∨ ¬(name = "Option" ∧ args.length = 1)) :
    DeclaredType.Normal (isIdentifier · = true) ⟨.named name, args, nullable⟩ := by
  have htext : NamePath.text ⟨false, [] ++ [name]⟩ = name := by simp [NamePath.text]
  have hpath := @isTypePath_of_isIdentifier [] name (List.forall_mem_singleton.mpr hname)
  have hnormal := DeclaredType.Normal.named hpath hargs hoption false
  rwa [htext] at hnormal

/-- Options of both kinds survive, inside of an array and around a type. -/
theorem stock_written :
    stockType.Normal (isIdentifier · = true) ∧
      (∃ tokens tree, Render.type stockType = .ok tokens ∧ Grammar.read (fun g => g.type true) tokens = .ok tree ∧
        describe tree = stockType) ∧
      shelvesTree.Plain (isIdentifier · = true) ∧ (describe shelvesTree).Normal (isIdentifier · = true) := by
  have hwhole : IsWhole "3" := ⟨by decide +kernel, by decide +kernel⟩
  have hstock : stockType.Normal (isIdentifier · = true) := by
    have hbyte := @normal_name "u8" [] true (by decide +kernel) (List.forall_mem_nil _) (.inl rfl)
    have hrow := DeclaredType.Normal.array hwhole hbyte false
    have hunit := @DeclaredType.Normal.unit (isIdentifier · = true) false
    have hargs := List.forall_mem_cons.mpr ⟨hrow, List.forall_mem_singleton.mpr hunit⟩
    have hinner := @normal_name "Stock" _ false (by decide +kernel) hargs (.inr (by decide))
    exact normal_name (by decide +kernel) (List.forall_mem_singleton.mpr hinner) (.inl rfl)
  have hshelves : shelvesTree.Plain (isIdentifier · = true) := by
    have hpath := @isTypePath_of_isIdentifier ["shop"] "Shelf" (by simp; decide +kernel)
    exact .array hwhole (plain_typePath hpath (List.forall_mem_singleton.mpr .unit) true)
  exact ⟨hstock, (describe_written _).1 stockType hstock, hshelves, (describe_written _).2 shelvesTree hshelves⟩

end Shop

end BuilderGen
