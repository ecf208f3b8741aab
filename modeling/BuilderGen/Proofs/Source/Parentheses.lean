import BuilderGen.Proofs.Source.Normal

/-!
# Parentheses in types

Parentheses around a type or around parts of it do not change which type it is.  This module says when the description
of the type stays the same too.

* `Wraps` relates a type to the same type with parentheses around any of its parts.
* `Hides` says where parentheses show.  An option directly inside of another one stays a named type, but in parentheses
  it is kept as text, as in `Shop.twice_hidden`.  Everywhere else the parentheses are dropped.
* `Wraps.agree` carries the induction.  It is about both descriptions of a type, since an option around an option is
  described by the plain description of the inner one.
-/

namespace BuilderGen

open Grammar

namespace Grammar.TypeTree

/-! ## Paths and options -/

/-- A path with types behind its last name only. -/
def IsPath (tree : TypeTree) (leading : Bool) (front : List Segment) (last : String) (types : List TypeTree) : Prop :=
  ∃ arguments, tree = .path leading (front ++ [.mk last arguments]) ∧
    (∀ segment ∈ front, segment.arguments.Are []) ∧ arguments.Are types

/-- A path named `Option` around one type. -/
def IsOptionOf (tree inner : TypeTree) : Prop :=
  ∃ leading front, tree.IsPath leading front "Option" [inner]

/-- An option, maybe in parentheses. -/
inductive IsOption : TypeTree → Prop
  | bare {tree inner : TypeTree} (h : tree.IsOptionOf inner) : IsOption tree
  | paren {tree : TypeTree} (h : IsOption tree) : IsOption (.paren tree)

section Paths

variable {tree inner : TypeTree} {leading : Bool} {front : List Segment} {last : String} {types : List TypeTree}

theorem are_unique {arguments : Arguments} {others : List TypeTree} (h : arguments.Are types)
    (hother : arguments.Are others) : types = others := by
  cases h with
  | none =>
      cases hother
      rfl
  | angle separated items =>
      generalize hangle : Arguments.angle separated (items.map fun item => .type item.1 item.2) = arguments at hother
      cases hother with
      | none => cases hangle
      | angle _ others =>
          obtain ⟨-, hitems⟩ := Arguments.angle.inj hangle
          have hinjective : Function.Injective fun item : TypeTree × Bool => Argument.type item.1 item.2 := by
            rintro ⟨_, _⟩ ⟨_, _⟩ heq
            cases heq
            rfl
          rw [List.map_injective_iff.mpr hinjective hitems]

theorem IsPath.unique {leading' : Bool} {front' : List Segment} {last' : String} {types' : List TypeTree}
    (h : tree.IsPath leading front last types) (hother : tree.IsPath leading' front' last' types') :
    last = last' ∧ types = types' := by
  obtain ⟨arguments, rfl, -, htypes⟩ := h
  obtain ⟨arguments', heq, -, htypes'⟩ := hother
  obtain ⟨-, hsegments⟩ := TypeTree.path.inj heq
  obtain ⟨-, hlast⟩ := List.append_inj' hsegments rfl
  obtain ⟨rfl, rfl⟩ := Segment.mk.inj (List.singleton_inj.mp hlast)
  exact ⟨rfl, are_unique htypes htypes'⟩

theorem IsOptionOf.unique {other : TypeTree} (h : tree.IsOptionOf inner) (hother : tree.IsOptionOf other) :
    inner = other := by
  obtain ⟨_, _, h⟩ := h
  obtain ⟨_, _, hother⟩ := hother
  exact List.singleton_inj.mp (h.unique hother).2

theorem not_isPath_unit : ¬TypeTree.unit.IsPath leading front last types := by
  rintro ⟨_, heq, _⟩
  cases heq

theorem not_isPath_array {element : TypeTree} {length : List Token} :
    ¬(TypeTree.array element length).IsPath leading front last types := by
  rintro ⟨_, heq, _⟩
  cases heq

theorem not_isPath_paren : ¬(TypeTree.paren inner).IsPath leading front last types := by
  rintro ⟨_, heq, _⟩
  cases heq

theorem not_isOption_unit : ¬TypeTree.unit.IsOption := by
  rintro ⟨_, _, h⟩
  exact not_isPath_unit h

theorem not_isOption_array {element : TypeTree} {length : List Token} :
    ¬(TypeTree.array element length).IsOption := by
  rintro ⟨_, _, h⟩
  exact not_isPath_array h

theorem isOption_paren_iff : (TypeTree.paren inner).IsOption ↔ inner.IsOption := by
  refine ⟨fun h => ?_, .paren⟩
  cases h with
  | bare h =>
      obtain ⟨_, _, h⟩ := h
      exact absurd h not_isPath_paren
  | paren h => exact h

theorem IsPath.isOption_iff (h : tree.IsPath leading front last types) :
    tree.IsOption ↔ last = "Option" ∧ types.length = 1 := by
  constructor
  · rintro (⟨_, _, hoption⟩ | _)
    · obtain ⟨rfl, rfl⟩ := h.unique hoption
      exact ⟨rfl, rfl⟩
    · exact absurd h not_isPath_paren
  · rintro ⟨rfl, hlength⟩
    obtain ⟨inner, rfl⟩ := List.length_eq_one_iff.mp hlength
    exact .bare ⟨leading, front, h⟩

end Paths

/-! ## Parentheses -/

/-- A type that is built of paths, arrays and units, and the same type with parentheses around some of its parts. -/
inductive Wraps : TypeTree → TypeTree → Prop
  | unit : Wraps .unit .unit
  | array {element wrapped : TypeTree} (helement : Wraps element wrapped) (length : List Token) :
      Wraps (.array element length) (.array wrapped length)
  | path {type wrapped : TypeTree} {leading : Bool} {front : List Segment} {last : String}
      {pairs : List (TypeTree × TypeTree)} (htype : type.IsPath leading front last (pairs.map Prod.fst))
      (hwrapped : wrapped.IsPath leading front last (pairs.map Prod.snd))
      (hpairs : ∀ pair ∈ pairs, Wraps pair.1 pair.2) : Wraps type wrapped
  | paren {type wrapped : TypeTree} (h : Wraps type wrapped) : Wraps type (.paren wrapped)

/-- Where parentheses show: around an option that is the argument of a folded one.  Of two nested options only the outer
one is folded, so behind such a pair the argument of the inner one comes next.  In all other cases parentheses show in a
type just when they show in a part of it. -/
inductive Hides : TypeTree → Prop
  | kept {tree inner : TypeTree} (houter : tree.IsOptionOf (.paren inner)) (hinner : inner.IsOption) : Hides tree
  | inside {tree inner : TypeTree} (houter : tree.IsOptionOf inner) (hother : ¬inner.IsOption) (hhides : Hides inner) :
      Hides tree
  | second {tree inner innermost : TypeTree} (houter : tree.IsOptionOf inner) (hinner : inner.IsOptionOf innermost)
      (hhides : Hides innermost) : Hides tree
  | argument {tree type : TypeTree} {leading : Bool} {front : List Segment} {last : String} {types : List TypeTree}
      (hpath : tree.IsPath leading front last types) (hother : ¬tree.IsOption) (hmem : type ∈ types)
      (hhides : Hides type) : Hides tree
  | array {element : TypeTree} {length : List Token} (hhides : Hides element) : Hides (.array element length)
  | paren {tree : TypeTree} (hhides : Hides tree) : Hides (.paren tree)

section Hides

variable {tree inner innermost : TypeTree} {leading : Bool} {front : List Segment} {last : String}
  {types : List TypeTree}

/-- Parentheses show in paths, and else only where they show in the one part of the type. -/
theorem Hides.isPath_or_part (h : Hides tree) : (∃ leading front last types, tree.IsPath leading front last types) ∨
    (∃ element length, tree = .array element length ∧ Hides element) ∨ ∃ inner, tree = .paren inner ∧ Hides inner := by
  cases h with
  | kept houter _ | inside houter _ _ | second houter _ _ =>
      obtain ⟨leading, front, hpath⟩ := houter
      exact .inl ⟨leading, front, _, _, hpath⟩
  | argument hpath _ _ _ => exact .inl ⟨_, _, _, _, hpath⟩
  | array hhides => exact .inr (.inl ⟨_, _, rfl, hhides⟩)
  | paren hhides => exact .inr (.inr ⟨_, rfl, hhides⟩)

theorem not_hides_unit : ¬Hides .unit := by
  intro h
  rcases h.isPath_or_part with ⟨_, _, _, _, hpath⟩ | ⟨_, _, heq, _⟩ | ⟨_, heq, _⟩
  · exact not_isPath_unit hpath
  · cases heq
  · cases heq

theorem hides_array_iff {length : List Token} : Hides (.array tree length) ↔ Hides tree := by
  refine ⟨fun h => ?_, .array⟩
  rcases h.isPath_or_part with ⟨_, _, _, _, hpath⟩ | ⟨_, _, heq, hhides⟩ | ⟨_, heq, _⟩
  · exact absurd hpath not_isPath_array
  · cases heq
    exact hhides
  · cases heq

theorem hides_paren_iff : Hides (.paren tree) ↔ Hides tree := by
  refine ⟨fun h => ?_, .paren⟩
  rcases h.isPath_or_part with ⟨_, _, _, _, hpath⟩ | ⟨_, _, heq, _⟩ | ⟨_, heq, hhides⟩
  · exact absurd hpath not_isPath_paren
  · cases heq
  · cases heq
    exact hhides

theorem IsPath.hides_iff (h : tree.IsPath leading front last types) (hother : ¬tree.IsOption) :
    Hides tree ↔ ∃ type ∈ types, Hides type := by
  constructor
  · intro hhides
    cases hhides with
    | kept houter _ | inside houter _ _ | second houter _ _ => exact absurd (.bare houter) hother
    | argument hpath _ hmem hhides =>
        obtain ⟨-, rfl⟩ := h.unique hpath
        exact ⟨_, hmem, hhides⟩
    | array _ => exact absurd h not_isPath_array
    | paren _ => exact absurd h not_isPath_paren
  · rintro ⟨type, hmem, hhides⟩
    exact .argument h hother hmem hhides

/-- What shows in an option depends on its argument, in three cases. -/
theorem IsOptionOf.hides_cases (h : tree.IsOptionOf inner) (hhides : Hides tree) :
    (∃ core, inner = .paren core ∧ core.IsOption) ∨ (¬inner.IsOption ∧ Hides inner) ∨
      ∃ innermost, inner.IsOptionOf innermost ∧ Hides innermost := by
  cases hhides with
  | kept houter hinner => exact .inl ⟨_, h.unique houter, hinner⟩
  | inside houter hother hhides =>
      obtain rfl := h.unique houter
      exact .inr (.inl ⟨hother, hhides⟩)
  | second houter hinner hhides =>
      obtain rfl := h.unique houter
      exact .inr (.inr ⟨_, hinner, hhides⟩)
  | argument _ hother _ _ => exact absurd (.bare h) hother
  | array _ =>
      obtain ⟨_, _, hpath⟩ := h
      exact absurd hpath not_isPath_array
  | paren _ =>
      obtain ⟨_, _, hpath⟩ := h
      exact absurd hpath not_isPath_paren

theorem IsOptionOf.hides_iff_of_not_isOption (h : tree.IsOptionOf inner) (hother : ¬inner.IsOption) :
    Hides tree ↔ Hides inner := by
  refine ⟨fun hhides => ?_, .inside h hother⟩
  rcases h.hides_cases hhides with ⟨core, rfl, hcore⟩ | ⟨-, hinner⟩ | ⟨innermost, hinner, -⟩
  · exact absurd (.paren hcore) hother
  · exact hinner
  · exact absurd (.bare hinner) hother

theorem IsOptionOf.hides_iff_of_isOptionOf (h : tree.IsOptionOf inner) (hinner : inner.IsOptionOf innermost) :
    Hides tree ↔ Hides innermost := by
  refine ⟨fun hhides => ?_, .second h hinner⟩
  rcases h.hides_cases hhides with ⟨core, rfl, -⟩ | ⟨hother, -⟩ | ⟨other, hother, hhides⟩
  · obtain ⟨_, _, hpath⟩ := hinner
    exact absurd hpath not_isPath_paren
  · exact absurd (.bare hinner) hother
  · exact hinner.unique hother ▸ hhides

end Hides

end Grammar.TypeTree

open TypeTree

/-! ## Descriptions -/

theorem DeclaredType.orAbsent_inj {first second : DeclaredType} (hfirst : first.nullable = false)
    (hsecond : second.nullable = false) : first.orAbsent = second.orAbsent ↔ first = second := by
  refine ⟨fun h => ?_, congrArg orAbsent⟩
  obtain ⟨head, args, nullable⟩ := first
  obtain ⟨head', args', nullable'⟩ := second
  cases hfirst
  cases hsecond
  cases h
  rfl

namespace TypeView

variable {tree inner : TypeTree} {leading : Bool} {front : List Segment} {last : String} {types : List TypeTree}

/-- Under the flag, options are equal just when what they are around is. -/
theorem option_eq_option_iff_folded {view other : TypeView} (hview : view.folded.nullable = false)
    (hother : other.folded.nullable = false) : view.option = other.option ↔ view.folded = other.folded := by
  rw [option, option, if_neg (by simp [hview]), if_neg (by simp [hother]), DeclaredType.orAbsent_inj hview hother]

theorem option_eq_option_iff_plain {view other : TypeView} (hview : view.folded.nullable = true)
    (hother : other.folded.nullable = true) (hplain : view.plain.nullable = false)
    (hplainOther : other.plain.nullable = false) : view.option = other.option ↔ view.plain = other.plain := by
  rw [option, option, if_pos hview, if_pos hother, DeclaredType.orAbsent_inj hplain hplainOther]

/-- The flag stands for options that are folded, so it is never part of a plain description. -/
theorem plain_nullable (tree : TypeTree) : (ofTree tree).plain.nullable = false := by
  cases tree with
  | path leading segments =>
      rw [ofTree]
      dsimp only
      split
      · split <;> rfl
      · rfl
  | paren _ | unit | array _ _ | qualified _ _ | other _ =>
      rw [ofTree]
      rfl

/-- Parentheses are kept as text in the plain description. -/
theorem plain_paren_ne_named {names : List String} : (ofTree (.paren tree)).plain ≠ named leading names types := by
  rw [ofTree]
  intro h
  cases h

theorem named_eq_named_iff {names : List String} {pairs : List (TypeTree × TypeTree)} :
    named leading names (pairs.map Prod.snd) = named leading names (pairs.map Prod.fst) ↔
      ∀ pair ∈ pairs, describe pair.2 = describe pair.1 := by
  simp [named, Function.comp_def]

theorem plain_of_isPath (h : tree.IsPath leading front last types) :
    (ofTree tree).plain = named leading (front.map Segment.name ++ [last]) types := by
  obtain ⟨_, rfl, hfront, harguments⟩ := h
  exact plain_path leading hfront harguments

end TypeView

section Describe

variable {tree inner : TypeTree} {leading : Bool} {front : List Segment} {last : String} {types : List TypeTree}

theorem describe_of_isOptionOf (h : tree.IsOptionOf inner) : describe tree = (TypeView.ofTree inner).option := by
  obtain ⟨leading, front, _, rfl, -, harguments⟩ := h
  exact TypeView.folded_option leading front harguments

theorem describe_of_isPath (h : tree.IsPath leading front last types) (hother : ¬tree.IsOption) :
    describe tree = TypeView.named leading (front.map Segment.name ++ [last]) types := by
  rw [h.isOption_iff] at hother
  obtain ⟨_, rfl, hfront, harguments⟩ := h
  exact TypeView.folded_path leading hfront harguments hother

theorem describe_paren (tree : TypeTree) : describe (.paren tree) = describe tree := by
  rw [describe, TypeView.ofTree, describe]

theorem nullable_of_isPath (h : tree.IsPath leading front last types) :
    (describe tree).nullable = true ↔ tree.IsOption := by
  by_cases hoption : tree.IsOption
  · obtain ⟨rfl, hlength⟩ := h.isOption_iff.mp hoption
    obtain ⟨inner, rfl⟩ := List.length_eq_one_iff.mp hlength
    rw [describe_of_isOptionOf ⟨leading, front, h⟩]
    exact iff_of_true (TypeView.nullable_option _) hoption
  · rw [describe_of_isPath h hoption]
    exact iff_of_false Bool.false_ne_true hoption

end Describe

section Wraps

variable {type wrapped : TypeTree}

/-- Parentheses do not make an option or unmake it. -/
theorem Grammar.TypeTree.Wraps.nullable_iff (h : Wraps type wrapped) :
    ((describe type).nullable = true ↔ wrapped.IsOption) ∧ ((describe wrapped).nullable = true ↔ wrapped.IsOption) := by
  induction h with
  | unit => exact ⟨iff_of_false Bool.false_ne_true not_isOption_unit, iff_of_false Bool.false_ne_true not_isOption_unit⟩
  | array _ _ _ =>
      rw [describe, describe, TypeView.ofTree, TypeView.ofTree]
      exact ⟨iff_of_false Bool.false_ne_true not_isOption_array, iff_of_false Bool.false_ne_true not_isOption_array⟩
  | path htype hwrapped _ _ =>
      refine ⟨?_, nullable_of_isPath hwrapped⟩
      rw [nullable_of_isPath htype, htype.isOption_iff, hwrapped.isOption_iff, List.length_map, List.length_map]
  | paren _ ih =>
      rw [describe_paren, isOption_paren_iff]
      exact ih

/-- Behind the parentheses of an option there is a path. -/
theorem Grammar.TypeTree.Wraps.exists_isPath (h : Wraps type wrapped) (hoption : wrapped.IsOption) :
    ∃ leading front last types, type.IsPath leading front last types := by
  induction h with
  | unit => exact absurd hoption not_isOption_unit
  | array _ _ _ => exact absurd hoption not_isOption_array
  | path htype _ _ _ => exact ⟨_, _, _, _, htype⟩
  | paren _ ih => exact ih (isOption_paren_iff.mp hoption)

/-- A type and the same type with parentheses: when their two descriptions agree. -/
structure Agree (type wrapped : TypeTree) : Prop where
  folded : describe wrapped = describe type ↔ ¬Hides wrapped
  plain : ∀ leading front last types, wrapped.IsPath leading front last types →
    ((TypeView.ofTree wrapped).plain = (TypeView.ofTree type).plain ↔ ∀ type ∈ types, ¬Hides type)

/-- Two paths have the same plain description just when parentheses show in no argument. -/
theorem named_eq_named_iff_of_agree {leading : Bool} {names : List String} {pairs : List (TypeTree × TypeTree)}
    (hagree : ∀ pair ∈ pairs, Agree pair.1 pair.2) :
    TypeView.named leading names (pairs.map Prod.snd) = TypeView.named leading names (pairs.map Prod.fst) ↔
      ∀ type ∈ pairs.map Prod.snd, ¬Hides type := by
  rw [TypeView.named_eq_named_iff, List.forall_mem_map]
  exact forall₂_congr fun pair hpair => (hagree pair hpair).folded

/-- The case of an option, from what is known about its argument. -/
theorem describe_eq_iff_of_isOptionOf {inner inner' : TypeTree} (htype : type.IsOptionOf inner)
    (hwrapped : wrapped.IsOptionOf inner') (hwraps : Wraps inner inner') (hagree : Agree inner inner') :
    describe wrapped = describe type ↔ ¬Hides wrapped := by
  rw [describe_of_isOptionOf hwrapped, describe_of_isOptionOf htype]
  obtain ⟨hinner, hinner'⟩ := hwraps.nullable_iff
  by_cases hoption : inner'.IsOption
  · rw [TypeView.option_eq_option_iff_plain (hinner'.mpr hoption) (hinner.mpr hoption) (TypeView.plain_nullable _)
      (TypeView.plain_nullable _)]
    cases hoption with
    | bare hsecond =>
        obtain ⟨leading, front, hpath⟩ := hsecond
        rw [hagree.plain _ _ _ _ hpath, List.forall_mem_singleton,
          hwrapped.hides_iff_of_isOptionOf ⟨leading, front, hpath⟩]
    | paren hcore =>
        obtain ⟨_, _, _, _, hpath⟩ := hwraps.exists_isPath (.paren hcore)
        -- the text of the parentheses is no named type, which stands there without them
        rw [TypeView.plain_of_isPath hpath]
        exact iff_of_false TypeView.plain_paren_ne_named fun hnot => hnot (.kept hwrapped hcore)
  · rw [TypeView.option_eq_option_iff_folded (Bool.eq_false_iff.mpr (mt hinner'.mp hoption))
      (Bool.eq_false_iff.mpr (mt hinner.mp hoption)), hwrapped.hides_iff_of_not_isOption hoption]
    exact hagree.folded

theorem Grammar.TypeTree.Wraps.agree (h : Wraps type wrapped) : Agree type wrapped := by
  induction h with
  | unit => exact ⟨iff_of_true rfl not_hides_unit, fun _ _ _ _ hpath => absurd hpath not_isPath_unit⟩
  | array _ length ih =>
      refine ⟨?_, fun _ _ _ _ hpath => absurd hpath not_isPath_array⟩
      rw [hides_array_iff, ← ih.folded]
      simp [describe, TypeView.ofTree]
  | paren _ ih =>
      refine ⟨?_, fun _ _ _ _ hpath => absurd hpath not_isPath_paren⟩
      rw [describe_paren, hides_paren_iff]
      exact ih.folded
  | @path type wrapped leading front last pairs htype hwrapped hpairs ih =>
      constructor
      case plain =>
        intro leading' front' last' types hpath
        obtain ⟨-, rfl⟩ := hwrapped.unique hpath
        rw [TypeView.plain_of_isPath hwrapped, TypeView.plain_of_isPath htype]
        exact named_eq_named_iff_of_agree ih
      case folded =>
        by_cases hoption : wrapped.IsOption
        · obtain ⟨rfl, hlength⟩ := hwrapped.isOption_iff.mp hoption
          rw [List.length_map] at hlength
          obtain ⟨pair, rfl⟩ := List.length_eq_one_iff.mp hlength
          have hpair := List.mem_singleton_self pair
          exact describe_eq_iff_of_isOptionOf ⟨leading, front, htype⟩ ⟨leading, front, hwrapped⟩ (hpairs pair hpair)
            (ih pair hpair)
        · have hother : ¬type.IsOption := by
            rw [hwrapped.isOption_iff, List.length_map] at hoption
            rw [htype.isOption_iff, List.length_map]
            exact hoption
          rw [describe_of_isPath hwrapped hoption, describe_of_isPath htype hother,
            named_eq_named_iff_of_agree ih, hwrapped.hides_iff hoption, not_exists]
          simp

end Wraps

/-- Parentheses around parts of a type do not change its description, except around an option that is the argument of
another one.

The types are built of paths with types behind the last name, arrays and units, and the parentheses may stand around
any parts of a type, at any depth and repeatedly.  The descriptions are equal just when none of them shows. -/
theorem describe_eq_iff_of_wraps {type wrapped : TypeTree} (h : Wraps type wrapped) :
    describe wrapped = describe type ↔ ¬Hides wrapped :=
  h.agree.folded

/-! ## Samples -/

namespace Shop

/-- The type of a byte. -/
def byteTree : TypeTree :=
  typePath false [] "u8" []

/-- A name with one type behind it. -/
def around (name : String) (inner : TypeTree) : TypeTree :=
  typePath false [] name [inner]

theorem isPath_byteTree : byteTree.IsPath false [] "u8" [] :=
  ⟨_, rfl, List.forall_mem_nil _, are_typeArguments []⟩

theorem isPath_around (name : String) (inner : TypeTree) : (around name inner).IsPath false [] name [inner] :=
  ⟨_, rfl, List.forall_mem_nil _, are_typeArguments [inner]⟩

theorem wraps_byteTree : Wraps byteTree byteTree :=
  @Wraps.path _ _ _ _ _ [] isPath_byteTree isPath_byteTree (List.forall_mem_nil _)

theorem wraps_around {type wrapped : TypeTree} (name : String) (h : Wraps type wrapped) :
    Wraps (around name type) (around name wrapped) :=
  @Wraps.path _ _ _ _ _ [(type, wrapped)] (isPath_around ..) (isPath_around ..) (List.forall_mem_singleton.mpr h)

/-- The type `Option<Vec<u8>>` may be written as `(Option<(Vec<(u8)>)>)`. -/
theorem bytes_shown :
    Wraps (around "Option" (around "Vec" byteTree))
        (.paren (around "Option" (.paren (around "Vec" (.paren byteTree))))) ∧
      describe (.paren (around "Option" (.paren (around "Vec" (.paren byteTree))))) =
        describe (around "Option" (around "Vec" byteTree)) := by
  have hwraps := (wraps_around "Option" (wraps_around "Vec" wraps_byteTree.paren).paren).paren
  have hlist := isPath_around "Vec" (.paren byteTree)
  have hoption : (around "Option" (.paren (around "Vec" (.paren byteTree)))).IsOptionOf
      (.paren (around "Vec" (.paren byteTree))) := ⟨_, _, isPath_around ..⟩
  have hbyte : ¬byteTree.IsOption := by simp [isPath_byteTree.isOption_iff]
  have hother : ¬(around "Vec" (.paren byteTree)).IsOption := by simp [hlist.isOption_iff]
  have hshown : ¬Hides (.paren (around "Option" (.paren (around "Vec" (.paren byteTree))))) := by
    rw [hides_paren_iff, hoption.hides_iff_of_not_isOption (mt isOption_paren_iff.mp hother), hides_paren_iff,
      hlist.hides_iff hother]
    simp [hides_paren_iff, isPath_byteTree.hides_iff hbyte]
  exact ⟨hwraps, (describe_eq_iff_of_wraps hwraps).mpr hshown⟩

/-- The types `Option<Option<u8>>` and `Option<(Option<u8>)>` are described in different ways. -/
theorem twice_hidden :
    Wraps (around "Option" (around "Option" byteTree)) (around "Option" (.paren (around "Option" byteTree))) ∧
      describe (around "Option" (.paren (around "Option" byteTree))) ≠
        describe (around "Option" (around "Option" byteTree)) :=
  ⟨wraps_around "Option" (wraps_around "Option" wraps_byteTree).paren, by decide⟩

end Shop

end BuilderGen
