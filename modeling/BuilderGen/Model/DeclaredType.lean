import BuilderGen.Text.Segments

/-!
# Declared types

The type a parameter is declared with.  A type that admits an absent value carries a flag instead of an
`Option` wrapper, so `Option<String>` is `String` marked nullable.  Two types are the same when the path
text, the arguments and the flags all agree.
-/

namespace BuilderGen

/-- What a declared type is, apart from its arguments and its nullability. -/
inductive TypeHead where
  /-- The unit type `()`. -/
  | unit
  /-- A path such as `String` or `std::collections::HashMap`. -/
  | named (path : String)
  /-- A fixed-size array; its element type is the first argument. -/
  | array (length : String)
  /-- A type kept only as text. -/
  | verbatim (text : String)
deriving DecidableEq, Repr, Inhabited

/-- A declared type: a head, arguments in source order, and whether a value may be absent. -/
structure DeclaredType where
  head : TypeHead
  args : List DeclaredType := []
  nullable : Bool := false
deriving Repr, Inhabited

namespace DeclaredType

mutual

def decEq : (left right : DeclaredType) → Decidable (left = right)
  | ⟨head, args, nullable⟩, ⟨head', args', nullable'⟩ =>
      match decEqList args args' with
      | isTrue hargs =>
          if h : head = head' ∧ nullable = nullable' then
            isTrue (by rw [h.1, h.2, hargs])
          else
            isFalse (by rintro ⟨⟩; exact h ⟨rfl, rfl⟩)
      | isFalse hargs => isFalse (by rintro ⟨⟩; exact hargs rfl)

/-- Equality of argument lists is decidable. -/
def decEqList : (left right : List DeclaredType) → Decidable (left = right)
  | [], [] => isTrue rfl
  | [], _ :: _ => isFalse (by simp)
  | _ :: _, [] => isFalse (by simp)
  | left :: lefts, right :: rights =>
      match decEq left right, decEqList lefts rights with
      | isTrue hhead, isTrue htail => isTrue (by rw [hhead, htail])
      | isFalse hhead, _ => isFalse (by simp [hhead])
      | _, isFalse htail => isFalse (by simp [htail])

end

instance : DecidableEq DeclaredType := decEq

/-- The type named by a path, without arguments. -/
def ofPath (path : String) : DeclaredType :=
  { head := .named path }

/-- The same type, admitting an absent value. -/
def orAbsent (type : DeclaredType) : DeclaredType :=
  { type with nullable := true }

/-- The same type, not admitting an absent value. -/
def present (type : DeclaredType) : DeclaredType :=
  { type with nullable := false }

/-- The path text of a named type. -/
def path? (type : DeclaredType) : Option String :=
  match type.head with
  | .named path => some path
  | _ => none

/-- The last path segment of a named type, without the blanks around it. -/
def lastSegment? (type : DeclaredType) : Option String :=
  type.path?.map fun path => Text.trim (Segments.last path)

/-- A type in source notation, given the notation of its arguments and apart from nullability. -/
def displayHead (head : TypeHead) (args : List String) : String :=
  match head with
  | .unit => "()"
  | .verbatim text => text
  | .array length => "[" ++ args.headD "_" ++ "; " ++ length ++ "]"
  | .named path => if args.isEmpty then path else path ++ "<" ++ ", ".intercalate args ++ ">"

mutual

/-- A type in source notation, with `Option<…>` around a nullable one. -/
def display : DeclaredType → String
  | ⟨head, args, nullable⟩ =>
      let written := displayHead head (displayAll args)
      if nullable then "Option<" ++ written ++ ">" else written

/-- Types in source notation. -/
def displayAll : List DeclaredType → List String
  | [] => []
  | first :: rest => display first :: displayAll rest

end

end DeclaredType

end BuilderGen
