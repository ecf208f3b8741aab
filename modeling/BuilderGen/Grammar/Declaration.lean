import BuilderGen.Grammar.Function

/-!
# Items

Parsers for items of every kind, and for files.  Items that the grammar knows but that have no regular
form of their own are kept as they are written.
-/

namespace BuilderGen.Grammar

variable (g : Parsers)

/-! ## Structs and enums -/

def namedField : Parser (Bool → FieldTree) := do
  let attributes ← outerAttributes g
  let visibility ← visibility
  let nameless ← look (isWord "_")
  let name ← if nameless then anyWord else ident
  let _ ← op ":"
  let tokens ← get
  let type ←
    if nameless && (isWord "struct" tokens || (isWord "union" tokens && isGroup .brace (behind tokens))) then
      let _ ← anyWord
      match ← get with
      | group@(.group .brace _) :: rest =>
          set rest
          pure (TypeTree.other (tokens.take 1 ++ [group]))
      | _ => fail "expected curly braces"
    else
      g.type true
  return fun comma => { attributes, visibility, name := some name, type, comma }

/-- Reads a field without a name. -/
def positionalField : Parser (Bool → FieldTree) := do
  let attributes ← outerAttributes g
  let visibility ← visibility
  let type ← g.type true
  return fun comma => { attributes, visibility, name := none, type, comma }

/-- Reads fields with commas between them inside brackets. -/
def fieldsWithin (delimiter : Delimiter) (field : Parser (Bool → FieldTree)) : Parser (List FieldTree) :=
  within delimiter do
    let fields ← separated "," List.isEmpty field
    return fields.map fun (field, comma) => field comma

/-- Reads named fields in braces. -/
def namedFields : Parser FieldsTree :=
  .named <$> fieldsWithin .brace (namedField g)

/-- Reads fields without names in parentheses. -/
def positionalFields : Parser FieldsTree :=
  .positional <$> fieldsWithin .parenthesis (positionalField g)

/-- Reads a struct behind its attributes and visibility. -/
def structItem (attributes : List Attribute) (visibility : VisibilityTree) : Parser Item := do
  let _ ← word "struct"
  let name ← ident
  let generics ← generics g
  let constrained ← look (isWord "where")
  let before ← whereClause g
  let tokens ← get
  if !constrained && isGroup .parenthesis tokens then
    let fields ← positionalFields g
    let constraints ← whereClause g
    let _ ← op ";"
    return .struct { attributes, visibility, name, generics, constraints, fields }
  else if isGroup .brace tokens then
    let fields ← namedFields g
    return .struct { attributes, visibility, name, generics, constraints := before, fields }
  else
    let _ ← op ";"
    return .struct { attributes, visibility, name, generics, constraints := before, fields := .unit }

/-- Reads a variant of an enum. -/
def variant : Parser (Bool → VariantTree) := do
  let attributes ← outerAttributes g
  let _ ← visibility
  let name ← ident
  let tokens ← get
  let fields ←
    if isGroup .brace tokens then namedFields g
    else if isGroup .parenthesis tokens then positionalFields g
    else pure .unit
  let discriminant ←
    if ← look (isOp "=") then
      let mark ← op "="
      pure (mark ++ (← g.expression true).tokens)
    else
      pure []
  return fun comma => { attributes, name, fields, discriminant, comma }

/-- Reads an enum behind its attributes and visibility. -/
def enumItem (attributes : List Attribute) (visibility : VisibilityTree) : Parser Item := do
  let _ ← word "enum"
  let name ← ident
  let generics ← generics g
  let constraints ← whereClause g
  let variants ← within .brace (separated "," List.isEmpty (variant g))
  let variants := variants.map fun (variant, comma) => variant comma
  return .enum { attributes, visibility, name, generics, constraints, variants }

/-! ## Constants, imports and calls -/

/-- Reads a constant behind its attributes and visibility, which have the tokens `head`.  A constant that
is generic, constrained or without a value is kept as it is written from `start` on. -/
def constantItem (start head : List Token) : Parser (List Token) := do
  let keyword ← word "const"
  let name ← if ← look (isWord "_") then anyWord else ident
  let generic ← look (isOp "<")
  let _ ← generics g
  let colon ← op ":"
  let type ← g.type true
  let value ←
    if ← look (isOp "=") then
      let mark ← op "="
      pure (mark ++ (← g.expression true).tokens)
    else
      pure []
  let constrained ← look (isWord "where")
  let _ ← whereClause g
  let stop ← op ";"
  if value.isEmpty || generic || constrained then
    since start
  else
    return head ++ keyword ++ [.word name] ++ colon ++ type.tokens ++ value ++ stop

/-- Reads a static variable.  One without a type or a value is kept as it is written. -/
def staticItem (start head : List Token) : Parser (List Token) := do
  let keyword ← word "static"
  let changeable ← word? "mut"
  let name ← ident
  if ← look (isOp "=") then
    let _ ← op "="
    let _ ← g.expression true
    let _ ← op ";"
    since start
  else
    let colon ← op ":"
    let type ← g.type true
    if ← look (isOp ";") then
      let _ ← op ";"
      since start
    else
      let mark ← op "="
      let value ← g.expression true
      let stop ← op ";"
      return head ++ keyword ++ changeable ++ [.word name] ++ colon ++ type.tokens ++ mark ++ value.tokens
        ++ stop

/-- Reads the tree of an import; the flag allows paths that start at the root inside braces.  Nothing
stands for a tree with such a path. -/
def readImport (rooted : Bool) : Parser (Option (List Token)) := do
  let tokens ← get
  if isPathWord tokens || isWord "try" tokens then
    let name ← anyWord
    let tokens ← get
    if isOp "::" tokens then
      let mark ← op "::"
      return (← g.importTree false).map fun rest => .word name :: mark ++ rest
    else if isWord "as" tokens then
      let mark ← word "as"
      let rename ← if ← look (isWord "_") then anyWord else ident
      return some (.word name :: mark ++ [.word rename])
    else
      return some [.word name]
  else if isOp "*" tokens then
    return some (← op "*")
  else
    let items ← within .brace do
      separated "," List.isEmpty do
        let atRoot := rooted && (← look (isOp "::"))
        if atRoot then
          let _ ← op "::"
          let _ ← g.importTree false
          return none
        else
          g.importTree rooted
    if items.any (·.1.isNone) then
      return none
    else
      return some [Token.braces (separatedTokens "," (items.map fun (tree, comma) => (tree.getD [], comma)))]

/-- Reads an import. -/
def useItem (start head : List Token) : Parser (List Token) := do
  let keyword ← word "use"
  let leading ← op? "::"
  let tree ← g.importTree leading.isEmpty
  let stop ← op ";"
  match tree with
  | some tokens => return head ++ keyword ++ leading ++ tokens ++ stop
  | none => since start

/-- Reads the import of a whole library. -/
def externItem (head : List Token) : Parser (List Token) := do
  let first ← word "extern"
  let second ← word "crate"
  let name ← if ← look (isWord "self") then anyWord else ident
  let rename ←
    if ← look (isWord "as") then
      let mark ← word "as"
      let rename ← if ← look (isWord "_") then anyWord else ident
      pure (mark ++ [.word rename])
    else
      pure []
  return head ++ first ++ second ++ [.word name] ++ rename ++ (← op ";")

/-- Reads a macro call that stands as an item, maybe with a name. -/
def macroItem (head : List Token) : Parser (List Token) := do
  let path ← namePath
  let bang ← op "!"
  let tokens ← get
  let name ←
    if isWord "try" tokens then pure [Token.word (← anyWord)]
    else if isIdent tokens then pure [Token.word (← ident)]
    else pure []
  let group ← anyGroup
  let stop ← if isGroup .brace [group] then pure [] else op ";"
  return head ++ path.tokens ++ bang ++ name ++ [group] ++ stop

/-- Whether tokens start with a macro call. -/
def startsMacro (tokens : List Token) : Bool :=
  isIdent tokens || isOneOf ["self", "super", "crate"] tokens || isOp "::" tokens

def macroDefinition : Parser Unit := do
  let _ ← word "macro"
  let _ ← ident
  let tokens ← get
  if isGroup .parenthesis tokens then
    let _ ← anyGroup
  if ← look (isGroup .brace) then
    let _ ← anyGroup
  else
    fail "expected curly braces"

/-! ## Functions and aliases -/

def functionBody : Parser Token :=
  attributedBlock g

/-- Reads a function.  One without a body is kept as it is written. -/
def functionItem (start head : List Token) : Parser (List Token) := do
  let signature ← signature g false
  if ← look (isOp ";") then
    let _ ← op ";"
    since start
  else
    return head ++ signature ++ [← functionBody g]

/-- Reads a type alias.  One without a type is kept as it is written. -/
def aliasItem (start head : List Token) : Parser (List Token) := do
  let (name, _, constraints, value) ← aliasParts g true false
  if value.isEmpty then since start
  else return head ++ name ++ constraints ++ value ++ Token.op ";"

/-! ## Members of traits, implementations and foreign modules -/

/-- Reads an item of a trait. -/
def traitMember : Parser (List Token) := do
  let start ← get
  let attributes ← outerTokens g
  let visibility ← visibility
  let standard ← word? "default"
  let tokens ← get
  let plain := visibility.tokens.isEmpty && standard.isEmpty
  let member ←
    if startsSignature false tokens then
      let signature ← signature g false
      if ← look (isOp ";") then
        pure (attributes ++ signature ++ (← op ";"))
      else
        pure (attributes ++ signature ++ [← functionBody g])
    else if isWord "const" tokens then
      let keyword ← word "const"
      let name ← if ← look (isWord "_") then anyWord else ident
      let generic ← look (isOp "<")
      let _ ← generics g
      let colon ← op ":"
      let type ← g.type true
      let value ←
        if ← look (isOp "=") then
          let mark ← op "="
          pure (mark ++ (← g.expression true).tokens)
        else
          pure []
      let constrained ← look (isWord "where")
      let _ ← whereClause g
      let stop ← op ";"
      if generic || constrained then since start
      else pure (attributes ++ keyword ++ [.word name] ++ colon ++ type.tokens ++ value ++ stop)
    else if isWord "type" tokens then
      let (name, bounds, constraints, value) ← aliasParts g false true
      pure (attributes ++ name ++ bounds ++ value ++ constraints ++ Token.op ";")
    else if plain && startsMacro tokens then
      macroItem attributes
    else
      fail "expected an item of a trait"
  if plain then return member
  else since start

/-- Reads an item of an implementation. -/
def implMember : Parser (List Token) := do
  let start ← get
  let attributes ← outerTokens g
  let visibility ← visibility
  let tokens ← get
  let standard ←
    if isWord "default" tokens && !isOp "!" (behind tokens) then word "default" else pure []
  let head := attributes ++ visibility.tokens ++ standard
  let tokens ← get
  if startsSignature false tokens then
    functionItem g start head
  else if isWord "const" tokens then
    constantItem g start head
  else if isWord "type" tokens then
    let (name, bounds, constraints, value) ← aliasParts g false true
    if value.isEmpty || !bounds.isEmpty then since start
    else return head ++ name ++ value ++ constraints ++ Token.op ";"
  else if visibility.tokens.isEmpty && standard.isEmpty && startsMacro tokens then
    macroItem attributes
  else
    fail "expected an item of an implementation"

/-- Reads an item of a foreign module. -/
def foreignMember : Parser (List Token) := do
  let start ← get
  let attributes ← outerTokens g
  let visibility ← visibility
  let head := attributes ++ visibility.tokens
  let tokens ← get
  if startsSignature true tokens then
    let safe ← look (fun tokens => isWord "safe" tokens
      || (startsSignature true tokens && !startsSignature false tokens))
    let signature ← signature g true
    if ← look (isGroup .brace) then
      let _ ← functionBody g
      since start
    else
      let stop ← op ";"
      if safe then since start
      else return head ++ signature ++ stop
  else if isWord "static" tokens || (isOneOf ["unsafe", "safe"] tokens && isWord "static" (behind tokens)) then
    let access ← if isWord "static" tokens then pure [] else pure [Token.word (← anyWord)]
    let keyword ← word "static"
    let changeable ← word? "mut"
    let name ← ident
    let colon ← op ":"
    let type ← g.type true
    let valued ← look (isOp "=")
    if valued then
      let _ ← op "="
      let _ ← g.expression true
    let stop ← op ";"
    if valued || !access.isEmpty then since start
    else return head ++ keyword ++ changeable ++ [.word name] ++ colon ++ type.tokens ++ stop
  else if isWord "type" tokens then
    let (name, bounds, constraints, value) ← aliasParts g true true
    if value.isEmpty && bounds.isEmpty then return head ++ name ++ constraints ++ Token.op ";"
    else since start
  else if visibility.tokens.isEmpty && startsMacro tokens then
    macroItem attributes
  else
    fail "expected an item of a foreign module"

/-- Reads items of a kind inside braces, behind attributes of the braces. -/
def membersWithin (member : Parser (List Token)) : Parser Token :=
  within .brace do
    let attributes ← innerTokens g
    let members ← manyWhile (!·.isEmpty) member
    return Token.braces (attributes ++ members.flatten)

/-- Reads a foreign module. -/
def foreignItem (head : List Token) : Parser (List Token) := do
  let access ← word? "unsafe"
  let convention ← convention?
  if convention.isEmpty then
    fail "expected `extern`"
  return head ++ access ++ convention ++ [← membersWithin g (foreignMember g)]

/-! ## Traits and implementations -/

/-- Reads a trait or an alias of bounds. -/
def traitItem (head : List Token) : Parser (List Token) := do
  let access ← word? "unsafe"
  let auto ← word? "auto"
  let keyword ← word "trait"
  let name ← ident
  let generics ← generics g
  let start := head ++ access ++ auto ++ keyword ++ [.word name] ++ generics
  if access.isEmpty && auto.isEmpty && (← look (isOp "=")) then
    let mark ← op "="
    let bounds ← boundsUntil g true fun tokens => isWord "where" tokens || isOp ";" tokens
    let constraints ← whereClause g
    return start ++ mark ++ bounds ++ constraints ++ (← op ";")
  else
    let colon ← op? ":"
    let bounds ←
      if colon.isEmpty then pure []
      else boundsUntil g true fun tokens => isWord "where" tokens || isGroup .brace tokens
    let constraints ← whereClause g
    return start ++ behindColon bounds ++ constraints ++ [← membersWithin g (traitMember g)]

/-- Whether the angle bracket behind `impl` starts generic parameters. -/
def startsGenerics (tokens : List Token) : Bool :=
  let next := behind tokens
  let third := behind next
  isOp "<" tokens
    && (isOp ">" next || isOp "#" next || isWord "const" next
      || ((isLifetime next || isIdent next)
        && (isOp ">" third || isOp "," third || isOp "=" third || (isOp ":" third && !isOp "::" third))))

/-- Reads an implementation.  One with a visibility, for a constant trait, or of something that is no
trait is kept as it is written. -/
def implItem (start : List Token) (attributes : List Token) (visible : Bool) : Parser Item := do
  let standard ← word? "default"
  let access ← word? "unsafe"
  let keyword ← word "impl"
  let generics ← if ← look startsGenerics then generics g else pure []
  let constant ← look fun tokens =>
    isWord "const" tokens || (isOp "?" tokens && isWord "const" (behind tokens))
  if constant then
    let _ ← op? "?"
    let _ ← word "const"
  let negative ← look fun tokens => isOp "!" tokens && !isGroup .brace (behind tokens)
  if negative then
    let _ ← op "!"
  let first ← g.type true
  let implements ← look (isWord "for")
  let (trait?, selfType) ←
    if implements then
      let _ ← word "for"
      let selfType ← g.type true
      match first with
      | .path leading segments => pure (some { negative, leading, segments }, selfType)
      | _ => pure (none, selfType)
    else if negative then
      fail "inherent impls cannot be negative"
    else
      pure (none, first)
  let constraints ← whereClause g
  let body ← membersWithin g (implMember g)
  if visible || constant || (implements && trait?.isNone) then
    return .other (← since start)
  else
    let head := attributes ++ standard ++ access ++ keyword ++ generics
    return .impl { head, trait?, selfType, tail := constraints ++ [body] }

/-! ## Modules and items -/

/-- Reads a module behind its attributes and visibility. -/
def moduleItem (attributes : List Attribute) (visibility : VisibilityTree) : Parser Item := do
  let access ← word? "unsafe"
  let _ ← word "mod"
  let name ← if ← look (isWord "try") then anyWord else ident
  let head : ModuleHead :=
    { attributes, innerAttributes := [], visibility, isUnsafe := !access.isEmpty, name }
  if ← look (isOp ";") then
    let _ ← op ";"
    return .outline head
  else
    within .brace do
      let innerAttributes ← innerAttributes g
      return .module { head with innerAttributes } (← manyWhile (!·.isEmpty) g.item)

/-- Reads an item that is kept as tokens, by what it starts with. -/
def otherItem (start : List Token) (attributes : List Token) (visibility : VisibilityTree) :
    Parser (List Token) := do
  let head := attributes ++ visibility.tokens
  let tokens ← get
  let next := behind tokens
  if startsSignature false tokens then
    functionItem g start head
  else if isWord "extern" tokens then
    if isWord "crate" next then externItem head
    else if visibility.tokens.isEmpty then foreignItem g attributes
    else fail "expected `extern`"
  else if isWord "use" tokens then
    useItem g start head
  else if isWord "static" tokens then
    staticItem g start head
  else if isWord "const" tokens then
    constantItem g start head
  else if isWord "unsafe" tokens && isWord "extern" next then
    if visibility.tokens.isEmpty then foreignItem g attributes
    else fail "expected `extern`"
  else if isWord "type" tokens then
    aliasItem g start head
  else if isWord "union" tokens && isIdent next then
    let keyword ← anyWord
    let name ← ident
    let generics ← generics g
    let constraints ← whereClause g
    let fields ← namedFields g
    return head ++ [.word keyword, .word name] ++ generics ++ constraints ++ fields.tokens
  else if isOneOf ["trait", "unsafe"] tokens || (isWord "auto" tokens && isWord "trait" next) then
    traitItem g head
  else if isWord "macro" tokens then
    macroDefinition
    since start
  else if visibility.tokens.isEmpty && startsMacro tokens then
    macroItem attributes
  else
    fail "expected an item"

/-- Reads an item with its attributes and visibility. -/
def readItem : Parser Item := do
  let start ← get
  let attributes ← outerAttributes g
  let visibility ← visibility
  let tokens ← get
  let next := behind tokens
  if isWord "mod" tokens || (isWord "unsafe" tokens && isWord "mod" next) then
    moduleItem g attributes visibility
  else if isWord "struct" tokens then
    structItem g attributes visibility
  else if isWord "enum" tokens then
    enumItem g attributes visibility
  else if isWord "impl" tokens || (isWord "unsafe" tokens && isWord "impl" next)
      || (isWord "default" tokens && !isOp "!" next) then
    implItem g start (Attribute.listTokens attributes) (visibility ≠ .inherited)
  else
    return .other (← otherItem g start (Attribute.listTokens attributes) visibility)

def sourceFile : Parser SourceFile := do
  let attributes ← innerAttributes g
  return { attributes, items := ← manyWhile (!·.isEmpty) g.item }

end BuilderGen.Grammar
