import BuilderGen.Json.Builder
import BuilderGen.Render.Template
import BuilderGen.Text.SnakeCase

/-!
# Artefacts

An artefact is the file that a builder is written to: either its tokens or its description as JSON.
-/

namespace BuilderGen

/-- The two formats of artefacts. -/
inductive ArtefactFormat where
  /-- Tokens. -/
  | code
  /-- A description. -/
  | json
deriving DecidableEq, Repr, Inhabited

namespace ArtefactFormat

def keyword : ArtefactFormat → String
  | code => "rust"
  | json => "json"

/-- Reads the keyword of a format. -/
def ofKeyword? (text : String) : Option ArtefactFormat :=
  if text = "rust" then some .code
  else if text = "json" then some .json
  else none

def extension : ArtefactFormat → String
  | code => "rs"
  | json => "json"

theorem ofKeyword?_keyword (format : ArtefactFormat) : ofKeyword? format.keyword = some format := by
  cases format <;> rfl

end ArtefactFormat

namespace Builder

def fileName (builder : Builder) (format : ArtefactFormat) : String :=
  Text.snakeCase builder.name ++ "." ++ format.extension

/-- The line at the top of a code artefact. -/
def banner (builder : Builder) : String :=
  "// Generated by cargo-optbuilder for `" ++ builder.package ++ "::" ++ builder.target
    ++ "`. Do not edit.\n"

/-- The contents of a builder's artefact. -/
def contents (builder : Builder) (format : ArtefactFormat) (cratePath : String) :
    Except RenderFault String :=
  match format with
  | .code => do
      let tokens ← builder.render cratePath
      return builder.banner ++ Token.print tokens ++ "\n"
  | .json => return builder.toJson.pretty

end Builder

end BuilderGen
