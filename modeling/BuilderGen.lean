import BuilderGen.Execution.Shop
import BuilderGen.Expansion.Basic
import BuilderGen.Expansion.Options
import BuilderGen.Main
import BuilderGen.Proofs.Builder.Acceptance
import BuilderGen.Proofs.Builder.Generation
import BuilderGen.Proofs.Builder.Plan
import BuilderGen.Proofs.Builder.Powerset
import BuilderGen.Proofs.Builder.WellFormed
import BuilderGen.Proofs.Command.Artefacts
import BuilderGen.Proofs.Command.Printed
import BuilderGen.Proofs.Default.Agreement
import BuilderGen.Proofs.Default.Distinct
import BuilderGen.Proofs.Default.Justification
import BuilderGen.Proofs.Default.Registration
import BuilderGen.Proofs.Execution.Build
import BuilderGen.Proofs.Execution.Gives
import BuilderGen.Proofs.Execution.Slots
import BuilderGen.Proofs.Expansion.Growth
import BuilderGen.Proofs.Expansion.Placement
import BuilderGen.Proofs.Grammar.Identifier
import BuilderGen.Proofs.Grammar.ItemTriple
import BuilderGen.Proofs.Grammar.Names
import BuilderGen.Proofs.Grammar.PathExpression
import BuilderGen.Proofs.Grammar.Scope
import BuilderGen.Proofs.Grammar.Shape
import BuilderGen.Proofs.Grammar.Triple
import BuilderGen.Proofs.Json.Lossless
import BuilderGen.Proofs.Model.Candidates
import BuilderGen.Proofs.Model.Denotation
import BuilderGen.Proofs.Model.Reference
import BuilderGen.Proofs.Render.Branches
import BuilderGen.Proofs.Render.Demands
import BuilderGen.Proofs.Render.Readable
import BuilderGen.Proofs.Render.Signatures
import BuilderGen.Proofs.Render.Types
import BuilderGen.Proofs.Round
import BuilderGen.Proofs.Round.Anchors
import BuilderGen.Proofs.Round.Legible
import BuilderGen.Proofs.Round.Order
import BuilderGen.Proofs.Round.Unrelated
import BuilderGen.Proofs.Source.Constructors
import BuilderGen.Proofs.Source.Described
import BuilderGen.Proofs.Source.Legible
import BuilderGen.Proofs.Source.Malformed
import BuilderGen.Proofs.Source.Naming
import BuilderGen.Proofs.Source.Normal
import BuilderGen.Proofs.Source.Order
import BuilderGen.Proofs.Source.Parentheses
import BuilderGen.Proofs.Source.References
import BuilderGen.Proofs.Source.Requested
import BuilderGen.Proofs.Source.Stripped
import BuilderGen.Proofs.Source.Taker
import BuilderGen.Proofs.Token.Lexical
import BuilderGen.Proofs.Token.Sequence
import BuilderGen.Proofs.Token.Trim
import BuilderGen.Proofs.Token.Word
