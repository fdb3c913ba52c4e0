import MoveCanvas.Canvas.Basic
import MoveCanvas.Canvas.Conversion
import MoveCanvas.Canvas.Format
import MoveCanvas.Cli.Command
import MoveCanvas.Cli.Files
import MoveCanvas.Cli.Path
import MoveCanvas.Cli.Run
import MoveCanvas.CompileError
import MoveCanvas.Decimal.Shortest
import MoveCanvas.Defaults
import MoveCanvas.FileError
import MoveCanvas.Graph
import MoveCanvas.Graph.Abilities
import MoveCanvas.Graph.Handle
import MoveCanvas.Identifier
import MoveCanvas.Import.Response
import MoveCanvas.Import.Wiring
import MoveCanvas.Index
import MoveCanvas.Intent
import MoveCanvas.Json.Decode
import MoveCanvas.Json.DecodeError
import MoveCanvas.Json.Document
import MoveCanvas.Json.Number
import MoveCanvas.Json.Printer
import MoveCanvas.Json.Shape
import MoveCanvas.Json.Token
import MoveCanvas.Json.Value
import MoveCanvas.Main
import MoveCanvas.Move.Function
import MoveCanvas.Move.Init
import MoveCanvas.Move.Layout
import MoveCanvas.Move.Manifest
import MoveCanvas.Move.Module
import MoveCanvas.Move.Struct
import MoveCanvas.Package
import MoveCanvas.Palette
import MoveCanvas.ParamType
import MoveCanvas.Plan.Basic
import MoveCanvas.Plan.OfGraph
import MoveCanvas.Project
import MoveCanvas.Text.Blank
import MoveCanvas.Text.Casing
import MoveCanvas.Text.Logged
import MoveCanvas.Text.Lowercase
import MoveCanvas.Text.Numeral
import MoveCanvas.Text.Quoted
import MoveCanvas.Text.Search
import MoveCanvas.Witness
import MoveCanvas.Proofs.Plan.Refusals
import MoveCanvas.Proofs.Plan.Dependence
import MoveCanvas.Proofs.Plan.WitnessFlow
import MoveCanvas.Proofs.Plan.WitnessSource
import MoveCanvas.Proofs.Plan.NodeOrder
import MoveCanvas.Proofs.Plan.TransferFlow
import MoveCanvas.Proofs.Plan.Renaming
import MoveCanvas.Proofs.Plan.PlannedStructs
import MoveCanvas.Proofs.Plan.WitnessStruct
import MoveCanvas.Proofs.Move.WitnessDeclaration
import MoveCanvas.Proofs.Move.ForeignNames
import MoveCanvas.Proofs.Json.Everywhere
import MoveCanvas.Proofs.Json.Scalars
import MoveCanvas.Proofs.ParamType.Forms
import MoveCanvas.Proofs.Move.BodyRoles
import MoveCanvas.Proofs.Json.Documents
import MoveCanvas.Proofs.Json.Reading
import MoveCanvas.Proofs.Json.Shapes
import MoveCanvas.Proofs.Json.RoundTrip
import MoveCanvas.Proofs.Json.Depth
import MoveCanvas.Proofs.Project.Session
import MoveCanvas.Proofs.Canvas.RawValues
import MoveCanvas.Proofs.Project.Reloading
import MoveCanvas.Proofs.Project.Installing
import MoveCanvas.Proofs.Import.Acceptance
import MoveCanvas.Proofs.Import.WrittenCanvas
import MoveCanvas.Proofs.Import.GeneratedCode
import MoveCanvas.Proofs.Move.Lines
import MoveCanvas.Proofs.Move.Declarations
import MoveCanvas.Proofs.Move.Recovery
import MoveCanvas.Proofs.Move.NftDeclaration
import MoveCanvas.Proofs.Text.LetterCase
import MoveCanvas.Proofs.Text.Lowered
import MoveCanvas.Proofs.Text.CallableNames
import MoveCanvas.Proofs.Plan.Classification
import MoveCanvas.Proofs.Move.FunctionNames
import MoveCanvas.Proofs.Move.BodyParameters
import MoveCanvas.Proofs.Move.AddedFunction
import MoveCanvas.Proofs.Project.FreeSlots
import MoveCanvas.Proofs.Project.ModuleNames
import MoveCanvas.Proofs.Import.Reacceptance
import MoveCanvas.Proofs.Move.Bracketed
import MoveCanvas.Proofs.Plan.Gaps
import MoveCanvas.Proofs.Json.Detour
import MoveCanvas.Proofs.Text.Blanks
import MoveCanvas.Proofs.Text.Numerals
import MoveCanvas.Proofs.Json.Trimming
import MoveCanvas.Proofs.Import.FrontDoors
import MoveCanvas.Proofs.Json.Pruning
import MoveCanvas.Proofs.Project.Presentation
import MoveCanvas.Proofs.Project.Soundness
import MoveCanvas.Proofs.Project.RootLabels
import MoveCanvas.Proofs.Cli.Installation
import MoveCanvas.Proofs.Cli.Checking
import MoveCanvas.Proofs.Canvas.NodeCodec
import MoveCanvas.Proofs.Palette.Templates
import MoveCanvas.Proofs.Palette.Placements
import MoveCanvas.Proofs.ParamType.Tokens
import MoveCanvas.Proofs.ParamType.Stability
import MoveCanvas.Proofs.ParamType.Grammar
import MoveCanvas.Proofs.Canvas.Conversion
import MoveCanvas.Proofs.Plan.DeclaredStructs
import MoveCanvas.Proofs.Project.AddedModule
import MoveCanvas.Proofs.Project.Locality
import MoveCanvas.Proofs.Import.Fences
import MoveCanvas.Proofs.Import.InferredEdges
import MoveCanvas.Proofs.Import.AcceptedCanvas
import MoveCanvas.Proofs.Text.BareNames
import MoveCanvas.Proofs.Move.Headers
import MoveCanvas.Proofs.Canvas.DecimalNumerals
import MoveCanvas.Proofs.Json.Spellings
import MoveCanvas.Proofs.Canvas.KeySpellings
import MoveCanvas.Proofs.Cli.Places
import MoveCanvas.Proofs.Cli.Packaging
import MoveCanvas.Proofs.Graph.Handles
import MoveCanvas.Proofs.Text.JoinedLabels
import MoveCanvas.Proofs.Text.SettledNames
import MoveCanvas.Proofs.Graph.Lookup
