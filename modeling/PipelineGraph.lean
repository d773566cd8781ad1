import PipelineGraph.Assembly.Basic
import PipelineGraph.Assembly.PipelineModule
import PipelineGraph.Catalog.Basic
import PipelineGraph.Catalog.Document
import PipelineGraph.Command.Outcome
import PipelineGraph.Command.Request
import PipelineGraph.Command.Run
import PipelineGraph.Compilation
import PipelineGraph.Compilation.Json
import PipelineGraph.Decimal.Read
import PipelineGraph.Decimal.Shortest
import PipelineGraph.Decimal.Text
import PipelineGraph.Diagnostic
import PipelineGraph.Export.Dot
import PipelineGraph.Export.Viz
import PipelineGraph.Failure
import PipelineGraph.Files.Basic
import PipelineGraph.Files.FileSystem
import PipelineGraph.Files.Layout
import PipelineGraph.Files.Loading
import PipelineGraph.Files.Path
import PipelineGraph.FunctionModule
import PipelineGraph.Graph.Basic
import PipelineGraph.Graph.Json
import PipelineGraph.Graph.Record
import PipelineGraph.Graph.Yaml
import PipelineGraph.Identifier
import PipelineGraph.Json.Reading
import PipelineGraph.Json.Record
import PipelineGraph.Json.Value
import PipelineGraph.Main
import PipelineGraph.Options
import PipelineGraph.Options.Yaml
import PipelineGraph.Proofs.Assembly.PipelineModule
import PipelineGraph.Proofs.Assembly.Scope
import PipelineGraph.Proofs.Catalog.Reading
import PipelineGraph.Proofs.Catalog.Scanning
import PipelineGraph.Proofs.Command.Effects
import PipelineGraph.Proofs.Compilation.Agreement
import PipelineGraph.Proofs.Compilation.Collisions
import PipelineGraph.Proofs.Compilation.Isolation
import PipelineGraph.Proofs.Compilation.Names
import PipelineGraph.Proofs.Compilation.Notices
import PipelineGraph.Proofs.Compilation.Options
import PipelineGraph.Proofs.Compilation.Order
import PipelineGraph.Proofs.Compilation.Renaming
import PipelineGraph.Proofs.Compilation.Reports
import PipelineGraph.Proofs.Compilation.SourceNames
import PipelineGraph.Proofs.Compilation.SpoiledNames
import PipelineGraph.Proofs.Compilation.Verdict
import PipelineGraph.Proofs.Compilation.Warnings
import PipelineGraph.Proofs.Export.Dot
import PipelineGraph.Proofs.Export.Viz
import PipelineGraph.Proofs.Files.Components
import PipelineGraph.Proofs.Files.Containment
import PipelineGraph.Proofs.Files.Places
import PipelineGraph.Proofs.Files.Writing
import PipelineGraph.Proofs.FirstCome
import PipelineGraph.Proofs.FunctionModule.Body
import PipelineGraph.Proofs.FunctionModule.Docstring
import PipelineGraph.Proofs.Graph.Acceptance
import PipelineGraph.Proofs.Graph.Agreement
import PipelineGraph.Proofs.Graph.Description
import PipelineGraph.Proofs.Graph.Reading
import PipelineGraph.Proofs.Graph.Rearrangement
import PipelineGraph.Proofs.Graph.RoundTrip
import PipelineGraph.Proofs.Json.Grammar
import PipelineGraph.Proofs.Json.Reading
import PipelineGraph.Proofs.Json.Standing
import PipelineGraph.Proofs.Json.Writing
import PipelineGraph.Proofs.Shape.Filling
import PipelineGraph.Proofs.Source.Docstring
import PipelineGraph.Proofs.Source.Legible
import PipelineGraph.Proofs.Source.Literal
import PipelineGraph.Proofs.Source.Name
import PipelineGraph.Proofs.Source.Reading
import PipelineGraph.Proofs.Text.Canonical
import PipelineGraph.Proofs.Text.CodePoints
import PipelineGraph.Proofs.Text.Lines
import PipelineGraph.Proofs.Text.LowerCase
import PipelineGraph.Proofs.TwoWalks
import PipelineGraph.Proofs.Wiring.Conservation
import PipelineGraph.Proofs.Wiring.Duality
import PipelineGraph.Proofs.Wiring.Edge
import PipelineGraph.Proofs.Wiring.Resolution
import PipelineGraph.Proofs.Yaml.FlowScalar
import PipelineGraph.Proofs.Yaml.FlowScanning
import PipelineGraph.Proofs.Yaml.FlowText
import PipelineGraph.Proofs.Yaml.JsonOutline
import PipelineGraph.Proofs.Yaml.JsonReading
import PipelineGraph.Proofs.Yaml.JsonScanning
import PipelineGraph.Proofs.Yaml.Legality
import PipelineGraph.Proofs.Yaml.Literal
import PipelineGraph.Proofs.Yaml.Margin
import PipelineGraph.Proofs.Yaml.Outline
import PipelineGraph.Proofs.Yaml.ScalarScanning
import PipelineGraph.Proofs.Yaml.Scanning
import PipelineGraph.Repeats
import PipelineGraph.Shape.Content
import PipelineGraph.Shape.Found
import PipelineGraph.Shape.Problem
import PipelineGraph.Shape.Record
import PipelineGraph.Source.Docstring
import PipelineGraph.Source.Literal
import PipelineGraph.Text.Alphabetic
import PipelineGraph.Text.Blank
import PipelineGraph.Text.Lines
import PipelineGraph.Text.LowerCase
import PipelineGraph.Text.Numeric
import PipelineGraph.Text.Ranges
import PipelineGraph.Text.Visible
import PipelineGraph.Wiring
import PipelineGraph.Yaml.Character
import PipelineGraph.Yaml.Cursor
import PipelineGraph.Yaml.Document
import PipelineGraph.Yaml.Lexeme.Block
import PipelineGraph.Yaml.Lexeme.Gap
import PipelineGraph.Yaml.Lexeme.Plain
import PipelineGraph.Yaml.Lexeme.Quoted
import PipelineGraph.Yaml.Lexeme.Tag
import PipelineGraph.Yaml.Place
import PipelineGraph.Yaml.Record
import PipelineGraph.Yaml.Scalar
import PipelineGraph.Yaml.ScalarText
import PipelineGraph.Yaml.Scanner
import PipelineGraph.Yaml.Token
import PipelineGraph.Yaml.Tree
