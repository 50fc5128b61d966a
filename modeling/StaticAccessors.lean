import StaticAccessors.Text.Alphanumeric
import StaticAccessors.Text.Printable
import StaticAccessors.Text.Blank
import StaticAccessors.Text.DecimalDigit
import StaticAccessors.Text.LetterCase
import StaticAccessors.Decimal.Shortest
import StaticAccessors.Value.Key
import StaticAccessors.Value.Display
import StaticAccessors.Value.Scalar
import StaticAccessors.FilePath
import StaticAccessors.Json.Reader
import StaticAccessors.Json.Printer
import StaticAccessors.Fault
import StaticAccessors.Identifier.Vocabulary
import StaticAccessors.Manifest.Collection
import StaticAccessors.Settings.Validation
import StaticAccessors.Emission.Layout
import StaticAccessors.Emission.Depth
import StaticAccessors.Emission.Scope
import StaticAccessors.Strategy.Direct
import StaticAccessors.Strategy.TryGet
import StaticAccessors.Strategy.Check
import StaticAccessors.Disk.Access
import StaticAccessors.Units.Definitions
import StaticAccessors.Units.Guard
import StaticAccessors.Registry
import StaticAccessors.Script
import StaticAccessors.Settings.File
import StaticAccessors.Text.Lines
import StaticAccessors.Template.Defect
import StaticAccessors.Template.Name
import StaticAccessors.Template.Piece
import StaticAccessors.Template.Node
import StaticAccessors.Template.Engine
import StaticAccessors.Template.EmptyScript
import StaticAccessors.Logging
import StaticAccessors.ProjectPath
import StaticAccessors.Generation
import StaticAccessors.Url.Host
import StaticAccessors.Url.Basic
import StaticAccessors.Manifest.Source
import StaticAccessors.Text.Split
import StaticAccessors.Workspace
import StaticAccessors.Project
import StaticAccessors.Console.Cell
import StaticAccessors.Console.Wrap
import StaticAccessors.Console.Emoji
import StaticAccessors.Console.Style
import StaticAccessors.Console.Literal
import StaticAccessors.Console.Markup
import StaticAccessors.Console.Lines
import StaticAccessors.Command.Grammar
import StaticAccessors.Command.Manual
import StaticAccessors.Command.Run
import StaticAccessors.Main
import StaticAccessors.Proofs.Emission.Lines
import StaticAccessors.Proofs.Emission.Nesting
import StaticAccessors.Proofs.Strategy.Lines
import StaticAccessors.Proofs.Emission.Directives
import StaticAccessors.Proofs.Emission.Layout
import StaticAccessors.Proofs.Script.Lines
import StaticAccessors.Proofs.Kinds
import StaticAccessors.Proofs.Strategy.Nesting
import StaticAccessors.Proofs.Script.Nesting
import StaticAccessors.Proofs.Identifier.Case
import StaticAccessors.Proofs.Identifier.Words
import StaticAccessors.Proofs.Strategy.Owners
import StaticAccessors.Proofs.Strategy.Collisions
import StaticAccessors.Proofs.Strategy.MemberNames
import StaticAccessors.Proofs.Generation.Trace
import StaticAccessors.Proofs.Generation.Course
import StaticAccessors.Proofs.Generation.Effects
import StaticAccessors.Proofs.Script.Printing
import StaticAccessors.Proofs.Script.Leaks
import StaticAccessors.Proofs.Disk.Storing
import StaticAccessors.Proofs.Disk.Growth
import StaticAccessors.Proofs.Workspace.LocalDisk
import StaticAccessors.Proofs.Workspace.Atomicity
import StaticAccessors.Proofs.Registry.Reachable
import StaticAccessors.Proofs.Registry.Refusal
import StaticAccessors.Proofs.Workspace.Agreement
import StaticAccessors.Proofs.Workspace.Leaks
import StaticAccessors.Proofs.Table
import StaticAccessors.Proofs.Identifier.Characters
import StaticAccessors.Proofs.Identifier.Memory
import StaticAccessors.Proofs.Identifier.Separators
import StaticAccessors.Proofs.Identifier.Pairs
import StaticAccessors.Proofs.Identifier.Stability
import StaticAccessors.Proofs.Strategy.Renaming
import StaticAccessors.Proofs.Strategy.Warnings
import StaticAccessors.Proofs.Script.ReadBack
import StaticAccessors.Proofs.Workspace.EmptyScripts
import StaticAccessors.Proofs.Script.FileName
import StaticAccessors.Proofs.Workspace.Footprint
import StaticAccessors.Proofs.Workspace.Confinement
import StaticAccessors.Proofs.Units.Lookup
import StaticAccessors.Proofs.Units.Nearest
import StaticAccessors.Proofs.Workspace.Escapes
import StaticAccessors.Proofs.Workspace.Regeneration
import StaticAccessors.Proofs.Workspace.Independence
import StaticAccessors.Proofs.Settings.Overlay
import StaticAccessors.Proofs.Value.Entries
import StaticAccessors.Proofs.Value.Sameness
import StaticAccessors.Proofs.Settings.Saving
import StaticAccessors.Proofs.Json.Reading
import StaticAccessors.Proofs.Command.Speech
import StaticAccessors.Proofs.Command.ScriptExit
import StaticAccessors.Proofs.Command.Reading
import StaticAccessors.Proofs.Command.Flags
import StaticAccessors.Proofs.Command.Words
import StaticAccessors.Proofs.Command.DryRun
import StaticAccessors.Proofs.Script.Imports
import StaticAccessors.Proofs.Strategy.Literals
import StaticAccessors.Proofs.Identifier.Legality
import StaticAccessors.Proofs.Script.Style
import StaticAccessors.Proofs.Workspace.SharedUnits
import StaticAccessors.Proofs.FilePath
import StaticAccessors.Proofs.Units.Prefixes
import StaticAccessors.Proofs.Workspace.Places
import StaticAccessors.Proofs.Manifest.Grammar
import StaticAccessors.Proofs.Manifest.TypeNames
import StaticAccessors.Proofs.Registry.Spellings
import StaticAccessors.Proofs.Disk.Reading
import StaticAccessors.Proofs.Manifest.Loading
import StaticAccessors.Proofs.Script.Rendering
import StaticAccessors.Proofs.Text.Lines
import StaticAccessors.Proofs.Value.Display
import StaticAccessors.Proofs.Template.Rendering
import StaticAccessors.Proofs.Template.LineEnds
import StaticAccessors.Proofs.Template.EmptyScript
import StaticAccessors.Proofs.Emission.Steps
import StaticAccessors.Proofs.Emission.Symmetry
import StaticAccessors.Proofs.Emission.Atomicity
