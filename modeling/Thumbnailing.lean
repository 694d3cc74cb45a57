import Thumbnailing.Process.Report
import Thumbnailing.Proofs.Directive.Grouping
import Thumbnailing.Proofs.Directive.Names
import Thumbnailing.Proofs.Directive.Quoting
import Thumbnailing.Proofs.Directive.ReadBack
import Thumbnailing.Proofs.Directive.RoundTrip
import Thumbnailing.Proofs.Engine.Blindness
import Thumbnailing.Proofs.Engine.Commands
import Thumbnailing.Proofs.Engine.DirectiveNames
import Thumbnailing.Proofs.Engine.Effects
import Thumbnailing.Proofs.Engine.Faults
import Thumbnailing.Proofs.Engine.HandedOn
import Thumbnailing.Proofs.Engine.Interleaving
import Thumbnailing.Proofs.Engine.LoaderArguments
import Thumbnailing.Proofs.Engine.LoaderSpelling
import Thumbnailing.Proofs.Engine.LoaderValues
import Thumbnailing.Proofs.Engine.Looking
import Thumbnailing.Proofs.Engine.Orientation
import Thumbnailing.Proofs.Engine.PageBoxes
import Thumbnailing.Proofs.Engine.PageCuts
import Thumbnailing.Proofs.Engine.PageDirectives
import Thumbnailing.Proofs.Engine.PageScaling
import Thumbnailing.Proofs.Engine.Pages
import Thumbnailing.Proofs.Engine.PixelWork
import Thumbnailing.Proofs.Engine.ResizeReading
import Thumbnailing.Proofs.Engine.ResizeWords
import Thumbnailing.Proofs.Engine.SaverNotes
import Thumbnailing.Proofs.Engine.Saving
import Thumbnailing.Proofs.Engine.Spelling
import Thumbnailing.Proofs.Engine.Steps
import Thumbnailing.Proofs.Engine.Usage
import Thumbnailing.Proofs.Engine.Verdicts
import Thumbnailing.Proofs.Entries
import Thumbnailing.Proofs.Format.Chunks
import Thumbnailing.Proofs.Geometry.CropBox
import Thumbnailing.Proofs.Geometry.Feasibility
import Thumbnailing.Proofs.Geometry.Grammar
import Thumbnailing.Proofs.Geometry.Legibility
import Thumbnailing.Proofs.Geometry.Overflow
import Thumbnailing.Proofs.Geometry.Parsing
import Thumbnailing.Proofs.Geometry.RoundTrip
import Thumbnailing.Proofs.Json.Leaves
import Thumbnailing.Proofs.Json.Places
import Thumbnailing.Proofs.Json.Reading
import Thumbnailing.Proofs.Number.Calculation
import Thumbnailing.Proofs.Number.Digits
import Thumbnailing.Proofs.Number.Overflow
import Thumbnailing.Proofs.Number.Range
import Thumbnailing.Proofs.Number.Words
import Thumbnailing.Proofs.Pipeline.Compilation
import Thumbnailing.Proofs.Request.Destination
import Thumbnailing.Proofs.Request.Failures
import Thumbnailing.Proofs.Request.Faults
import Thumbnailing.Proofs.Request.FormOptions
import Thumbnailing.Proofs.Request.FrameCount
import Thumbnailing.Proofs.Request.FrameSelection
import Thumbnailing.Proofs.Request.Leniency
import Thumbnailing.Proofs.Request.Options
import Thumbnailing.Proofs.Request.Orientation
import Thumbnailing.Proofs.Request.Planning
import Thumbnailing.Proofs.Request.Rendering
import Thumbnailing.Proofs.Request.Sniffing
import Thumbnailing.Proofs.Request.Stages
import Thumbnailing.Proofs.Request.Translation
import Thumbnailing.Proofs.Service.StoredName
import Thumbnailing.Proofs.Service.Upload
import Thumbnailing.Proofs.Storage.FileTree
import Thumbnailing.Proofs.Storage.Path
import Thumbnailing.Proofs.Storage.Subtree
import Thumbnailing.Proofs.Task
import Thumbnailing.Proofs.Text.LetterCase
import Thumbnailing.Proofs.Text.Trimming
import Thumbnailing.Proofs.World.Blame
import Thumbnailing.Proofs.World.Faults
import Thumbnailing.Proofs.World.Files
import Thumbnailing.Proofs.World.Library
import Thumbnailing.Proofs.World.Looking
import Thumbnailing.Proofs.World.Plain
import Thumbnailing.Proofs.World.Temporary
import Thumbnailing.Proofs.World.ToolCalls
import Thumbnailing.Proofs.World.Usage
import Thumbnailing.Service.Health
import Thumbnailing.Service.Upload
