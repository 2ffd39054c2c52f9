import HandlerStudio.Cli.Arguments
import HandlerStudio.Cli.Run
import HandlerStudio.Config.Basic
import HandlerStudio.Config.Error
import HandlerStudio.Config.Toml
import HandlerStudio.Disk.Basic
import HandlerStudio.Disk.Path
import HandlerStudio.Disk.Place
import HandlerStudio.Editor.Basic
import HandlerStudio.Editor.Error
import HandlerStudio.Editor.Event
import HandlerStudio.Editor.Live
import HandlerStudio.Entries
import HandlerStudio.Handler.Basic
import HandlerStudio.Handler.Json
import HandlerStudio.Json.Basic
import HandlerStudio.Json.Fault
import HandlerStudio.Json.Ignored
import HandlerStudio.Json.Printer
import HandlerStudio.Json.Reader
import HandlerStudio.Json.Record
import HandlerStudio.Main
import HandlerStudio.Node.Basic
import HandlerStudio.Node.Build
import HandlerStudio.Node.Error
import HandlerStudio.Node.Identity
import HandlerStudio.Node.Json
import HandlerStudio.Node.Kind
import HandlerStudio.Number.Basic
import HandlerStudio.Number.Decimal
import HandlerStudio.Number.Double
import HandlerStudio.Number.Shortest
import HandlerStudio.Outline
import HandlerStudio.Palette
import HandlerStudio.Preview.Basic
import HandlerStudio.Preview.Display
import HandlerStudio.Preview.Generator
import HandlerStudio.Preview.Live
import HandlerStudio.Preview.Scheduler
import HandlerStudio.Proofs.Entries
import HandlerStudio.Proofs.Tree.Amend
import HandlerStudio.Proofs.Tree.Identities
import HandlerStudio.Report.Basic
import HandlerStudio.Report.Config
import HandlerStudio.Report.Editor
import HandlerStudio.Report.Error
import HandlerStudio.Report.Preview
import HandlerStudio.Report.Session
import HandlerStudio.Report.Tree
import HandlerStudio.Session.Basic
import HandlerStudio.Session.Dirty
import HandlerStudio.Session.Selection
import HandlerStudio.Store.Error
import HandlerStudio.Store.File
import HandlerStudio.Store.Memory
import HandlerStudio.Target.Basic
import HandlerStudio.Target.Json
import HandlerStudio.Text.Characters
import HandlerStudio.Text.Hidden
import HandlerStudio.Text.Lowercase
import HandlerStudio.Text.Quoted
import HandlerStudio.Toml.Basic
import HandlerStudio.Toml.Literal
import HandlerStudio.Toml.Quoted
import HandlerStudio.Toml.Reader
import HandlerStudio.Tree.Basic
import HandlerStudio.Tree.Edit
import HandlerStudio.Tree.Stats
import HandlerStudio.Proofs.Tree.Ordered
import HandlerStudio.Proofs.Tree.UniqueIds
import HandlerStudio.Proofs.Json.Reader
import HandlerStudio.Proofs.Node.Decoded
import HandlerStudio.Proofs.Handler.Stored
import HandlerStudio.Proofs.Session.History
import HandlerStudio.Proofs.Session.UniqueIds
import HandlerStudio.Proofs.Node.Shape
import HandlerStudio.Proofs.Session.Dirty
import HandlerStudio.Proofs.Node.RoundTrip
import HandlerStudio.Proofs.Json.Numerals
import HandlerStudio.Proofs.Json.Strings
import HandlerStudio.Proofs.Json.Layout
import HandlerStudio.Proofs.Json.RoundTrip
import HandlerStudio.Proofs.Handler.RoundTrip
import HandlerStudio.Proofs.Preview.History
import HandlerStudio.Proofs.Preview.LatestWins
import HandlerStudio.Proofs.Preview.Settled
import HandlerStudio.Proofs.Editor.Steps
import HandlerStudio.Proofs.Editor.Saving
import HandlerStudio.Proofs.Editor.Requests
import HandlerStudio.Proofs.Editor.Agreement
import HandlerStudio.Proofs.Tree.Spine
import HandlerStudio.Proofs.Tree.Rebuild
import HandlerStudio.Proofs.Tree.Taken
import HandlerStudio.Proofs.Tree.Insert
import HandlerStudio.Proofs.Tree.Remove
import HandlerStudio.Proofs.Tree.Update
import HandlerStudio.Proofs.Tree.Locality
import HandlerStudio.Proofs.Tree.Undo
import HandlerStudio.Proofs.Editor.Autosave
import HandlerStudio.Proofs.Json.Genuine
import HandlerStudio.Proofs.Node.Hereditary
import HandlerStudio.Proofs.Node.Storable
import HandlerStudio.Proofs.Tree.Hereditary
import HandlerStudio.Proofs.Tree.Storable
import HandlerStudio.Proofs.Session.Reloaded
import HandlerStudio.Proofs.Tree.Sweep
import HandlerStudio.Proofs.Tree.Commute
import HandlerStudio.Proofs.Node.Accepted
import HandlerStudio.Proofs.Node.Respelled
import HandlerStudio.Proofs.Tree.Built
import HandlerStudio.Proofs.Tree.WellFormed
import HandlerStudio.Proofs.Tree.Lookup
import HandlerStudio.Proofs.Tree.Filled
import HandlerStudio.Proofs.Preview.Debounce
import HandlerStudio.Proofs.Editor.Following
import HandlerStudio.Proofs.Target.Grammar
import HandlerStudio.Proofs.Tree.Summary
import HandlerStudio.Proofs.Toml.Bounded
import HandlerStudio.Proofs.Toml.Lines
import HandlerStudio.Proofs.Toml.Literal
import HandlerStudio.Proofs.Toml.Quoted
import HandlerStudio.Proofs.Config.RoundTrip
import HandlerStudio.Proofs.Tree.Outline
import HandlerStudio.Proofs.Disk.Route
import HandlerStudio.Proofs.Disk.Change
import HandlerStudio.Proofs.Disk.Pieces
import HandlerStudio.Proofs.Store.Apart
import HandlerStudio.Proofs.Preview.Shown
