import Outline.Main
import Outline.Settings.Session
import Outline.Json.Reader
import Outline.Proofs.Inventory.CallLines
import Outline.Proofs.Inventory.Declarations
import Outline.Proofs.Inventory.Extents
import Outline.Proofs.Inventory.Padding
import Outline.Proofs.Source.Seam
import Outline.Proofs.Config.Load
import Outline.Proofs.Settings.History
import Outline.Proofs.Json.Reader
import Outline.Proofs.Json.RoundTrip
import Outline.Proofs.Json.Record
import Outline.CallGraph.Step
import Outline.Proofs.Report.Codec
import Outline.Proofs.CallGraph.Reload
import Outline.Proofs.Toml.Strings
import Outline.Proofs.Disk.Write
import Outline.Proofs.Toml.Document
import Outline.Proofs.Toml.Overlay
import Outline.Proofs.Settings.Reopen
import Outline.Proofs.Inventory.WellFormed
import Outline.Proofs.Command.Recovery
import Outline.Proofs.Command.Keeping
import Outline.Proofs.Workspace.Split
import Outline.Proofs.Disk.WellFormed
import Outline.Proofs.Scan.Walk
import Outline.Proofs.Scan.Listing
import Outline.Proofs.Source.Grammar
import Outline.Proofs.Source.Chain
import Outline.Proofs.Disk.Files
import Outline.Proofs.Settings.Saving
import Outline.Proofs.Source.Docstring
import Outline.Proofs.Source.Canonical
import Outline.Proofs.Config.Layers
import Outline.Proofs.Inventory.Canonical
import Outline.Proofs.Config.Variable
import Outline.Proofs.Inventory.Docstrings
import Outline.Proofs.Inventory.Separators
import Outline.Proofs.Role.Folding
import Outline.Proofs.CallGraph.Summary
import Outline.Proofs.CallGraph.Targets
import Outline.Proofs.Source.Import
import Outline.Proofs.Source.Decorators
import Outline.Proofs.Text.LineIndex
