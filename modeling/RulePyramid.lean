import RulePyramid.Main
import RulePyramid.Session.Operations
import RulePyramid.Event.Json
import RulePyramid.Telemetry
import RulePyramid.Sample
import RulePyramid.Store.Preferences
import RulePyramid.Proofs.Graph.Index
import RulePyramid.Proofs.Graph.Nodes
import RulePyramid.Proofs.Graph.Edges
import RulePyramid.Proofs.Graph.Components
import RulePyramid.Proofs.Graph.Cycles
import RulePyramid.Proofs.Layout.Bands
import RulePyramid.Proofs.Layout.Arrangement
import RulePyramid.Proofs.Layout.Renumbering
import RulePyramid.Proofs.View.Determinism
import RulePyramid.Proofs.View.Completeness
import RulePyramid.Proofs.Session.Rest
import RulePyramid.Proofs.Session.Selection
import RulePyramid.Proofs.Session.Replica
import RulePyramid.Proofs.Session.Numbering
import RulePyramid.Proofs.Session.Refreshes
import RulePyramid.Proofs.Json.Strings
import RulePyramid.Proofs.Session.Interleaving
import RulePyramid.Proofs.Store.Files
import RulePyramid.Proofs.Session.Resumption
import RulePyramid.Proofs.Layout.Distances
import RulePyramid.Proofs.Layout.Boxes
import RulePyramid.Proofs.Ranking
import RulePyramid.Proofs.Layout.Stacking
import RulePyramid.Proofs.View.Cycles
import RulePyramid.Proofs.Group
import RulePyramid.Proofs.View.Groups
import RulePyramid.Proofs.View.CatchAll
import RulePyramid.Proofs.Text.Pattern
import RulePyramid.Proofs.Expression
import RulePyramid.Proofs.Date
import RulePyramid.Proofs.Json.Numbers
import RulePyramid.Proofs.Json.Values
import RulePyramid.Proofs.Json.Canonical
import RulePyramid.Proofs.Rule
import RulePyramid.Proofs.Graph.Dependencies
import RulePyramid.Proofs.View.Literals
import RulePyramid.Proofs.Store.Saves
import RulePyramid.Proofs.Layout.LowerBands
import RulePyramid.Proofs.View.Frames
import RulePyramid.Proofs.Color
import RulePyramid.Proofs.CommandLine.Rules
import RulePyramid.Proofs.CommandLine.Runs
import RulePyramid.Proofs.Sample
import RulePyramid.Proofs.Binary.Rounding
import RulePyramid.Proofs.Binary.Shortest
import RulePyramid.Proofs.Json.Doubles
import RulePyramid.Proofs.Json.Midpoints
import RulePyramid.Proofs.Json.Singles
import RulePyramid.Proofs.Layout.Settings
import RulePyramid.Proofs.View.Captions
import RulePyramid.Proofs.Store.Sources
import RulePyramid.Proofs.View.Lookups
