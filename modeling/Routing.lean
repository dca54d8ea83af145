import Routing.Bindings
import Routing.CommandLine.Arguments
import Routing.CommandLine.Command
import Routing.CommandLine.Ending
import Routing.Decimal
import Routing.Declaration
import Routing.Declaration.OfJson
import Routing.Diagnostics
import Routing.Error
import Routing.Json
import Routing.Json.Reader
import Routing.Main
import Routing.Path
import Routing.Proofs.Bindings
import Routing.Proofs.CatchAll
import Routing.Proofs.DryRun
import Routing.Proofs.Generation
import Routing.Proofs.History
import Routing.Proofs.Lead
import Routing.Proofs.Lists
import Routing.Proofs.Loading
import Routing.Proofs.Parameters
import Routing.Proofs.Path.Codec
import Routing.Proofs.Priority
import Routing.Proofs.Register
import Routing.Proofs.Resolution
import Routing.Proofs.Template.Alignment
import Routing.Proofs.Template.Dead
import Routing.Proofs.Template.Emission
import Routing.Proofs.Template.FixedPoint
import Routing.Proofs.Template.Grammar
import Routing.Proofs.Template.Interleaving
import Routing.Proofs.Template.Layout
import Routing.Proofs.Template.Matching
import Routing.Proofs.Template.Origin
import Routing.Proofs.Template.Reencoding
import Routing.Proofs.Template.Rendered
import Routing.Proofs.Template.Rerender
import Routing.Proofs.Template.RoundTrip
import Routing.Proofs.Template.Spelling
import Routing.Router
import Routing.Rule
import Routing.RuleTable
import Routing.Session
import Routing.Settings
import Routing.Template.Grammar
import Routing.Template.Match
import Routing.Template.Render
import Routing.Template.Token
import Routing.Text.Character
import Routing.Text.Cut
import Routing.Text.Reader
import Routing.Text.Shown
import Routing.Toml.Document
import Routing.Toml.Lexeme
import Routing.Toml.Scalar
import Routing.Toml.Table
