import PageConfig.Component.Basic
import PageConfig.Component.Registry
import PageConfig.Context.Basic
import PageConfig.Context.Viewport
import PageConfig.Decimal.Reading
import PageConfig.Decimal.Shortest
import PageConfig.Decode.Error
import PageConfig.Decode.Record
import PageConfig.Decode.Scalar
import PageConfig.Document.Basic
import PageConfig.Document.Condition
import PageConfig.Document.Layout
import PageConfig.Document.Node
import PageConfig.Document.Theme
import PageConfig.Document.Visibility
import PageConfig.Effect
import PageConfig.Error
import PageConfig.Markup.Block
import PageConfig.Markup.Folding
import PageConfig.Markup.Layout
import PageConfig.Markup.Place
import PageConfig.Markup.Reader
import PageConfig.Markup.Scalar
import PageConfig.Markup.Token
import PageConfig.Markup.Tree
import PageConfig.Page.Controller
import PageConfig.Pattern.Basic
import PageConfig.Pattern.Expression
import PageConfig.Pattern.Meaning
import PageConfig.Pattern.Reader
import PageConfig.Pattern.Suffix
import PageConfig.Proofs.Component.Log
import PageConfig.Proofs.Component.Registry
import PageConfig.Proofs.Context.Merge
import PageConfig.Proofs.Context.Written
import PageConfig.Proofs.Decimal.Double
import PageConfig.Proofs.Decimal.Rounding
import PageConfig.Proofs.Decode.Record
import PageConfig.Proofs.Decode.Themed
import PageConfig.Proofs.Document.Addressed
import PageConfig.Proofs.Document.Comparison
import PageConfig.Proofs.Document.Find
import PageConfig.Proofs.Document.Ids
import PageConfig.Proofs.Document.Layout
import PageConfig.Proofs.Document.Membership
import PageConfig.Proofs.Document.Nodes
import PageConfig.Proofs.Document.Order
import PageConfig.Proofs.Document.Slim
import PageConfig.Proofs.Document.Tokens
import PageConfig.Proofs.Document.Visibility
import PageConfig.Proofs.Effect
import PageConfig.Proofs.Effect.Agree
import PageConfig.Proofs.Effect.Tandem
import PageConfig.Proofs.Effect.Yields
import PageConfig.Proofs.Page.Counts
import PageConfig.Proofs.Page.Course
import PageConfig.Proofs.Page.Findings
import PageConfig.Proofs.Page.Held
import PageConfig.Proofs.Page.Intake
import PageConfig.Proofs.Page.Invariant
import PageConfig.Proofs.Page.Leftovers
import PageConfig.Proofs.Page.Loads
import PageConfig.Proofs.Page.Reachable
import PageConfig.Proofs.Page.Samples
import PageConfig.Proofs.Page.ScriptFree
import PageConfig.Proofs.Page.Updates
import PageConfig.Proofs.Pattern.Preference
import PageConfig.Proofs.Pattern.Reading
import PageConfig.Proofs.Pattern.Removal
import PageConfig.Proofs.Pattern.Search
import PageConfig.Proofs.Pattern.Span
import PageConfig.Proofs.Props.Overrides
import PageConfig.Proofs.Props.Pieces
import PageConfig.Proofs.Props.Texts
import PageConfig.Proofs.Props.ThemeReference
import PageConfig.Proofs.Raw.Findings
import PageConfig.Proofs.Raw.IndexKeys
import PageConfig.Proofs.Raw.ScriptElement
import PageConfig.Proofs.Raw.ScriptFree
import PageConfig.Proofs.Raw.Slim
import PageConfig.Proofs.Raw.Stages
import PageConfig.Proofs.Raw.Texts
import PageConfig.Proofs.Raw.Warnings
import PageConfig.Proofs.ReadBack.Basic
import PageConfig.Proofs.ReadBack.Context
import PageConfig.Proofs.ReadBack.Document
import PageConfig.Proofs.ReadBack.Layout
import PageConfig.Proofs.ReadBack.Node
import PageConfig.Proofs.ReadBack.Theme
import PageConfig.Proofs.Value.Equality
import PageConfig.Proofs.Value.Induction
import PageConfig.Proofs.Value.Leaves
import PageConfig.Proofs.Value.Merge
import PageConfig.Proofs.Value.Path
import PageConfig.Proofs.Value.Read
import PageConfig.Proofs.Value.Table
import PageConfig.Proofs.Value.Texts
import PageConfig.Proofs.View.Accounts
import PageConfig.Proofs.View.Addressed
import PageConfig.Proofs.View.Boundary
import PageConfig.Proofs.View.Calls
import PageConfig.Proofs.View.History
import PageConfig.Proofs.View.Invariant
import PageConfig.Proofs.View.Isolation
import PageConfig.Proofs.View.Latest
import PageConfig.Proofs.View.Plain
import PageConfig.Proofs.View.Repeated
import PageConfig.Proofs.View.Retimed
import PageConfig.Proofs.View.Retry
import PageConfig.Proofs.View.Shown
import PageConfig.Proofs.View.ShownProps
import PageConfig.Proofs.View.Slim
import PageConfig.Proofs.View.Steps
import PageConfig.Proofs.View.Style
import PageConfig.Proofs.View.Visits
import PageConfig.Proofs.View.Watch
import PageConfig.Props.Responsive
import PageConfig.Props.Template
import PageConfig.Props.ThemeReference
import PageConfig.Raw.Process
import PageConfig.Raw.Report
import PageConfig.Raw.Script
import PageConfig.Raw.Shape
import PageConfig.Raw.Slim
import PageConfig.Text.Blank
import PageConfig.Text.CaseFold
import PageConfig.Text.Category
import PageConfig.Text.Class
import PageConfig.Text.Occurrence
import PageConfig.Text.Property
import PageConfig.Text.Ranges
import PageConfig.Text.Script
import PageConfig.Value.Basic
import PageConfig.Value.Canonical
import PageConfig.Value.Coercion
import PageConfig.Value.Dictionary
import PageConfig.Value.Merge
import PageConfig.Value.Parser
import PageConfig.Value.Path
import PageConfig.Value.Printer
import PageConfig.View.Block
import PageConfig.View.NodeProps
import PageConfig.View.Renderer
import PageConfig.View.Style
