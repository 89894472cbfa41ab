import GraphQuery.Assembly.Basic
import GraphQuery.Assembly.Clause
import GraphQuery.Assembly.Collection
import GraphQuery.Assembly.Construction
import GraphQuery.Assembly.Expression
import GraphQuery.Assembly.Leaf
import GraphQuery.Assembly.Pattern
import GraphQuery.Assembly.Query
import GraphQuery.Assembly.Reassigned
import GraphQuery.Clause
import GraphQuery.Compile
import GraphQuery.Direction
import GraphQuery.Environment
import GraphQuery.Event
import GraphQuery.Expression
import GraphQuery.Fault
import GraphQuery.Log.Channel
import GraphQuery.Log.Handling
import GraphQuery.Log.Line
import GraphQuery.Log.Logger
import GraphQuery.Log.Message
import GraphQuery.Log.Record
import GraphQuery.Markup.Colour
import GraphQuery.Markup.Literal
import GraphQuery.Markup.Style
import GraphQuery.Markup.Tag
import GraphQuery.Pattern
import GraphQuery.Projection
import GraphQuery.Proofs.Naming.Allocation
import GraphQuery.Proofs.Naming.Namespace
import GraphQuery.Proofs.Naming.Numbering
import GraphQuery.Proofs.Rendering.Stability
import GraphQuery.Proofs.Store.Growth
import GraphQuery.Proofs.Store.Likeness
import GraphQuery.Reference
import GraphQuery.Refusal
import GraphQuery.Registry
import GraphQuery.Session.Basic
import GraphQuery.Session.Callable
import GraphQuery.Session.Compiling
import GraphQuery.Session.Configuring
import GraphQuery.Session.Document
import GraphQuery.Session.Inspecting
import GraphQuery.Session.Logging
import GraphQuery.Session.Program
import GraphQuery.Session.Request
import GraphQuery.Session.Signature
import GraphQuery.Settings.Basic
import GraphQuery.Settings.Health
import GraphQuery.Store.Attribute
import GraphQuery.Store.Basic
import GraphQuery.Store.Loose
import GraphQuery.Store.Part
import GraphQuery.Store.Reassigned
import GraphQuery.Store.Tree
import GraphQuery.Store.View
import GraphQuery.Template
import GraphQuery.Text.Blank
import GraphQuery.Text.CaseRun
import GraphQuery.Text.CharSet
import GraphQuery.Text.Digit
import GraphQuery.Text.Identifier
import GraphQuery.Text.Lowercase
import GraphQuery.Text.Octets
import GraphQuery.Text.Placeless
import GraphQuery.Text.Printable
import GraphQuery.Text.Quoted
import GraphQuery.Text.Uppercase
import GraphQuery.Tree
import GraphQuery.Value.Basic
import GraphQuery.Value.Decimal
import GraphQuery.Value.Equality
import GraphQuery.Value.Rounded
import GraphQuery.Value.Shortest
import GraphQuery.Value.Text
import GraphQuery.Proofs.Assembly.Agreement
import GraphQuery.Proofs.Assembly.Argument
import GraphQuery.Proofs.Assembly.Leaf
import GraphQuery.Proofs.Assembly.Expression
import GraphQuery.Proofs.Assembly.Pattern
import GraphQuery.Proofs.Assembly.Clause
import GraphQuery.Proofs.Assembly.Construction
import GraphQuery.Proofs.Rendering.Likeness
import GraphQuery.Proofs.Tree.Likeness
import GraphQuery.Proofs.Tree.Matching
import GraphQuery.Proofs.Store.Renaming
import GraphQuery.Proofs.Compile.Isomorphism
import GraphQuery.Proofs.Store.Tree
import GraphQuery.Proofs.Assembly.Run
import GraphQuery.Proofs.Compile.Likeness
import GraphQuery.Proofs.Compile.Literals
import GraphQuery.Proofs.Rendering.Tidiness
import GraphQuery.Proofs.Store.Tidiness
import GraphQuery.Proofs.Rendering.Written
import GraphQuery.Proofs.Assembly.Exported
import GraphQuery.Proofs.Compile.Placeholders
import GraphQuery.Proofs.Rendering.Places
import GraphQuery.Proofs.Rendering.Shown
import GraphQuery.Proofs.Tree.Whole
import GraphQuery.Proofs.Tree.Lines
import GraphQuery.Proofs.Store.Addition
import GraphQuery.Proofs.Assembly.Furnishing
import GraphQuery.Proofs.Assembly.Frame
import GraphQuery.Proofs.Assembly.Proper
import GraphQuery.Proofs.Compile.Keywords
import GraphQuery.Proofs.Compile.Grammar
import GraphQuery.Proofs.Store.Expansion
import GraphQuery.Proofs.History.Call
import GraphQuery.Proofs.History.Filter
import GraphQuery.Proofs.History.Clause
import GraphQuery.Proofs.History.Run
import GraphQuery.Proofs.History.Tree
import GraphQuery.Proofs.History.Order
import GraphQuery.Proofs.Compile.History
import GraphQuery.Proofs.Store.Typing
import GraphQuery.Proofs.Assembly.Typing
import GraphQuery.Proofs.Assembly.Conformance
import GraphQuery.Proofs.Assembly.Layering
import GraphQuery.Proofs.Assembly.Sources
import GraphQuery.Proofs.Store.Containment
import GraphQuery.Proofs.Store.Parts
import GraphQuery.Proofs.Assembly.Acyclicity
import GraphQuery.Proofs.Rendering.Faults
import GraphQuery.Proofs.Compile.Containment
import GraphQuery.Proofs.Compile.Separation
import GraphQuery.Proofs.Compile.Totality
import GraphQuery.Proofs.Tree.Aliases
import GraphQuery.Proofs.Compile.Aliases
import GraphQuery.Proofs.Text.Token
import GraphQuery.Proofs.Text.Chain
import GraphQuery.Proofs.Naming.Spelling
import GraphQuery.Proofs.Rendering.Spelling
import GraphQuery.Proofs.Tree.Chain
import GraphQuery.Proofs.Assembly.Drawn
import GraphQuery.Proofs.Compile.Patterns
import GraphQuery.Proofs.Text.Lexeme
import GraphQuery.Proofs.Text.Formula
import GraphQuery.Proofs.Text.Reading
import GraphQuery.Proofs.Text.Regular
import GraphQuery.Proofs.Text.Precedence
import GraphQuery.Proofs.Text.Grouping
import GraphQuery.Proofs.Text.Truth
import GraphQuery.Proofs.Tree.Made
import GraphQuery.Proofs.Tree.Level
import GraphQuery.Proofs.Tree.Formula
import GraphQuery.Proofs.Compile.Predicates
import GraphQuery.Proofs.Compile.Grouping
import GraphQuery.Proofs.History.Joined
import GraphQuery.Proofs.Compile.Filters
import GraphQuery.Proofs.Naming.Numeral
import GraphQuery.Proofs.Naming.Lookup
import GraphQuery.Proofs.Naming.Ambiguity
import GraphQuery.Proofs.Rendering.Parts
import GraphQuery.Proofs.Tree.Query
import GraphQuery.Proofs.Store.Locality
import GraphQuery.Proofs.Compile.Query
import GraphQuery.Proofs.Compile.Unions
import GraphQuery.Proofs.Store.Flattening
import GraphQuery.Proofs.Compile.Statements
import GraphQuery.Proofs.Rendering.Outline
import GraphQuery.Proofs.Compile.Configuration
import GraphQuery.Proofs.Text.Name
import GraphQuery.Proofs.Assembly.Failure
import GraphQuery.Proofs.Compile.Refusals
import GraphQuery.Proofs.Assembly.Interruption
import GraphQuery.Proofs.Tree.Insertion
import GraphQuery.Proofs.Compile.Interruption
import GraphQuery.Proofs.Store.Wholeness
import GraphQuery.Proofs.Compile.Unchecked
import GraphQuery.Proofs.Tree.Strands
import GraphQuery.Proofs.Store.Nesting
import GraphQuery.Proofs.Compile.Joints
import GraphQuery.Proofs.Assembly.Success
import GraphQuery.Proofs.Assembly.Wrapping
import GraphQuery.Proofs.Assembly.Checked
import GraphQuery.Proofs.Compile.OpenChains
import GraphQuery.Proofs.Tree.Marks
import GraphQuery.Proofs.Naming.Tally
import GraphQuery.Proofs.Rendering.Accounting
import GraphQuery.Proofs.Compile.Events
import GraphQuery.Proofs.Fault
import GraphQuery.Proofs.Naming.Search
import GraphQuery.Proofs.Log.Line
import GraphQuery.Proofs.Log.Handling
import GraphQuery.Proofs.Store.Data
import GraphQuery.Proofs.Session.Step
import GraphQuery.Proofs.Session.Frame
import GraphQuery.Proofs.Session.Formatting
import GraphQuery.Proofs.Session.SettingUp
import GraphQuery.Proofs.Session.Reloading
