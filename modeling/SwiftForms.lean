import SwiftForms.Check
import SwiftForms.Command.Flags
import SwiftForms.Command.Options
import SwiftForms.Command.Run
import SwiftForms.Compile
import SwiftForms.Compiler
import SwiftForms.Console
import SwiftForms.Dict
import SwiftForms.Digest
import SwiftForms.Engine.Address
import SwiftForms.Engine.Basic
import SwiftForms.Engine.Connection
import SwiftForms.Engine.Image
import SwiftForms.Engine.Pages
import SwiftForms.Engine.Parameters
import SwiftForms.Engine.Setting
import SwiftForms.Engine.Sql.Scalar
import SwiftForms.Engine.Sql.Statement
import SwiftForms.Engine.Sql.Token
import SwiftForms.Expr.Basic
import SwiftForms.Expr.Outline
import SwiftForms.Files
import SwiftForms.Form.Basic
import SwiftForms.Form.Delimiter
import SwiftForms.Form.Numeral
import SwiftForms.Form.Position
import SwiftForms.Form.Printer
import SwiftForms.Form.ReadError
import SwiftForms.Form.Reader
import SwiftForms.Library.Basic
import SwiftForms.Library.Declared
import SwiftForms.Library.Standard
import SwiftForms.Main
import SwiftForms.Resolve.Basic
import SwiftForms.Resolve.Error
import SwiftForms.Scope
import SwiftForms.Session
import SwiftForms.Store.Basic
import SwiftForms.Store.Cache
import SwiftForms.Store.Call
import SwiftForms.Store.Database
import SwiftForms.Store.Error
import SwiftForms.Store.Memory
import SwiftForms.Swift.Identifier
import SwiftForms.Swift.Render
import SwiftForms.Swift.Statement
import SwiftForms.Text.Basic
import SwiftForms.Text.Classes
import SwiftForms.Text.Encoding
import SwiftForms.Text.Letter
import SwiftForms.Text.Percent
import SwiftForms.Text.Quoted
import SwiftForms.Workshop
import SwiftForms.Proofs.Command.Course
import SwiftForms.Proofs.Command.Honest
import SwiftForms.Proofs.Compile.Concatenation
import SwiftForms.Proofs.Compile.Division
import SwiftForms.Proofs.Compile.Layout
import SwiftForms.Proofs.Compiler.Cached
import SwiftForms.Proofs.Compiler.Sharing
import SwiftForms.Proofs.Console.Batch
import SwiftForms.Proofs.Console.Commands
import SwiftForms.Proofs.Console.Continuation
import SwiftForms.Proofs.Dict
import SwiftForms.Proofs.Engine.Footprint
import SwiftForms.Proofs.Expr.Outline
import SwiftForms.Proofs.Fallible
import SwiftForms.Proofs.Files
import SwiftForms.Proofs.Form.Concatenation
import SwiftForms.Proofs.Form.Continuation
import SwiftForms.Proofs.Form.Descent
import SwiftForms.Proofs.Form.Grammar
import SwiftForms.Proofs.Form.Head
import SwiftForms.Proofs.Form.Joining
import SwiftForms.Proofs.Form.Lookup
import SwiftForms.Proofs.Form.Nesting
import SwiftForms.Proofs.Form.Numeral
import SwiftForms.Proofs.Form.Positions
import SwiftForms.Proofs.Form.Relocation
import SwiftForms.Proofs.Form.RoundTrip
import SwiftForms.Proofs.Form.Search
import SwiftForms.Proofs.Form.Spans
import SwiftForms.Proofs.Form.Word
import SwiftForms.Proofs.Library.Building
import SwiftForms.Proofs.Library.Distinct
import SwiftForms.Proofs.Library.Fingerprint
import SwiftForms.Proofs.Resolve.Capture
import SwiftForms.Proofs.Resolve.Closed
import SwiftForms.Proofs.Resolve.Declarations
import SwiftForms.Proofs.Resolve.Derivation
import SwiftForms.Proofs.Resolve.Relocation
import SwiftForms.Proofs.Resolve.Shadowing
import SwiftForms.Proofs.Resolve.Spelling
import SwiftForms.Proofs.Resolve.Strings
import SwiftForms.Proofs.Resolve.Uses
import SwiftForms.Proofs.Resolve.Weakening
import SwiftForms.Proofs.Scope.Sound
import SwiftForms.Proofs.Session.Batch
import SwiftForms.Proofs.Session.Clash
import SwiftForms.Proofs.Session.Declarations
import SwiftForms.Proofs.Store.Contents
import SwiftForms.Proofs.Store.Ledger
import SwiftForms.Proofs.Swift.Blocks
import SwiftForms.Proofs.Swift.Delimiters
import SwiftForms.Proofs.Swift.Expression
import SwiftForms.Proofs.Swift.Grouping
import SwiftForms.Proofs.Swift.Literals
import SwiftForms.Proofs.Swift.Naming
import SwiftForms.Proofs.Swift.Placement
import SwiftForms.Proofs.Swift.Precedence
import SwiftForms.Proofs.Swift.Regrouping
import SwiftForms.Proofs.Swift.Returns
import SwiftForms.Proofs.Swift.Rows
import SwiftForms.Proofs.Swift.Texts
import SwiftForms.Proofs.Swift.Vectors
import SwiftForms.Proofs.Swift.Words
import SwiftForms.Proofs.Swift.Writing
import SwiftForms.Proofs.Text.Bytes
import SwiftForms.Proofs.Text.Lines
import SwiftForms.Proofs.Text.Order
import SwiftForms.Proofs.Text.Runs
import SwiftForms.Proofs.Workshop.Transparency
