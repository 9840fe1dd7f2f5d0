import AppMend.Agent.Address
import AppMend.Agent.Completion
import AppMend.Agent.Config
import AppMend.Agent.Exchange
import AppMend.Bundle.Basic
import AppMend.Bundle.Body
import AppMend.Bundle.Bundler
import AppMend.Bundle.Compile
import AppMend.Bundle.Discovery
import AppMend.Bundle.Failure
import AppMend.Bundle.Registry
import AppMend.Bundle.Resolution
import AppMend.Check.Analyzer
import AppMend.Check.Conventions
import AppMend.Check.Markup
import AppMend.Check.Quotes
import AppMend.Check.Scanners
import AppMend.Check.Strings
import AppMend.Check.Structure
import AppMend.Check.Tags
import AppMend.Command.Arguments
import AppMend.Command.Run
import AppMend.Config
import AppMend.Config.Document
import AppMend.Config.Environment
import AppMend.Diagnosis
import AppMend.File
import AppMend.FileSet
import AppMend.Finding
import AppMend.Grammar.Chart
import AppMend.Grammar.Machine
import AppMend.Grammar.Rule
import AppMend.Heal.Call
import AppMend.Heal.Event
import AppMend.Heal.Session
import AppMend.Heal.Request
import AppMend.Heal.Schedule
import AppMend.Heal.State
import AppMend.Json.Printer
import AppMend.Json.Reader
import AppMend.Json.Value
import AppMend.Load.Document
import AppMend.Load.Glob
import AppMend.Load.Ignore
import AppMend.Load.Project
import AppMend.Load.Tree
import AppMend.Main
import AppMend.Number.Arithmetic
import AppMend.Number.Binary
import AppMend.Number.Written
import AppMend.Outline.Basic
import AppMend.Outline.Category
import AppMend.Outline.Faulty
import AppMend.Outline.Reader
import AppMend.Outline.Rules
import AppMend.Outline.Rules.Declarations
import AppMend.Outline.Rules.Expressions
import AppMend.Outline.Rules.Statements
import AppMend.Outline.Scanner
import AppMend.Outline.Track
import AppMend.Pass
import AppMend.Path
import AppMend.Preview.Config
import AppMend.Preview.Harness
import AppMend.Preview.Inspection
import AppMend.Preview.Page
import AppMend.Preview.Schedule
import AppMend.Preview.Service
import AppMend.Preview.Verdict
import AppMend.Rules
import AppMend.Script.Binding
import AppMend.Script.Comment
import AppMend.Script.Constant
import AppMend.Script.Entity
import AppMend.Script.Grammar
import AppMend.Script.Literal
import AppMend.Script.Module
import AppMend.Script.Operator
import AppMend.Script.Output
import AppMend.Script.Plain.Basic
import AppMend.Script.Plain.Enumeration
import AppMend.Script.Plain.Markup
import AppMend.Script.Plain.Namespace
import AppMend.Script.Plain.Statement
import AppMend.Script.Printer
import AppMend.Script.Reader.Arrows
import AppMend.Script.Reader.Basic
import AppMend.Script.Reader.Classes
import AppMend.Script.Reader.Declarations
import AppMend.Script.Reader.Expressions
import AppMend.Script.Reader.Functions
import AppMend.Script.Reader.Keys
import AppMend.Script.Reader.Markup
import AppMend.Script.Reader.Modules
import AppMend.Script.Reader.Patterns
import AppMend.Script.Reader.Statements
import AppMend.Script.Reader.Types
import AppMend.Script.Syntax
import AppMend.Script.Token
import AppMend.Table
import AppMend.Text.Edit
import AppMend.Text.Letter
import AppMend.Text.Lines
import AppMend.Text.Pattern
import AppMend.Text.Property
import AppMend.Text.Quoted
import AppMend.Text.Search
import AppMend.Toml.Reader
import AppMend.Toml.Scalar
import AppMend.Toml.Value
import AppMend.Proofs.Heal.History
import AppMend.Proofs.Heal.Run
import AppMend.Proofs.Pass.Result
import AppMend.Proofs.Preview.Slot
import AppMend.Proofs.Heal.Schedule
import AppMend.Proofs.Heal.Batch
import AppMend.Proofs.Heal.Verdict
import AppMend.Proofs.Check.Quotes
import AppMend.Proofs.Check.Revalidation
import AppMend.Proofs.Bundle.Body
import AppMend.Proofs.Bundle.Closure
import AppMend.Proofs.Bundle.Strategies
import AppMend.Proofs.Pass.Gates
import AppMend.Proofs.Pass.Modes
import AppMend.Proofs.Pass.Origins
import AppMend.Proofs.Diagnosis.Parts
import AppMend.Proofs.Heal.Diary
import AppMend.Proofs.Heal.Journal
import AppMend.Proofs.Heal.Events
import AppMend.Proofs.FileSet.Lookup
import AppMend.Proofs.Heal.Files
import AppMend.Proofs.Heal.Requests
import AppMend.Proofs.Heal.Course
import AppMend.Proofs.Heal.Independence
import AppMend.Proofs.Heal.Interleaving
import AppMend.Proofs.Heal.Leases
import AppMend.Proofs.Preview.Books
import AppMend.Proofs.Preview.Cleanup
import AppMend.Proofs.Preview.Histories
import AppMend.Proofs.Preview.Interleaving
import AppMend.Proofs.Preview.OneBrowser
import AppMend.Proofs.Preview.Promise
import AppMend.Proofs.Path
import AppMend.Proofs.FileSet.Construction
import AppMend.Proofs.Check.Repair
import AppMend.Proofs.Pass.Repairs
import AppMend.Proofs.Text.Completeness
import AppMend.Proofs.Check.Literals
import AppMend.Proofs.Check.Tags
import AppMend.Proofs.Check.Unclosed
import AppMend.Proofs.Check.Markup
import AppMend.Proofs.Check.Nesting
import AppMend.Proofs.Check.Lexer
import AppMend.Proofs.Bundle.Routes
import AppMend.Proofs.Bundle.Aliases
import AppMend.Proofs.Bundle.Imports
import AppMend.Proofs.Bundle.Host
import AppMend.Proofs.Bundle.Packages
import AppMend.Proofs.Bundle.Values
import AppMend.Proofs.Diagnosis.Order
import AppMend.Proofs.Text.Shapes
import AppMend.Proofs.Outline.Faults
import AppMend.Proofs.Diagnosis.Implicated
import AppMend.Proofs.Check.Imports
import AppMend.Proofs.Check.Controls
import AppMend.Proofs.Check.TagPatterns
import AppMend.Proofs.Check.Attributes
import AppMend.Proofs.Preview.Hosts
import AppMend.Proofs.Preview.Verdicts
import AppMend.Proofs.Pass.Rendering
import AppMend.Proofs.Preview.Confinement
import AppMend.Proofs.Agent.Accepted
import AppMend.Proofs.Config.Environment
import AppMend.Proofs.FileSet.Documents
import AppMend.Proofs.Review
import AppMend.Proofs.Text.Edits
import AppMend.Proofs.Text.Words
