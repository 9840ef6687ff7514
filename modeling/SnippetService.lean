import SnippetService.Data.Datum
import SnippetService.Data.Json
import SnippetService.Data.Wire
import SnippetService.Execution.Executor
import SnippetService.Execution.Failure
import SnippetService.Execution.Journal
import SnippetService.Execution.Moment
import SnippetService.Execution.Prepared
import SnippetService.Execution.RunResult
import SnippetService.Http.Application
import SnippetService.Http.Body
import SnippetService.Http.Host
import SnippetService.Http.Incoming
import SnippetService.Http.Reply
import SnippetService.Http.Route
import SnippetService.Numeric.Arithmetic
import SnippetService.Numeric.Binary
import SnippetService.Numeric.Layout
import SnippetService.Numeric.Rounded
import SnippetService.Numeric.Shortest
import SnippetService.Sandbox.Engine
import SnippetService.Sandbox.Prepared
import SnippetService.Sandbox.Provision
import SnippetService.Sandbox.Run
import SnippetService.Script.Context
import SnippetService.Script.Convert
import SnippetService.Script.Evaluate.Call
import SnippetService.Script.Evaluate.ClassDefinition
import SnippetService.Script.Evaluate.Expression
import SnippetService.Script.Evaluate.Frame
import SnippetService.Script.Evaluate.Pattern
import SnippetService.Script.Evaluate.Program
import SnippetService.Script.Evaluate.Statement
import SnippetService.Script.Fault
import SnippetService.Script.Iteration
import SnippetService.Script.Library.ArrayMethods
import SnippetService.Script.Library.CollectionMethods
import SnippetService.Script.Library.ErrorMethods
import SnippetService.Script.Library.FunctionMethods
import SnippetService.Script.Library.GlobalNames
import SnippetService.Script.Library.JsonMethods
import SnippetService.Script.Library.MathMethods
import SnippetService.Script.Library.ObjectMethods
import SnippetService.Script.Library.Plan
import SnippetService.Script.Library.PrimitiveMethods
import SnippetService.Script.Library.PromiseMethods
import SnippetService.Script.Library.ReflectMethods
import SnippetService.Script.Library.Standard
import SnippetService.Script.Library.StringMethods
import SnippetService.Script.Names
import SnippetService.Script.Operator
import SnippetService.Script.Property
import SnippetService.Script.ReadFault
import SnippetService.Script.Reading.Expression
import SnippetService.Script.Reading.Function
import SnippetService.Script.Reading.Pattern
import SnippetService.Script.Reading.Program
import SnippetService.Script.Reading.State
import SnippetService.Script.Reading.Statement
import SnippetService.Script.Run
import SnippetService.Script.Token
import SnippetService.Script.Tree
import SnippetService.Script.Value
import SnippetService.Service.Backend
import SnippetService.Service.Envelope
import SnippetService.Service.Family
import SnippetService.Service.Field
import SnippetService.Service.Issue
import SnippetService.Service.LooseNumber
import SnippetService.Service.Request
import SnippetService.Service.Settings
import SnippetService.Snippet.Context
import SnippetService.Snippet.Engine
import SnippetService.Snippet.Harness
import SnippetService.Snippet.Interpreter
import SnippetService.Snippet.Outcome
import SnippetService.Text.Base64
import SnippetService.Text.Blank
import SnippetService.Text.Casing
import SnippetService.Text.Decimal
import SnippetService.Text.Digits
import SnippetService.Text.Encoding
import SnippetService.Text.Letters
import SnippetService.Text.Point
import SnippetService.Text.Printable
import SnippetService.Text.Quoted
import SnippetService.Text.Ranges
import SnippetService.Text.Units
import SnippetService.Wasm.Argument
import SnippetService.Wasm.ByteReader
import SnippetService.Wasm.Engine
import SnippetService.Wasm.HostCall
import SnippetService.Wasm.Instance
import SnippetService.Wasm.Integer
import SnippetService.Wasm.Machine
import SnippetService.Wasm.Memory
import SnippetService.Wasm.Module
import SnippetService.Wasm.ModuleReader
import SnippetService.Wasm.Operator
import SnippetService.Wasm.OperatorReader
import SnippetService.Wasm.Program
import SnippetService.Wasm.Real
import SnippetService.Wasm.Rendering
import SnippetService.Wasm.Step
import SnippetService.Wasm.Submission
import SnippetService.Wasm.Trap
import SnippetService.Wasm.Types
import SnippetService.Wasm.Typing
import SnippetService.Wasm.Value
import SnippetService.Proofs.Execution.Attempt
import SnippetService.Proofs.Execution.Lifecycle
import SnippetService.Proofs.Sandbox.Accounting
import SnippetService.Proofs.Sandbox.Session
import SnippetService.Proofs.Data.Record
import SnippetService.Proofs.Snippet.Abort
import SnippetService.Proofs.Snippet.Evaluation
import SnippetService.Proofs.Execution.Answerable
import SnippetService.Proofs.Wasm.Conduct
import SnippetService.Proofs.Wasm.Engine
import SnippetService.Proofs.Http.Envelope
import SnippetService.Proofs.Http.Backends
import SnippetService.Proofs.Http.Dispatch
import SnippetService.Proofs.Execution.Factories
import SnippetService.Proofs.Http.Gate
import SnippetService.Proofs.Http.Report
import SnippetService.Proofs.Wasm.Exports
import SnippetService.Proofs.Wasm.Call
import SnippetService.Proofs.Wasm.Record
import SnippetService.Proofs.Execution.Answer
import SnippetService.Proofs.Execution.Agreement
import SnippetService.Proofs.Execution.Composed
import SnippetService.Proofs.Execution.Isolation
import SnippetService.Proofs.Execution.Job
import SnippetService.Proofs.Http.Emptiness
import SnippetService.Proofs.Wasm.Classification
import SnippetService.Proofs.Http.Isolation
import SnippetService.Proofs.Wasm.Working
import SnippetService.Proofs.Wasm.Deadline
import SnippetService.Proofs.Wasm.Interruption
import SnippetService.Proofs.Wasm.Legible
import SnippetService.Proofs.Execution.Release
import SnippetService.Proofs.Execution.Clock
import SnippetService.Proofs.Text.Casing
import SnippetService.Proofs.Service.Family
import SnippetService.Proofs.Http.Watched
import SnippetService.Proofs.Http.Routing
import SnippetService.Proofs.Snippet.Protocol
import SnippetService.Proofs.Sandbox.Contract
import SnippetService.Proofs.Service.Request
import SnippetService.Proofs.Text.Blank
import SnippetService.Proofs.Text.Digits
import SnippetService.Proofs.Service.Settings
import SnippetService.Proofs.Snippet.Output
import SnippetService.Proofs.Text.Base64
import SnippetService.Proofs.Wasm.Imports
import SnippetService.Proofs.Numeric.Nearest
import SnippetService.Proofs.Numeric.Double
import SnippetService.Proofs.Wasm.Arguments
import SnippetService.Proofs.Snippet.Channel
import SnippetService.Proofs.Sandbox.Serialize
import SnippetService.Proofs.Text.Units
import SnippetService.Proofs.Script.StringLiteral
import SnippetService.Proofs.Snippet.Harness
import SnippetService.Proofs.Snippet.Interpreter
import SnippetService.Proofs.Snippet.Outcome
import SnippetService.Proofs.Numeric.Shortest
import SnippetService.Proofs.Numeric.RoundTrip
import SnippetService.Proofs.Text.Decimal
import SnippetService.Proofs.Text.Point
import SnippetService.Proofs.Numeric.Layout
import SnippetService.Proofs.Wasm.Rendering
import SnippetService.Proofs.Execution.Discretion
import SnippetService.Proofs.Http.Discretion
