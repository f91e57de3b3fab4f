import Bindery.Json.Basic
import Bindery.Json.Reader
import Bindery.Json.Writer
import Bindery.Decimal.Layout
import Bindery.Text.Case
import Bindery.Text.Quoted
import Bindery.Fault
import Bindery.Value.Basic
import Bindery.World
import Bindery.Value.Encode
import Bindery.Directive.Name
import Bindery.Value.Decode
import Bindery.Layering
import Bindery.Protocol.Answer
import Bindery.Protocol.Names
import Bindery.Markup.Node
import Bindery.Markup.Html
import Bindery.Markup.Render
import Bindery.Markup.Forest
import Bindery.Protocol.Markup
import Bindery.Protocol.Request
import Bindery.Host.Call
import Bindery.Host.Fixture
import Bindery.Injector.Container
import Bindery.Decimal.Read
import Bindery.Directive.Compiler
import Bindery.Expression.Program
import Bindery.Expression.Translate
import Bindery.Scope.Digest
import Bindery.Expr.Diagnostic
import Bindery.Expr.Lex
import Bindery.Expr.Parse
import Bindery.Expr.Runtime
import Bindery.Expr.Check
import Bindery.Expr.Eval
import Bindery.Cel.Lex
import Bindery.Cel.Diagnostic
import Bindery.Cel.Parse
import Bindery.Cel.Check
import Bindery.Cel.Eval
import Bindery.Yaml.Node
import Bindery.Yaml.Parse
import Bindery.Main
import Bindery.Proofs.Run.Keeps
import Bindery.Proofs.Run.Avoids
import Bindery.Proofs.Injector.Bookkeeping
import Bindery.Proofs.Injector.Operations
import Bindery.Proofs.Injector.Resolution
import Bindery.Proofs.Injector.Reference
import Bindery.Proofs.Scope.Phase
import Bindery.Proofs.Scope.Round
import Bindery.Proofs.Directive.Walk
import Bindery.Proofs.Directive.Collect
import Bindery.Proofs.Injector.Registration
import Bindery.Proofs.Injector.Loading
import Bindery.Proofs.Scope.Deferral
import Bindery.Proofs.Scope.Structure
import Bindery.Proofs.Scope.Limit
import Bindery.Proofs.Scope.Recording
import Bindery.Proofs.Injector.Decoration
import Bindery.Proofs.Scope.Removal
import Bindery.Proofs.Scope.Listening
import Bindery.Proofs.Scope.Telling
import Bindery.Proofs.Directive.Group
import Bindery.Proofs.Scope.Lookup
import Bindery.Proofs.Injector.Invocation
import Bindery.Proofs.Directive.Registry
import Bindery.Proofs.Record.Decode
import Bindery.Proofs.Directive.Service
import Bindery.Proofs.Text.Case
import Bindery.Proofs.Expression.Helpers
import Bindery.Proofs.Scope.Loop
import Bindery.Proofs.Layering.Clone
import Bindery.Proofs.Expression.Cache
import Bindery.Proofs.Directive.Name
import Bindery.Proofs.Record.Hydrate
