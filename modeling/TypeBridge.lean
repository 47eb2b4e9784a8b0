import TypeBridge.Keyed
import TypeBridge.Path
import TypeBridge.Known
import TypeBridge.TypeRef
import TypeBridge.Decl
import TypeBridge.Registry
import TypeBridge.Diagnostic
import TypeBridge.Wrapped
import TypeBridge.Wrapped.Shape
import TypeBridge.Discovery.State
import TypeBridge.Discovery.Target
import TypeBridge.Discovery.Resolve
import TypeBridge.Text.Blank
import TypeBridge.Render.Config
import TypeBridge.Render.Rule
import TypeBridge.Render.TypeText
import TypeBridge.Render.Hooks
import TypeBridge.Render.Emit
import TypeBridge.Generator
import TypeBridge.Inspect
import TypeBridge.Text.Identifier
import TypeBridge.Text.Uppercase
import TypeBridge.Text.Case
import TypeBridge.Rust.Token
import TypeBridge.Rust.Lexer
import TypeBridge.Rust.Syntax
import TypeBridge.Rust.Parse.Basic
import TypeBridge.Rust.Parse.Types
import TypeBridge.Rust.Parse.Patterns
import TypeBridge.Rust.Parse.Exprs
import TypeBridge.Rust.Parse.Items
import TypeBridge.Rust.Parse
import TypeBridge.Source.Names
import TypeBridge.Source.Attrs
import TypeBridge.Source.Lower
import TypeBridge.Source.Extract
import TypeBridge.Source.Tree
import TypeBridge.Session
import TypeBridge.Proofs.Discovery.Steps
import TypeBridge.Proofs.Discovery.Scope
import TypeBridge.Proofs.Discovery.Drain
import TypeBridge.Proofs.Discovery.Snapshots
import TypeBridge.Proofs.Discovery.Closure
import TypeBridge.Proofs.Discovery.Resolved
import TypeBridge.Proofs.Render.FieldLine
import TypeBridge.Proofs.Render.NodeText
import TypeBridge.Proofs.Discovery.Order
import TypeBridge.Proofs.Discovery.Annotation
import TypeBridge.Proofs.Discovery.Diagnostics
import TypeBridge.Proofs.Source.Attach
import TypeBridge.Proofs.Source.ImplBlocks
import TypeBridge.Proofs.Render.Failures
import TypeBridge.Proofs.Render.References
import TypeBridge.Proofs.Source.Scopes
import TypeBridge.Proofs.Source.Resolution
import TypeBridge.Proofs.Source.Substitution
import TypeBridge.Proofs.Source.Aliases
import TypeBridge.Proofs.Wrapped.Build
import TypeBridge.Proofs.Discovery.Shapes
import TypeBridge.Proofs.Source.Declarations
import TypeBridge.Proofs.Source.FieldTypes
import TypeBridge.Proofs.Source.AliasDepth
import TypeBridge.Proofs.Text.Conventions
