import Playground.Text.Utf8
import Playground.Text.Lines
import Playground.Text.Scan
import Playground.Text.Digits
import Playground.Text.Decimal
import Playground.Limits
import Playground.Failure
import Playground.Console
import Playground.Wasm.Integer
import Playground.Wasm.Floating
import Playground.Wasm.Module
import Playground.Wasm.Bytes
import Playground.Wasm.Decode
import Playground.Wasm.Validate
import Playground.Wasm.Memory
import Playground.Wasm.Machine
import Playground.Sandbox.Run
import Playground.Describe
import Playground.Pipeline
import Playground.Config.Basic
import Playground.Config.Setting
import Playground.Config.Toml.Document
import Playground.Config.Parse
import Playground.Config.Load
import Playground.Compiler.External
import Playground.Shell.Script
import Playground.Shell.Pattern
import Playground.Shell.Grammar
import Playground.Shell.Arithmetic
import Playground.Shell.Print
import Playground.Shell.Condition
import Playground.Shell.Utility
import Playground.Shell.State
import Playground.Shell.Run
import Playground.Shell.Userland
import Playground.Initialize
import Playground.CommandLine.Command
import Playground.Main
import Playground.Proofs.Console.Events
import Playground.Proofs.Console.History
import Playground.Proofs.Pipeline.Script
import Playground.Proofs.Pipeline.Command
import Playground.Proofs.Pipeline.Held
import Playground.Proofs.Pipeline.Journal
import Playground.Proofs.Pipeline.Observers
import Playground.Proofs.Pipeline.Transcript
import Playground.Proofs.Pipeline.Phases
import Playground.Proofs.Pipeline.Artifacts
import Playground.Proofs.Pipeline.Failures
import Playground.Proofs.Pipeline.Deliveries
import Playground.Proofs.Pipeline.Transparency
import Playground.Proofs.Config.Names
import Playground.Proofs.Config.Expansion
import Playground.Proofs.Compiler.External
import Playground.Proofs.Compiler.Confinement
import Playground.Proofs.Compiler.Diagnostic
import Playground.Proofs.Sandbox.Course
import Playground.Proofs.Sandbox.Cut
import Playground.Proofs.Sandbox.Pieces
import Playground.Proofs.Sandbox.Refusal
import Playground.Proofs.Sandbox.Bounds
import Playground.Proofs.Sandbox.Pages
import Playground.Proofs.Sandbox.Causes
import Playground.Proofs.Console.Handles
import Playground.Proofs.Pipeline.Unbroken
import Playground.Proofs.CommandLine.Opened
import Playground.Proofs.CommandLine.Overrides
import Playground.Proofs.CommandLine.Session
import Playground.Proofs.Compiler.Payload
import Playground.Proofs.Config.Load
import Playground.Proofs.Pipeline.Misbehaviour
import Playground.Proofs.Files.Canonical
import Playground.Proofs.Compiler.Resolution
