import CallGuard.Callable.Looks
import CallGuard.Guarded
import CallGuard.Log.Formatting
import CallGuard.Log.Setup
import CallGuard.Module.Require
import CallGuard.Proofs.Gate.Lines
import CallGuard.Proofs.Gate.Trace
import CallGuard.Schema.Errors
import CallGuard.Schema.Structures
import CallGuard.Proofs.Gate.Reports
import CallGuard.Proofs.Gate.Reporters
import CallGuard.Proofs.Facade.Charter
import CallGuard.Proofs.Facade.LookUp
import CallGuard.Proofs.Facade.Upheld
import CallGuard.Proofs.Facade.History
import CallGuard.Proofs.Facade.Dispatch
import CallGuard.Proofs.Facade.Gates
import CallGuard.Proofs.Gate.Guard
import CallGuard.Proofs.Module.Calls
import CallGuard.Proofs.Facade.Transparent
import CallGuard.Proofs.Gate.LateBinding
import CallGuard.Proofs.Reporter.Slot
import CallGuard.Proofs.Declaration.Grammar
import CallGuard.Proofs.Declaration.RoundTrip
import CallGuard.Proofs.Declaration.Spacing
import CallGuard.Proofs.Docstring.Cleaning
import CallGuard.Proofs.Docstring.Scanning
import CallGuard.Proofs.Module.Exports
import CallGuard.Proofs.Module.Preparation
import CallGuard.Proofs.Module.Documented
import CallGuard.Proofs.Config.History
import CallGuard.Proofs.Registry.Numeric
import CallGuard.Proofs.Value.Writing
import CallGuard.Proofs.Session.Twins
import CallGuard.Proofs.Facade.Logging
import CallGuard.Proofs.Facade.Guarded
import CallGuard.Proofs.Facade.SideBySide
import CallGuard.Proofs.Number.Numeral
import CallGuard.Proofs.Registry.NumericText
import CallGuard.Proofs.Gate.WholeNumbers
import CallGuard.Proofs.Value.Nested
import CallGuard.Proofs.Parameter.Projection
import CallGuard.Proofs.Gate.Conservation
import CallGuard.Proofs.Registry.History
import CallGuard.Proofs.Module.Loading
import CallGuard.Proofs.Facade.Guarding
import CallGuard.Proofs.Files.Places
import CallGuard.Proofs.Files.Spelling
import CallGuard.Proofs.Module.History
import CallGuard.Proofs.Module.Resolving
import CallGuard.Proofs.Module.Sharing
import CallGuard.Proofs.Log.Handlers
import CallGuard.Proofs.Log.Document
import CallGuard.Proofs.Log.Escapes
import CallGuard.Proofs.Log.Reading
import CallGuard.Proofs.Log.Data
import CallGuard.Proofs.Log.Messages
import CallGuard.Proofs.Log.Lines
