import ZoneKeeper.Controller
import ZoneKeeper.Json.Printer
import ZoneKeeper.Main
import ZoneKeeper.Metrics.Endpoint
import ZoneKeeper.Proofs.Controller.Barrier
import ZoneKeeper.Proofs.Controller.Draining
import ZoneKeeper.Proofs.Dispatcher.Account
import ZoneKeeper.Proofs.Dispatcher.Disposal
import ZoneKeeper.Proofs.Dispatcher.Failures
import ZoneKeeper.Proofs.Dispatcher.HandOver
import ZoneKeeper.Proofs.Dispatcher.Heirs
import ZoneKeeper.Proofs.Dispatcher.Isolation
import ZoneKeeper.Proofs.Dispatcher.Ownership
import ZoneKeeper.Proofs.Dispatcher.Retries
import ZoneKeeper.Proofs.Dispatcher.Separation
import ZoneKeeper.Proofs.Dispatcher.Stranding
import ZoneKeeper.Proofs.Handler.Confinement
import ZoneKeeper.Proofs.Handler.LastWriter
import ZoneKeeper.Proofs.Handler.Replacement
import ZoneKeeper.Proofs.Key.Grammar
import ZoneKeeper.Proofs.Pipeline.Convergence
import ZoneKeeper.Proofs.Pipeline.ReleasedNames
import ZoneKeeper.Proofs.Pipeline.Relisting
import ZoneKeeper.Proofs.Queue.Shutdown
import ZoneKeeper.Proofs.Queue.Spelling
import ZoneKeeper.Proofs.Selector.Algebra
import ZoneKeeper.Proofs.Store.Agreement
import ZoneKeeper.Proofs.Template.Verbatim
import ZoneKeeper.Proofs.Watch.Mirroring
import ZoneKeeper.Queue.Consumers
import ZoneKeeper.Text.Utf8
import ZoneKeeper.Watch.Run
import ZoneKeeper.World
