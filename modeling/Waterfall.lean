import Waterfall.Main
import Waterfall.Analysis.Session
import Waterfall.Analysis.Worker
import Waterfall.Capture.Callback
import Waterfall.Capture.Opening
import Waterfall.Device.CompletionFlag
import Waterfall.Device.PresentMode
import Waterfall.Digest
import Waterfall.Frame.Rehearsal
import Waterfall.Proofs.SampleRing.Stream
import Waterfall.Proofs.SampleRing.Guarded
import Waterfall.Proofs.SampleRing.Windows
import Waterfall.Proofs.Outcome
import Waterfall.Proofs.Pipeline
import Waterfall.Proofs.Mailbox.Handoff
import Waterfall.Proofs.Mailbox.Conservation
import Waterfall.Proofs.Config
import Waterfall.Proofs.Mailbox.LatestWins
import Waterfall.Proofs.Mailbox.Offers
import Waterfall.Proofs.Capture.Averages
import Waterfall.Proofs.History.Replay
import Waterfall.Proofs.Operation
import Waterfall.Proofs.Surface.Build
import Waterfall.Proofs.Surface.Rebuild
import Waterfall.Proofs.Frame.Draw
import Waterfall.Proofs.Frame.Turn
import Waterfall.Proofs.Frame.Calls
import Waterfall.Proofs.Frame.Replay
import Waterfall.Proofs.Frame.Agreement
import Waterfall.Proofs.Frame.Record
import Waterfall.Proofs.Frame.Safety
import Waterfall.Proofs.Frame.Guards
import Waterfall.Proofs.Frame.Cadence
import Waterfall.Proofs.Frame.Convergence
import Waterfall.Proofs.Device.Lifetimes
import Waterfall.Proofs.Device.Quiet
import Waterfall.Proofs.Frame.Lifetimes
import Waterfall.Proofs.Board.Interleaving
import Waterfall.Proofs.Mesh.Indices
import Waterfall.Proofs.Mesh.Primitives
import Waterfall.Proofs.Mesh.Buffers
import Waterfall.Proofs.Mesh.Disk
import Waterfall.Proofs.Frame.Coherence
import Waterfall.Proofs.Frame.Coalescing
import Waterfall.Proofs.Frame.Retries
import Waterfall.Proofs.Frame.Running
import Waterfall.Proofs.Frame.InFlight
import Waterfall.Proofs.Row
import Waterfall.Proofs.Session
import Waterfall.Proofs.Capture.Blocks
import Waterfall.Proofs.Mesh.Winding
import Waterfall.Proofs.Mesh.Sheets
import Waterfall.Proofs.Binary.Rounding
import Waterfall.Proofs.Mesh.Numbering
import Waterfall.Proofs.Binary.Single
import Waterfall.Proofs.Binary.Nearest
import Waterfall.Proofs.Overlap
