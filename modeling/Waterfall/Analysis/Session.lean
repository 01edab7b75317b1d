import Waterfall.Analysis.Mailbox
import Waterfall.Analysis.Pipeline

/-! # Capture and analysis taken together

A session joins the sample ring, the mailbox, the pipeline and the board, and makes the steps of the
capture side and of the worker in a fixed order. An eager session consumes the mailbox after every
offer, a lazy one only after a whole block.
-/

namespace Waterfall

/-- Everything between the captured samples and the history. -/
structure Session where
  ring : SampleRing Float32
  mailbox : Mailbox Float32
  pipeline : Pipeline
  board : Board
  /-- The windows that the mailbox accepted. -/
  accepted : Nat := 0
  /-- The windows that became rows. -/
  published : Nat := 0

namespace Session

/-- A fresh session with the given settings. -/
def create (config : AnalysisConfig) (scale : Scale) : Except Breach Session := do
  return {
    board := ← Board.create config.layout scale
    ring := ← SampleRing.allocate 0 config.windowLength config.overlap
    mailbox := ← Mailbox.allocate 0 config.windowLength config.spareWindows
    pipeline := ← Pipeline.ofConfig config }

/-- The worker's part: process the latest window, if there is one, and return its buffer. -/
def consume (session : Session) : Except Breach Session := do
  match session.mailbox.take with
  | (none, _) => return session
  | (some window, mailbox) =>
    let (pipeline, publication) ← session.pipeline.process window session.board
    let session := { session with pipeline, mailbox := mailbox.recycle window }
    match publication with
    | .appended board => return { session with board, published := session.published + 1 }
    | .rejected _ => return session

/-- Offer a window to the mailbox. -/
def offer (session : Session) (window : Window Float32) : Except Breach Session := do
  let (accepted, mailbox) ← session.mailbox.offer window
  let count := if accepted then 1 else 0
  return { session with mailbox, accepted := session.accepted + count }

/-- Offer windows one after the other; an eager session consumes each of them at once. -/
def offerAll (eager : Bool) (session : Session) : List (Window Float32) → Except Breach Session
  | [] => return session
  | window :: rest => do
    let session ← session.offer window
    offerAll eager (← if eager then session.consume else pure session) rest

/-- Feed a block of samples and then consume the mailbox once. -/
def feed (eager : Bool) (session : Session) (block : List Float32) : Except Breach Session := do
  let (windows, ring) := session.ring.feed block
  let session ← offerAll eager { session with ring } windows
  session.consume

end Session

end Waterfall
