/-! # Presentation modes

How finished images reach the display. The loop prefers modes that never tear.
-/

namespace Waterfall

/-- How finished images reach the display. -/
inductive PresentMode
  /-- Images wait in a queue for the next refresh. -/
  | fifo
  /-- As `fifo`, but a late image is shown at once. -/
  | fifoRelaxed
  /-- The newest image is shown at the next refresh. -/
  | mailbox
  /-- Every image is shown at once. -/
  | immediate
  /-- Any mode that waits for the refresh. -/
  | autoVsync
  /-- Any mode that does not wait. -/
  | autoNoVsync
deriving DecidableEq, Repr, Inhabited

namespace PresentMode

/-- Every mode. -/
def all : List PresentMode := [fifo, fifoRelaxed, mailbox, immediate, autoVsync, autoNoVsync]

/-- The name of a mode. -/
def name : PresentMode → String
  | fifo => "Fifo"
  | fifoRelaxed => "FifoRelaxed"
  | mailbox => "Mailbox"
  | immediate => "Immediate"
  | autoVsync => "AutoVsync"
  | autoNoVsync => "AutoNoVsync"

/-- The modes to look for, best first. -/
def preferred : List PresentMode := [fifo, mailbox, immediate]

/-- The best preferred mode that is available, or else the first available one. -/
def choose (available : List PresentMode) : PresentMode :=
  match preferred.find? available.contains with
  | some mode => mode
  | none => available.head?.getD fifo

end PresentMode

end Waterfall
