import Waterfall.Analysis.SampleRing

/-! # The handoff of windows

Capture hands windows to the analysis worker through a single slot that holds the latest one. The
window buffers circulate: an offer fills a spare buffer and puts it into the slot, the worker takes
the buffer out and returns it to the pool. A window that finds no spare buffer, or that is replaced
before it was taken, is counted as dropped.

Each of `popSpare`, `deposit`, `countDrop`, `recycle` and `take` is one indivisible step of the
shared mailbox; `offer` is the sequence of steps that the capture side makes.
-/

namespace Waterfall

variable {α : Type}

/-- The latest window, the pool of spare buffers and the number of windows lost. -/
structure Mailbox (α : Type) where
  latest : Option (List α)
  spare : List (List α)
  /-- The number of buffers the pool has room for. -/
  room : Nat
  dropped : Nat

namespace Mailbox

/-- An empty slot and a full pool of `spareWindows` buffers, but at least one. -/
def create (silence : α) (windowLength spareWindows : Nat) : Mailbox α where
  latest := none
  spare := List.replicate (max spareWindows 1) (List.replicate windowLength silence)
  room := max spareWindows 1
  dropped := 0

/-- The bytes of one place in the pool. -/
def placeBytes : Nat := 32

/-- The bytes of a pool with all its buffers. -/
def poolBytes (windowLength spareWindows : Nat) : Nat :=
  max spareWindows 1 * placeBytes + max spareWindows 1 * (windowLength * Word.sampleBytes)

/-- An empty slot and a full pool, provided that the places of the pool can be stored, that each of
its buffers can, and that the system has the memory for all of them together. -/
def allocate (silence : α) (windowLength spareWindows : Nat) : Except Breach (Mailbox α) := do
  Word.reserve (max spareWindows 1) placeBytes
  Word.reserve windowLength Word.sampleBytes
  Word.grant (poolBytes windowLength spareWindows)
  return create silence windowLength spareWindows

/-- Take a buffer out of the pool. -/
def popSpare (mailbox : Mailbox α) : Option (List α) × Mailbox α :=
  match mailbox.spare with
  | [] => (none, mailbox)
  | buffer :: rest => (some buffer, { mailbox with spare := rest })

/-- Put a buffer into the slot, and return the one it replaces. -/
def deposit (mailbox : Mailbox α) (buffer : List α) : Option (List α) × Mailbox α :=
  (mailbox.latest, { mailbox with latest := some buffer })

/-- Count one lost window. -/
def countDrop (mailbox : Mailbox α) : Mailbox α :=
  { mailbox with dropped := mailbox.dropped + 1 }

/-- Return a buffer to the pool; a pool without room for it lets it go. -/
def recycle (mailbox : Mailbox α) (buffer : List α) : Mailbox α :=
  if mailbox.spare.length < mailbox.room then
    { mailbox with spare := mailbox.spare ++ [buffer] }
  else mailbox

/-- Take the latest window out of the slot. -/
def take (mailbox : Mailbox α) : Option (List α) × Mailbox α :=
  (mailbox.latest, { mailbox with latest := none })

/-- Hand over a window, replacing one that was not taken; without a spare buffer it is refused. -/
def offer (mailbox : Mailbox α) (window : Window α) : Except Breach (Bool × Mailbox α) := do
  match mailbox.popSpare with
  | (none, mailbox) => return (false, mailbox.countDrop)
  | (some buffer, mailbox) =>
    let filled ← window.copyInto buffer.length
    match mailbox.deposit filled with
    | (none, mailbox) => return (true, mailbox)
    | (some stale, mailbox) => return (true, mailbox.countDrop.recycle stale)

/-- Hand over windows one after the other, and return which of them were accepted. -/
def offerAll (mailbox : Mailbox α) : List (Window α) → Except Breach (List Bool × Mailbox α)
  | [] => return ([], mailbox)
  | window :: rest => do
    let (accepted, mailbox) ← mailbox.offer window
    let (others, mailbox) ← offerAll mailbox rest
    return (accepted :: others, mailbox)

end Mailbox

end Waterfall
