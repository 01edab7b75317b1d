import Waterfall.Analysis.Mailbox
import Waterfall.Proofs.Outcome

/-! # The mailbox's calls

What an offer does depends on the pool alone: without a spare buffer it only counts a loss, and with
one it puts the window into the slot and returns the buffer that was there. A buffer that goes back
to a pool with room joins it at the end.
-/

namespace Waterfall

namespace Mailbox

variable {α : Type} {mailbox : Mailbox α} {window : Window α}

@[simp] theorem latest_recycle (mailbox : Mailbox α) (buffer : List α) :
    (mailbox.recycle buffer).latest = mailbox.latest := by
  rw [recycle]
  split <;> rfl

@[simp] theorem room_recycle (mailbox : Mailbox α) (buffer : List α) :
    (mailbox.recycle buffer).room = mailbox.room := by
  rw [recycle]
  split <;> rfl

@[simp] theorem dropped_recycle (mailbox : Mailbox α) (buffer : List α) :
    (mailbox.recycle buffer).dropped = mailbox.dropped := by
  rw [recycle]
  split <;> rfl

theorem spare_recycle (buffer : List α) (room : mailbox.spare.length < mailbox.room) :
    (mailbox.recycle buffer).spare = mailbox.spare ++ [buffer] := by
  rw [recycle, if_pos room]

theorem offer_of_empty (window : Window α) (empty : mailbox.spare = []) :
    mailbox.offer window = .ok (false, mailbox.countDrop) := by
  rw [offer, popSpare, empty]
  rfl

theorem offer_of_cons {buffer : List α} {rest : List (List α)}
    (spare_eq : mailbox.spare = buffer :: rest) (fits : window.length = buffer.length)
    (room : rest.length < mailbox.room) :
    mailbox.offer window = .ok (true, { mailbox with
      latest := some window.samples
      spare := rest ++ mailbox.latest.toList
      dropped := mailbox.dropped + mailbox.latest.toList.length }) := by
  have copied : window.copyInto buffer.length = .ok window.samples := if_pos fits
  obtain ⟨latest, spare, capacity, dropped⟩ := mailbox
  cases spare_eq
  rw [offer, popSpare]
  dsimp only
  rw [copied, ok_bind]
  cases latest with
  | none =>
    simp only [deposit, Option.toList_none, List.append_nil, List.length_nil, Nat.add_zero]
    rfl
  | some stale =>
    have returned : (Mailbox.mk (some window.samples) rest capacity (dropped + 1)).recycle stale =
        ⟨some window.samples, rest ++ [stale], capacity, dropped + 1⟩ := if_pos room
    exact congrArg (fun after => Except.ok (true, after)) returned

end Mailbox

end Waterfall
