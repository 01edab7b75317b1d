import Waterfall.Proofs.Mailbox.Steps
import Waterfall.Proofs.SampleRing.Unrolled

/-! # Offers that fit

A mailbox whose buffers are as long as the windows accepts or refuses every window, and neither is a
breach. Its buffers stay so whatever is offered.
-/

namespace Waterfall

namespace Mailbox

variable {α : Type} {windowLength : Nat} {mailbox : Mailbox α}

/-- Every buffer is as long as a window. -/
structure Sized (windowLength : Nat) (mailbox : Mailbox α) : Prop where
  spare : ∀ buffer ∈ mailbox.spare, buffer.length = windowLength
  latest : ∀ buffer ∈ mailbox.latest, buffer.length = windowLength

/-- An allocation that succeeds gives the full pool. -/
theorem eq_create_of_allocate {silence : α} {spareWindows : Nat}
    (allocated : allocate silence windowLength spareWindows = .ok mailbox) :
    mailbox = create silence windowLength spareWindows := by
  obtain ⟨_, _, allocated⟩ := bind_eq_ok.mp allocated
  obtain ⟨_, _, allocated⟩ := bind_eq_ok.mp allocated
  obtain ⟨_, _, allocated⟩ := bind_eq_ok.mp allocated
  cases allocated
  rfl

theorem room_create_pos (silence : α) (windowLength spareWindows : Nat) :
    0 < (create silence windowLength spareWindows).room :=
  Nat.lt_of_lt_of_le Nat.zero_lt_one (Nat.le_max_right _ _)

/-- The places and every buffer are part of the pool, so the pool is what has to be granted. -/
theorem allocate_of_poolBytes_lt (silence : α) {spareWindows : Nat}
    (granted : poolBytes windowLength spareWindows < Word.addressLimit) :
    allocate silence windowLength spareWindows =
      .ok (create silence windowLength spareWindows) := by
  have address_le : Word.addressLimit ≤ Word.storageLimit := by decide
  have room_pos : 0 < max spareWindows 1 := room_create_pos silence windowLength spareWindows
  have places_le : max spareWindows 1 * placeBytes ≤ poolBytes windowLength spareWindows :=
    Nat.le_add_right _ _
  have buffer_le : windowLength * Word.sampleBytes ≤ poolBytes windowLength spareWindows :=
    (Nat.le_mul_of_pos_left _ room_pos).trans (Nat.le_add_left _ _)
  rw [allocate, Word.reserve, if_pos (by omega), ok_bind, Word.reserve, if_pos (by omega), ok_bind,
    Word.grant, if_pos granted, ok_bind]
  rfl

theorem Sized.recycle (sized : mailbox.Sized windowLength) {buffer : List α}
    (fits : buffer.length = windowLength) : (mailbox.recycle buffer).Sized windowLength := by
  rw [Mailbox.recycle]
  split
  · refine ⟨?_, sized.latest⟩
    intro other member
    rcases List.mem_append.mp member with old | new
    · exact sized.spare other old
    · rw [List.mem_singleton.mp new, fits]
  · exact sized

/-- A window that fits the buffers is accepted or refused, which is no breach. -/
theorem Sized.offer (sized : mailbox.Sized windowLength) {window : Window α}
    (fits : window.length = windowLength) :
    ∃ accepted after, mailbox.offer window = .ok (accepted, after) ∧ after.Sized windowLength := by
  cases spare : mailbox.spare with
  | nil => exact ⟨false, _, offer_of_empty window spare, sized.spare, sized.latest⟩
  | cons buffer rest =>
    obtain ⟨buffer_fits, rest_fit⟩ := List.forall_mem_cons.mp (spare ▸ sized.spare)
    have copied : window.copyInto buffer.length = .ok window.samples :=
      if_pos (fits.trans buffer_fits.symm)
    have filled : window.samples.length = windowLength := by rw [Window.length_samples, fits]
    have holding : ∀ other ∈ some window.samples, other.length = windowLength := by
      rintro _ ⟨⟩
      exact filled
    rw [Mailbox.offer, popSpare, spare]
    dsimp only
    rw [copied, ok_bind]
    cases latest : mailbox.latest with
    | none => exact ⟨true, _, rfl, rest_fit, holding⟩
    | some stale =>
      refine ⟨true, _, rfl, ?_⟩
      apply Sized.recycle
      · exact ⟨rest_fit, holding⟩
      · exact sized.latest stale latest

theorem Sized.offerAll (sized : mailbox.Sized windowLength) {windows : List (Window α)}
    (fit : ∀ window ∈ windows, window.length = windowLength) :
    ∃ verdicts after, mailbox.offerAll windows = .ok (verdicts, after) ∧
      after.Sized windowLength := by
  induction windows generalizing mailbox with
  | nil => exact ⟨[], mailbox, rfl, sized⟩
  | cons window rest ih =>
    obtain ⟨window_fits, rest_fit⟩ := List.forall_mem_cons.mp fit
    obtain ⟨accepted, next, offered, next_sized⟩ := sized.offer window_fits
    obtain ⟨verdicts, after, others, after_sized⟩ := ih next_sized rest_fit
    refine ⟨accepted :: verdicts, after, ?_, after_sized⟩
    rw [Mailbox.offerAll, offered, ok_bind]
    dsimp only
    rw [others]
    rfl

/-- Windows may be offered in two portions. -/
theorem offerAll_append {first second : List (Window α)} {verdicts : List Bool} {next : Mailbox α}
    (offered : mailbox.offerAll first = .ok (verdicts, next)) :
    mailbox.offerAll (first ++ second) = do
      let (others, after) ← next.offerAll second
      return (verdicts ++ others, after) := by
  induction first generalizing mailbox verdicts with
  | nil =>
    cases offered
    rw [List.nil_append]
    cases next.offerAll second <;> rfl
  | cons window rest ih =>
    rw [Mailbox.offerAll] at offered
    obtain ⟨⟨accepted, middle⟩, ran, offered⟩ := bind_eq_ok.mp offered
    obtain ⟨⟨others, last⟩, ran_rest, offered⟩ := bind_eq_ok.mp offered
    cases offered
    rw [List.cons_append, Mailbox.offerAll, ran, ok_bind]
    dsimp only
    rw [ih ran_rest]
    cases next.offerAll second <;> rfl

end Mailbox

end Waterfall
