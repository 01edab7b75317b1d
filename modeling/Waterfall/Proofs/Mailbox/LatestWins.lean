import Waterfall.Proofs.Config
import Waterfall.Proofs.Mailbox.Steps
import Waterfall.Proofs.SampleRing.Unrolled

/-! # When the latest window wins

Here capture and a worker that holds at most one window make their calls as a whole, in any order.
With at least three buffers one of them is always spare, so every offer is accepted and the worker
always takes the window that was offered last. Settings with two buffers are accepted as well. Then
an offer is refused while one window waits and the worker holds another, and the worker takes the
older window next.
-/

namespace Waterfall

variable {α : Type}

/-- A call of capture or of the worker. -/
inductive MailboxCall (α : Type)
  | offer (window : Window α)
  | take
  | recycle

/-- A mailbox with the worker at its other end. -/
structure Exchange (α : Type) where
  mailbox : Mailbox α
  /-- The window that the worker took and did not return yet. -/
  held : Option (List α) := none
  /-- The window that was offered last, whether it was accepted or not. -/
  newest : Option (List α) := none

namespace Exchange

/-- Nothing has been offered to the mailbox of a configuration yet. -/
def create (silence : α) (config : AnalysisConfig) : Exchange α where
  mailbox := Mailbox.create silence config.windowLength config.spareWindows

/-- Make one call. The worker takes no window before it has returned the last one. -/
def perform (exchange : Exchange α) : MailboxCall α → Except Breach (Exchange α)
  | .offer window => do
    let (_, mailbox) ← exchange.mailbox.offer window
    return { exchange with mailbox, newest := some window.samples }
  | .take =>
    match exchange.held with
    | some _ => return exchange
    | none =>
      let (window, mailbox) := exchange.mailbox.take
      return { exchange with mailbox, held := window }
  | .recycle =>
    match exchange.held with
    | some window => return { exchange with
        mailbox := exchange.mailbox.recycle window, held := none }
    | none => return exchange

/-- Make calls one after the other. -/
def replay (exchange : Exchange α) : List (MailboxCall α) → Except Breach (Exchange α)
  | [] => return exchange
  | call :: rest => do (← exchange.perform call).replay rest

/-- Whatever calls were made, the next offer is accepted and the next window that is taken is the
one that was offered last. -/
def LatestWins (windowLength : Nat) (exchange : Exchange α) : Prop :=
  ∀ calls : List (MailboxCall α),
    (∀ window, .offer window ∈ calls → window.length = windowLength) →
    ∃ after, exchange.replay calls = .ok after ∧
      (∀ window : Window α, window.length = windowLength →
        ∃ mailbox, after.mailbox.offer window = .ok (true, mailbox)) ∧
      (after.held = none → ∀ window, after.mailbox.take.1 = some window →
        after.newest = some window)

/-- The buffers of a mailbox and the one that the worker holds. -/
structure Stocked (windowLength total : Nat) (exchange : Exchange α) : Prop where
  room_eq : exchange.mailbox.room = total
  length_buffers : exchange.mailbox.spare.length + exchange.mailbox.latest.toList.length +
    exchange.held.toList.length = total
  fits_spare : ∀ buffer ∈ exchange.mailbox.spare, buffer.length = windowLength
  fits_latest : ∀ buffer ∈ exchange.mailbox.latest, buffer.length = windowLength
  fits_held : ∀ buffer ∈ exchange.held, buffer.length = windowLength

/-- The window in the slot is the one that was offered last. -/
def Current (exchange : Exchange α) : Prop :=
  ∀ window ∈ exchange.mailbox.latest, exchange.newest = some window

variable {windowLength total : Nat} {exchange : Exchange α}

theorem stocked_create (silence : α) {config : AnalysisConfig} (valid : config.Valid) :
    Stocked config.windowLength config.spareWindows (create silence config) where
  room_eq := Nat.max_eq_left (by have := valid.two_le_spareWindows; omega)
  length_buffers := by
    have enough := valid.two_le_spareWindows
    simp [create, Mailbox.create]
    omega
  fits_spare buffer member := by
    simp [create, Mailbox.create] at member
    simp [member]
  fits_latest := nofun
  fits_held := nofun

theorem current_create (silence : α) (config : AnalysisConfig) :
    Current (create silence config) := nofun

/-- The pool is empty only while the slot and the worker have all buffers. -/
theorem Stocked.spare_eq_nil_iff (stocked : Stocked windowLength total exchange)
    (enough : 2 ≤ total) : exchange.mailbox.spare = [] ↔
      total = 2 ∧ exchange.mailbox.latest.isSome ∧ exchange.held.isSome := by
  have length_buffers := stocked.length_buffers
  rw [← List.length_eq_zero_iff]
  cases latest : exchange.mailbox.latest <;> cases held : exchange.held <;>
    simp only [latest, held, Option.toList_none, Option.toList_some, List.length_nil,
      List.length_singleton, Option.isSome_none, Option.isSome_some, Bool.false_eq_true, and_true,
      and_false, iff_false] at length_buffers ⊢ <;> omega

/-- Without a spare buffer an offer is refused, and only a loss is counted. -/
theorem Stocked.offer_refused (stocked : Stocked windowLength total exchange)
    (window : Window α) (empty : exchange.mailbox.spare = []) :
    ∃ mailbox, exchange.mailbox.offer window = .ok (false, mailbox) ∧
      Stocked windowLength total { exchange with mailbox, newest := some window.samples } :=
  ⟨_, Mailbox.offer_of_empty window empty, stocked.room_eq, stocked.length_buffers,
    stocked.fits_spare, stocked.fits_latest, stocked.fits_held⟩

/-- With a spare buffer an offer is accepted, and its window is the next one to be taken. -/
theorem Stocked.offer_accepted (stocked : Stocked windowLength total exchange)
    {window : Window α} (fits : window.length = windowLength)
    (spare : exchange.mailbox.spare ≠ []) :
    ∃ mailbox, exchange.mailbox.offer window = .ok (true, mailbox) ∧
      mailbox.latest = some window.samples ∧
      Stocked windowLength total { exchange with mailbox, newest := some window.samples } := by
  obtain ⟨buffer, rest, spare_eq⟩ := List.exists_cons_of_ne_nil spare
  obtain ⟨room_eq, length_buffers, fits_spare, fits_latest, fits_held⟩ := stocked
  rw [spare_eq] at length_buffers fits_spare
  have room : rest.length < exchange.mailbox.room := by
    rw [List.length_cons] at length_buffers
    omega
  have accepted := Mailbox.offer_of_cons spare_eq
    (fits.trans (fits_spare buffer List.mem_cons_self).symm) room
  refine ⟨_, accepted, rfl, room_eq, ?_, ?_, ?_, fits_held⟩
  · simp at length_buffers ⊢
    omega
  · intro stored member
    obtain kept | replaced := List.mem_append.mp member
    · exact fits_spare stored (List.mem_cons_of_mem _ kept)
    · exact fits_latest stored (Option.mem_toList.mp replaced)
  · rintro _ ⟨⟩
    rw [Window.length_samples, fits]

/-- Taking a window moves its buffer into the worker's hands. -/
theorem Stocked.take (stocked : Stocked windowLength total exchange)
    (held : exchange.held = none) : Stocked windowLength total
      { exchange with mailbox := exchange.mailbox.take.2, held := exchange.mailbox.take.1 } := by
  obtain ⟨room_eq, length_buffers, fits_spare, fits_latest, _⟩ := stocked
  refine ⟨room_eq, ?_, fits_spare, nofun, fits_latest⟩
  rw [held] at length_buffers
  simpa [Mailbox.take] using length_buffers

/-- The buffer that the worker returns finds room in the pool. -/
theorem Stocked.recycle (stocked : Stocked windowLength total exchange) {window : List α}
    (held : exchange.held = some window) : Stocked windowLength total
      { exchange with mailbox := exchange.mailbox.recycle window, held := none } := by
  obtain ⟨room_eq, length_buffers, fits_spare, fits_latest, fits_held⟩ := stocked
  rw [held] at length_buffers fits_held
  have room : exchange.mailbox.spare.length < exchange.mailbox.room := by
    rw [Option.toList_some, List.length_singleton] at length_buffers
    omega
  have spare_eq := Mailbox.spare_recycle window room
  refine ⟨?_, ?_, ?_, ?_, nofun⟩
  · rw [Mailbox.room_recycle, room_eq]
  · simp [spare_eq] at length_buffers ⊢
    omega
  · intro stored member
    rw [spare_eq] at member
    obtain kept | returned := List.mem_append.mp member
    · exact fits_spare stored kept
    · rw [List.mem_singleton.mp returned]
      exact fits_held window rfl
  · rwa [Mailbox.latest_recycle]

/-- A call is no breach. With three buffers or more the slot stays up to date. -/
theorem Stocked.perform (stocked : Stocked windowLength total exchange) (enough : 2 ≤ total)
    (call : MailboxCall α) (fits : ∀ window, call = .offer window → window.length = windowLength) :
    ∃ after, exchange.perform call = .ok after ∧ Stocked windowLength total after ∧
      (3 ≤ total → Current exchange → Current after) := by
  cases call with
  | offer window =>
    by_cases empty : exchange.mailbox.spare = []
    · obtain ⟨mailbox, refused, stocked_after⟩ := stocked.offer_refused window empty
      refine ⟨_, by rw [Exchange.perform, refused]; rfl, stocked_after, ?_⟩
      intro many
      have few := ((stocked.spare_eq_nil_iff enough).mp empty).1
      omega
    · obtain ⟨mailbox, accepted, latest_eq, stocked_after⟩ :=
        stocked.offer_accepted (fits window rfl) empty
      refine ⟨_, by rw [Exchange.perform, accepted]; rfl, stocked_after, ?_⟩
      intro _ _ waiting member
      rw [← member, latest_eq]
  | take =>
    cases held : exchange.held with
    | some window =>
      refine ⟨exchange, ?_, stocked, fun _ current => current⟩
      rw [Exchange.perform, held]
      rfl
    | none =>
      refine ⟨_, ?_, stocked.take held, fun _ _ => nofun⟩
      rw [Exchange.perform, held]
      rfl
  | recycle =>
    cases held : exchange.held with
    | none =>
      refine ⟨exchange, ?_, stocked, fun _ current => current⟩
      rw [Exchange.perform, held]
      rfl
    | some window =>
      refine ⟨_, ?_, stocked.recycle held, ?_⟩
      · rw [Exchange.perform, held]
        rfl
      · intro _ current
        rwa [Current, Mailbox.latest_recycle]

theorem Stocked.replay (stocked : Stocked windowLength total exchange) (enough : 2 ≤ total)
    (calls : List (MailboxCall α))
    (fits : ∀ window, .offer window ∈ calls → window.length = windowLength) :
    ∃ after, exchange.replay calls = .ok after ∧ Stocked windowLength total after ∧
      (3 ≤ total → Current exchange → Current after) := by
  induction calls generalizing exchange with
  | nil => exact ⟨exchange, rfl, stocked, fun _ current => current⟩
  | cons call rest ih =>
    obtain ⟨next, performed, stocked, current_next⟩ := stocked.perform enough call (by
      rintro window rfl
      exact fits window List.mem_cons_self)
    obtain ⟨after, replayed, stocked, current_after⟩ := ih stocked (fun window member =>
      fits window (List.mem_cons_of_mem _ member))
    refine ⟨after, ?_, stocked, fun many current => current_after many (current_next many current)⟩
    rw [Exchange.replay, performed, ok_bind, replayed]

/-- With three buffers or more the latest window always wins. -/
theorem Stocked.latestWins (stocked : Stocked windowLength total exchange) (enough : 3 ≤ total)
    (current : Current exchange) : LatestWins windowLength exchange := by
  intro calls fits
  obtain ⟨after, replayed, stocked_after, current_after⟩ :=
    stocked.replay (by omega) calls fits
  refine ⟨after, replayed, ?_, fun _ => current_after enough current⟩
  intro window fits
  have spare : after.mailbox.spare ≠ [] := by
    intro empty
    have few := ((stocked_after.spare_eq_nil_iff (by omega)).mp empty).1
    omega
  obtain ⟨mailbox, accepted, _⟩ := stocked_after.offer_accepted fits spare
  exact ⟨mailbox, accepted⟩

/-- With two buffers the third of three offers is refused if the worker took the first window and
did not return it. -/
theorem not_latestWins_of_two (silence : α) {config : AnalysisConfig}
    (two : config.spareWindows = 2) :
    ¬LatestWins config.windowLength (create silence config) := by
  intro wins
  obtain ⟨window, fits⟩ : ∃ window : Window α, window.length = config.windowLength :=
    ⟨⟨List.replicate config.windowLength silence, []⟩, by simp [Window.length]⟩
  have replayed : (create silence config).replay [.offer window, .take, .offer window] =
      .ok ⟨⟨some window.samples, [], 2, 0⟩, some window.samples, some window.samples⟩ := by
    simp [replay, perform, create, Mailbox.create, two, List.replicate, Mailbox.offer,
      Mailbox.popSpare, Window.copyInto, fits, Mailbox.deposit, Mailbox.take, ok_bind]
  obtain ⟨after, same, accepts, _⟩ := wins [.offer window, .take, .offer window] (by simp [fits])
  cases replayed.symm.trans same
  obtain ⟨mailbox, accepted⟩ := accepts window fits
  rw [Mailbox.offer_of_empty window rfl] at accepted
  cases accepted

/-- Among the settings that are accepted the latest window wins exactly with those that have three
buffers or more. With two, an offer is refused exactly while one window waits in the slot and the
worker holds another. -/
theorem latestWins_iff_of_validate (silence : α) {config : AnalysisConfig}
    (accepted : config.validate = .ok ()) :
    (LatestWins config.windowLength (create silence config) ↔ 3 ≤ config.spareWindows) ∧
      ∀ calls : List (MailboxCall α),
        (∀ window, .offer window ∈ calls → window.length = config.windowLength) →
        ∃ after, (create silence config).replay calls = .ok after ∧
          ∀ window : Window α, window.length = config.windowLength →
            ∃ kept mailbox, after.mailbox.offer window = .ok (kept, mailbox) ∧
              (kept = false ↔ config.spareWindows = 2 ∧ after.mailbox.latest.isSome ∧
                after.held.isSome) := by
  have valid := (config.validate_eq_ok_iff).mp accepted
  have stocked := stocked_create silence valid
  have two_le := valid.two_le_spareWindows
  refine ⟨⟨?_, ?_⟩, ?_⟩
  · intro wins
    by_contra few
    exact not_latestWins_of_two silence (by omega) wins
  · intro enough
    exact stocked.latestWins enough (current_create silence config)
  · intro calls fits
    obtain ⟨after, replayed, stocked_after, _⟩ := stocked.replay two_le calls fits
    refine ⟨after, replayed, ?_⟩
    intro window fits
    rw [← stocked_after.spare_eq_nil_iff two_le]
    by_cases empty : after.mailbox.spare = []
    · obtain ⟨mailbox, refused, _⟩ := stocked_after.offer_refused window empty
      exact ⟨false, mailbox, refused, by simp [empty]⟩
    · obtain ⟨mailbox, accepted, _⟩ := stocked_after.offer_accepted fits empty
      exact ⟨true, mailbox, accepted, by simp [empty]⟩

/-- Two buffers are accepted, and then the third of these windows is refused and the second one,
which is older, is the next to be taken. -/
theorem older_window_taken :
    AnalysisConfig.validate { windowLength := 2, spareWindows := 2 } = .ok () ∧
      ¬LatestWins 2 (create 0 { windowLength := 2, spareWindows := 2 }) ∧
      ∃ after : Exchange Nat, (create 0 { windowLength := 2, spareWindows := 2 }).replay
          [.offer ⟨[1, 1], []⟩, .take, .offer ⟨[2, 2], []⟩, .offer ⟨[3, 3], []⟩, .recycle] =
            .ok after ∧
        after.mailbox.dropped = 1 ∧ after.newest = some [3, 3] ∧
        after.mailbox.take.1 = some [2, 2] := by
  have accepted : AnalysisConfig.validate { windowLength := 2, spareWindows := 2 } = .ok () := rfl
  refine ⟨accepted, ?_, _, rfl, rfl, rfl, rfl⟩
  rw [(latestWins_iff_of_validate 0 accepted).1]
  decide

end Exchange

end Waterfall
