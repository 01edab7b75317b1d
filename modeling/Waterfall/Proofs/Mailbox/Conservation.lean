import Waterfall.Proofs.Mailbox.Handoff
import Waterfall.Proofs.Mailbox.Steps
import Waterfall.Proofs.Pipeline
import Waterfall.Proofs.SampleRing.Unrolled

/-! # Nothing is lost or duplicated silently

However the steps of capture and the worker alternate, every buffer stays in the pool, in the slot
or in the hands of one side, and every window that was offered was taken, is waiting in the slot or
was counted as dropped. The windows on their way are counted too, so the balance holds after every
step and not only between two offers. A buffer that comes back to the pool always finds room there.
-/

namespace Waterfall

namespace Handoff

/-- The buffers are all there, unless the worker's thread broke down with one, and fit a window. -/
structure Stocked (windowLength total : Nat) (state : Handoff) : Prop where
  room_eq : state.mailbox.room = total
  length_buffers : state.buffers.length + state.draining.lost = total
  fits : ∀ buffer ∈ state.buffers, buffer.length = windowLength

/-- The windows offered so far are accounted for. -/
structure Accounted (windowLength : Nat) (windows : List (Window Float32))
    (state : Handoff) : Prop where
  upcoming_fits : ∀ window ∈ state.upcoming, window.length = windowLength
  offered_append : state.offered ++ state.upcoming.map Window.samples = windows.map Window.samples
  /-- The windows taken, waiting and arriving are among the offered ones, in order. -/
  in_order : (state.taken ++ state.mailbox.latest.toList ++ state.offering.arriving).Sublist
    state.offered
  balanced : state.offered.length = state.taken.length + state.mailbox.dropped +
    state.mailbox.latest.toList.length + state.offering.pending
  running : state.draining.isFinished = false → state.worker.status = .running

variable {windowLength total : Nat} {windows : List (Window Float32)} {state after : Handoff}

theorem stocked_start (pipeline : Pipeline) (board : Board) (windowLength spareWindows : Nat)
    (windows : List (Window Float32)) : Stocked windowLength (max spareWindows 1)
      (start pipeline board windowLength spareWindows windows) where
  room_eq := rfl
  length_buffers := by
    simp [start, buffers, mailbox, Mailbox.create, Offering.buffers, Draining.buffers,
      Draining.lost]
  fits buffer member := by
    simp [start, buffers, mailbox, Mailbox.create, Offering.buffers, Draining.buffers] at member
    simp [member]

theorem accounted_start (pipeline : Pipeline) (board : Board) (spareWindows : Nat)
    (fits : ∀ window ∈ windows, window.length = windowLength) :
    Accounted windowLength windows (start pipeline board windowLength spareWindows windows) where
  upcoming_fits := fits
  offered_append := rfl
  in_order := List.Sublist.slnil
  balanced := rfl
  running _ := rfl

/-- A step that only moves buffers around keeps them all. -/
theorem Stocked.of_perm (stocked : Stocked windowLength total state)
    (room_eq : after.mailbox.room = state.mailbox.room)
    (lost_eq : after.draining.lost = state.draining.lost)
    (perm : (after.buffers.map List.length).Perm (state.buffers.map List.length)) :
    Stocked windowLength total after where
  room_eq := room_eq.trans stocked.room_eq
  length_buffers := by
    have length_eq := perm.length_eq
    rw [List.length_map, List.length_map] at length_eq
    rw [length_eq, lost_eq, stocked.length_buffers]
  fits buffer member := by
    obtain ⟨before, member, length_eq⟩ :=
      List.mem_map.mp (perm.mem_iff.mp (List.mem_map_of_mem member))
    rw [← length_eq, stocked.fits before member]

/-- A buffer that goes back to the pool finds room there. -/
theorem Stocked.spare_lt_room (stocked : Stocked windowLength total state)
    (returning : state.offering.returning?.isSome ∨ state.draining.returning?.isSome) :
    state.mailbox.spare.length < state.mailbox.room := by
  have length_buffers := stocked.length_buffers
  simp only [buffers, List.length_append] at length_buffers
  have held : 0 < state.offering.buffers.length + state.draining.buffers.length := by
    obtain counted | processed := returning
    · have one := Offering.length_buffers_of_returning counted
      omega
    · have one := Draining.length_buffers_of_returning processed
      omega
  have room_eq := stocked.room_eq
  omega

private theorem perm_moved (front middle back : List Nat) (item : Nat) :
    (front ++ item :: (middle ++ back)).Perm (front ++ (middle ++ item :: back)) :=
  List.perm_middle.symm.append_left front

/-- The first step of an offer is no breach, and the window is on its way or about to be counted. -/
private theorem beginOffer_keeps {window : Window Float32} {rest : List (Window Float32)}
    (stocked : Stocked windowLength total state) (accounted : Accounted windowLength windows state)
    (idle : state.offering = .idle) (upcoming : state.upcoming = window :: rest) :
    ∃ after, beginOffer { state with
        upcoming := rest, offered := state.offered ++ [window.samples] } window = .ok after ∧
      Stocked windowLength total after ∧ Accounted windowLength windows after := by
  obtain ⟨worker, offering, draining, stopRaised, upcoming, offered, taken⟩ := state
  obtain ⟨pipeline, ⟨latest, spare, room, dropped⟩, board, processed, status, notices⟩ := worker
  obtain ⟨upcoming_fits, offered_append, in_order, balanced, running⟩ := accounted
  cases idle
  cases upcoming
  have begun : offered ++ [window.samples] ++ rest.map Window.samples =
      windows.map Window.samples := by
    rw [← offered_append, List.append_assoc]
    rfl
  have rest_fits := fun window member => upcoming_fits window (List.mem_cons_of_mem _ member)
  cases spare with
  | nil =>
    refine ⟨_, rfl, stocked.of_perm rfl rfl (List.Perm.refl _), rest_fits, begun, ?_, ?_, running⟩
    · exact in_order.trans (List.sublist_append_left _ _)
    · simp [mailbox, Offering.pending] at balanced ⊢
      omega
  | cons buffer spare =>
    have fits : window.length = buffer.length :=
      (upcoming_fits window List.mem_cons_self).trans
        (stocked.fits buffer (by simp [buffers, mailbox])).symm
    have copied : window.copyInto buffer.length = .ok window.samples := if_pos fits
    simp only [beginOffer, mailbox, Mailbox.popSpare, copied, ok_bind, pure, Except.pure]
    refine ⟨_, rfl, stocked.of_perm rfl rfl ?_, rest_fits, begun, ?_, ?_, running⟩
    · simp only [buffers, mailbox, withMailbox, Offering.buffers, List.map_append, List.map_cons,
        List.map_nil, Window.length_samples, ← fits, List.append_nil, List.append_assoc,
        List.cons_append]
      rw [← List.append_assoc, ← List.append_assoc]
      exact List.perm_middle
    · have arrives := in_order.append (List.Sublist.refl [window.samples])
      simpa [mailbox, withMailbox, Offering.arriving] using arrives
    · simp [mailbox, withMailbox, Offering.pending] at balanced ⊢
      omega

/-- A step of capture is no breach, keeps the buffers and accounts for the windows. -/
theorem capture_keeps (stocked : Stocked windowLength total state)
    (accounted : Accounted windowLength windows state) :
    ∃ after, state.capture = .ok after ∧ Stocked windowLength total after ∧
      Accounted windowLength windows after := by
  have returns := stocked.spare_lt_room
  obtain ⟨worker, offering, draining, stopRaised, upcoming, offered, taken⟩ := state
  obtain ⟨pipeline, shared, board, processed, status, notices⟩ := worker
  obtain ⟨upcoming_fits, offered_append, in_order, balanced, running⟩ := accounted
  simp only [mailbox] at *
  cases offering with
  | idle =>
    cases upcoming with
    | nil =>
      exact ⟨_, rfl, stocked, upcoming_fits, offered_append, in_order, balanced, running⟩
    | cons window rest =>
      exact beginOffer_keeps stocked ⟨upcoming_fits, offered_append, in_order, balanced, running⟩
        rfl rfl
  | refused =>
    refine ⟨_, rfl, stocked.of_perm rfl rfl (List.Perm.refl _), upcoming_fits, offered_append,
      in_order, ?_, running⟩
    simp [mailbox, withMailbox, Mailbox.countDrop, Offering.pending] at balanced ⊢
    omega
  | filled buffer =>
    obtain ⟨latest, spare, room, dropped⟩ := shared
    cases latest with
    | none =>
      refine ⟨_, rfl, stocked.of_perm rfl rfl ?_, upcoming_fits, offered_append, ?_, ?_, running⟩
      · simp [buffers, mailbox, withMailbox, Offering.buffers]
      · simpa [mailbox, withMailbox, Offering.arriving] using in_order
      · simpa [mailbox, withMailbox, Offering.pending] using balanced
    | some stale =>
      refine ⟨_, rfl, stocked.of_perm rfl rfl ?_, upcoming_fits, offered_append, ?_, ?_, running⟩
      · simp only [buffers, mailbox, withMailbox, Offering.buffers, Option.toList_some,
          List.map_append, List.map_cons, List.map_nil, List.append_assoc, List.singleton_append]
        exact perm_moved _ [_] _ _
      · have skipped := (List.sublist_cons_self stale [buffer]).append_left taken
        simp only [Option.toList_some, Offering.arriving, List.append_assoc] at in_order
        simpa [mailbox, withMailbox, Offering.arriving] using skipped.trans in_order
      · simpa [mailbox, withMailbox, Offering.pending] using balanced
  | replaced stale =>
    refine ⟨_, rfl, stocked.of_perm rfl rfl (List.Perm.refl _), upcoming_fits, offered_append,
      in_order, ?_, running⟩
    simp [mailbox, withMailbox, Mailbox.countDrop, Offering.pending] at balanced ⊢
    omega
  | counted stale =>
    have room := returns (.inl rfl)
    refine ⟨_, rfl, stocked.of_perm ?_ rfl ?_, upcoming_fits, offered_append, ?_, ?_, running⟩
    · exact Mailbox.room_recycle _ _
    · simp only [buffers, mailbox, withMailbox, Mailbox.spare_recycle _ room,
        Mailbox.latest_recycle, Offering.buffers, List.map_append, List.map_cons, List.append_nil,
        List.append_assoc, List.singleton_append]
      exact perm_moved _ _ _ _
    · simpa [mailbox, withMailbox, Offering.arriving] using in_order
    · simpa [mailbox, withMailbox, Offering.pending] using balanced

/-- Processing a window moves no buffer, unless it is a breach. -/
private theorem process_keeps {window : List Float32} (stocked : Stocked windowLength total state)
    (accounted : Accounted windowLength windows state) (held : state.draining = .holding window) :
    Stocked windowLength total (state.process window) ∧
      Accounted windowLength windows (state.process window) := by
  obtain ⟨worker, offering, draining, stopRaised, upcoming, offered, taken⟩ := state
  obtain ⟨upcoming_fits, offered_append, in_order, balanced, running⟩ := accounted
  cases held
  cases outcome : worker.pipeline.process window worker.board with
  | error breach =>
    simp only [process, outcome]
    refine ⟨⟨stocked.room_eq, ?_, ?_⟩, upcoming_fits, offered_append, in_order, balanced, ?_⟩
    · have length_buffers := stocked.length_buffers
      simp [buffers, mailbox, Draining.buffers, Draining.lost] at length_buffers ⊢
      omega
    · intro buffer member
      apply stocked.fits buffer
      simp [buffers, mailbox, Draining.buffers] at member ⊢
      tauto
    · intro finished
      cases finished
  | ok result =>
    obtain ⟨pipeline, publication⟩ := result
    cases publication with
    | appended board =>
      simp only [process, outcome]
      exact ⟨stocked.of_perm rfl rfl (List.Perm.refl _), upcoming_fits, offered_append, in_order,
        balanced, running⟩
    | rejected cause =>
      simp only [process, outcome]
      exact ⟨stocked.of_perm rfl rfl (List.Perm.refl _), upcoming_fits, offered_append, in_order,
        balanced, running⟩

/-- The buffer of a processed window finds room in the pool. -/
theorem spare_giveBack {window : List Float32} {result : Except Violation Unit}
    (stocked : Stocked windowLength total state)
    (held : state.draining = .processed window result) :
    (state.giveBack window).mailbox.spare = state.mailbox.spare ++ [window] := by
  apply Mailbox.spare_recycle
  apply stocked.spare_lt_room
  rw [held]
  exact .inr rfl

private theorem giveBack_keeps {window : List Float32} {result : Except Violation Unit}
    (stocked : Stocked windowLength total state) (accounted : Accounted windowLength windows state)
    (held : state.draining = .processed window result) :
    Stocked windowLength total (state.giveBack window) ∧
      Accounted windowLength windows (state.giveBack window) := by
  have spare_eq := spare_giveBack stocked held
  obtain ⟨worker, offering, draining, stopRaised, upcoming, offered, taken⟩ := state
  obtain ⟨upcoming_fits, offered_append, in_order, balanced, running⟩ := accounted
  cases held
  refine ⟨stocked.of_perm (Mailbox.room_recycle _ _) rfl ?_, upcoming_fits, offered_append, ?_, ?_,
    running⟩
  · rw [buffers, spare_eq]
    simp only [giveBack, mailbox, withMailbox, Mailbox.latest_recycle, buffers, Draining.buffers,
      List.map_append, List.map_cons, List.map_nil, List.append_nil, List.append_assoc,
      List.singleton_append]
    rw [← List.append_assoc _ _ [window.length]]
    exact (List.perm_append_singleton _ _).symm.append_left _
  · simpa [giveBack, mailbox, withMailbox] using in_order
  · simpa [giveBack, mailbox, withMailbox] using balanced

private theorem settle_keeps {window : List Float32} {result : Except Violation Unit}
    (stocked : Stocked windowLength total state) (accounted : Accounted windowLength windows state)
    (held : state.draining = .processed window result) :
    Stocked windowLength total (state.settle window result) ∧
      Accounted windowLength windows (state.settle window result) := by
  obtain ⟨⟨room_eq, length_buffers, fits⟩, upcoming_fits, offered_append, in_order, balanced,
    running⟩ := giveBack_keeps stocked accounted held
  cases result with
  | ok _ =>
    exact ⟨⟨room_eq, length_buffers, fits⟩, upcoming_fits, offered_append, in_order, balanced,
      running⟩
  | error cause =>
    refine ⟨⟨room_eq, length_buffers, fits⟩, upcoming_fits, offered_append, in_order, balanced, ?_⟩
    intro finished
    cases finished

/-- Taking a window out of the slot puts it into the worker's hands. -/
private theorem poll_keeps (stocked : Stocked windowLength total state)
    (accounted : Accounted windowLength windows state) (polling : state.draining = .polling) :
    Stocked windowLength total state.drain ∧ Accounted windowLength windows state.drain := by
  obtain ⟨worker, offering, draining, stopRaised, upcoming, offered, taken⟩ := state
  obtain ⟨pipeline, ⟨latest, spare, room, dropped⟩, board, processed, status, notices⟩ := worker
  obtain ⟨upcoming_fits, offered_append, in_order, balanced, running⟩ := accounted
  cases polling
  cases latest with
  | none =>
    exact ⟨stocked.of_perm rfl rfl (List.Perm.refl _), upcoming_fits, offered_append, in_order,
      balanced, running⟩
  | some window =>
    refine ⟨stocked.of_perm rfl rfl ?_, upcoming_fits, offered_append, ?_, ?_, running⟩
    · simp only [drain, buffers, mailbox, withMailbox, Mailbox.take, Draining.buffers,
        Option.toList_none, Option.toList_some, List.map_append, List.map_cons, List.map_nil,
        List.append_nil, List.append_assoc, List.singleton_append]
      exact (List.perm_append_singleton _ _).append_left _
    · simpa [drain, mailbox, withMailbox, Mailbox.take] using in_order
    · simp [drain, mailbox, withMailbox, Mailbox.take] at balanced ⊢
      omega

/-- A step of the worker keeps the buffers and accounts for the windows. -/
theorem drain_keeps (stocked : Stocked windowLength total state)
    (accounted : Accounted windowLength windows state) :
    Stocked windowLength total state.drain ∧ Accounted windowLength windows state.drain := by
  cases stage : state.draining with
  | watching =>
    obtain ⟨worker, offering, draining, stopRaised, upcoming, offered, taken⟩ := state
    obtain ⟨pipeline, shared, board, processed, status, notices⟩ := worker
    obtain ⟨upcoming_fits, offered_append, in_order, balanced, running⟩ := accounted
    cases stage
    cases running rfl
    cases stopRaised with
    | false =>
      exact ⟨stocked.of_perm rfl rfl (List.Perm.refl _), upcoming_fits, offered_append, in_order,
        balanced, running⟩
    | true =>
      refine ⟨stocked.of_perm rfl rfl (List.Perm.refl _), upcoming_fits, offered_append, in_order,
        balanced, ?_⟩
      intro finished
      cases finished
  | polling => exact poll_keeps stocked accounted stage
  | holding window =>
    rw [drain, stage]
    exact process_keeps stocked accounted stage
  | processed window result =>
    rw [drain, stage]
    exact settle_keeps stocked accounted stage
  | ended =>
    rw [drain, stage]
    exact ⟨stocked, accounted⟩
  | crashed =>
    rw [drain, stage]
    exact ⟨stocked, accounted⟩

/-- One step, whoever makes it. -/
theorem step_keeps (turn : Turn)
    (kept : Stocked windowLength total state ∧ Accounted windowLength windows state) :
    ∃ after, state.step turn = .ok after ∧
      Stocked windowLength total after ∧ Accounted windowLength windows after := by
  obtain ⟨stocked, accounted⟩ := kept
  cases turn with
  | capture => exact capture_keeps stocked accounted
  | worker => exact ⟨_, rfl, drain_keeps stocked accounted⟩
  | stop =>
    exact ⟨_, rfl, ⟨stocked.room_eq, stocked.length_buffers, stocked.fits⟩,
      ⟨accounted.upcoming_fits, accounted.offered_append, accounted.in_order, accounted.balanced,
        accounted.running⟩⟩

/-- The worker's pipeline serves the window length, and its thread did not break down. -/
structure Serving (windowLength : Nat) (state : Handoff) : Prop where
  serves : state.worker.pipeline.Serves windowLength
  none_lost : state.draining.lost = 0

/-- Capture has no part in the worker's state. -/
theorem Serving.capture (serving : Serving windowLength state)
    (captured : state.capture = .ok after) : Serving windowLength after := by
  obtain ⟨worker, offering, draining, stopRaised, upcoming, offered, taken⟩ := state
  obtain ⟨pipeline, ⟨latest, spare, room, dropped⟩, board, processed, status, notices⟩ := worker
  obtain ⟨serves, none_lost⟩ := serving
  cases offering with
  | idle =>
    cases upcoming with
    | nil =>
      cases captured
      exact ⟨serves, none_lost⟩
    | cons window rest =>
      cases spare with
      | nil =>
        cases captured
        exact ⟨serves, none_lost⟩
      | cons buffer spare =>
        obtain ⟨filled, _, captured⟩ := bind_eq_ok.mp captured
        cases captured
        exact ⟨serves, none_lost⟩
  | filled buffer =>
    cases latest with
    | none =>
      cases captured
      exact ⟨serves, none_lost⟩
    | some stale =>
      cases captured
      exact ⟨serves, none_lost⟩
  | refused | replaced stale | counted stale =>
    cases captured
    exact ⟨serves, none_lost⟩

/-- A window of the right length is processed without a breach. -/
theorem Serving.drain (serving : Serving windowLength state)
    (stocked : Stocked windowLength total state) : Serving windowLength state.drain := by
  obtain ⟨serves, none_lost⟩ := serving
  cases stage : state.draining with
  | watching =>
    rw [Handoff.drain, stage]
    cases raised : state.stopRaised with
    | false => exact ⟨serves, rfl⟩
    | true =>
      refine ⟨?_, rfl⟩
      change state.worker.halt.pipeline.Serves windowLength
      rw [Worker.halt]
      split
      · exact serves
      · exact serves
  | polling =>
    rw [Handoff.drain, stage]
    cases latest : state.mailbox.latest with
    | none =>
      simp only [Mailbox.take, latest]
      exact ⟨serves, rfl⟩
    | some window =>
      simp only [Mailbox.take, latest]
      exact ⟨serves, rfl⟩
  | holding window =>
    have fits : window.length = windowLength := by
      apply stocked.fits
      simp [buffers, stage, Draining.buffers]
    obtain ⟨pipeline, publication, outcome, serves⟩ := serves.process fits state.worker.board
    rw [Handoff.drain, stage]
    cases publication with
    | appended board =>
      simp only [process, outcome]
      exact ⟨serves, rfl⟩
    | rejected cause =>
      simp only [process, outcome]
      exact ⟨serves, rfl⟩
  | processed window result =>
    rw [Handoff.drain, stage]
    cases result with
    | ok _ => exact ⟨serves, rfl⟩
    | error cause => exact ⟨serves, rfl⟩
  | ended =>
    rw [Handoff.drain, stage]
    exact ⟨serves, none_lost⟩
  | crashed =>
    rw [stage] at none_lost
    cases none_lost

theorem Serving.run (stocked : Stocked windowLength total state)
    (accounted : Accounted windowLength windows state) (serving : Serving windowLength state)
    {schedule : List Turn} (ran : state.run schedule = .ok after) :
    Serving windowLength after := by
  induction schedule generalizing state with
  | nil =>
    cases ran
    exact serving
  | cons turn rest ih =>
    obtain ⟨next, stepped, ran⟩ := bind_eq_ok.mp ran
    obtain ⟨same, kept, stocked_next, accounted_next⟩ := step_keeps turn ⟨stocked, accounted⟩
    cases stepped.symm.trans kept
    refine ih stocked_next accounted_next ?_ ran
    cases turn with
    | capture => exact serving.capture stepped
    | worker =>
      cases stepped
      exact serving.drain stocked
    | stop =>
      cases stepped
      exact ⟨serving.serves, serving.none_lost⟩

/-- However the steps of capture and the worker alternate, no step is a breach, no buffer is lost,
the worker takes the offered windows in order and every other one is waiting or counted. A buffer
that goes back to the pool finds room, and that of a rejected window goes back before the worker
ends. The worker's thread can break down only with a pipeline for another window length. -/
theorem nothing_lost_of_run (pipeline : Pipeline) (board : Board) (spareWindows : Nat)
    {windowLength : Nat} {windows : List (Window Float32)}
    (fits : ∀ window ∈ windows, window.length = windowLength) (schedule : List Turn) :
    ∃ after, (start pipeline board windowLength spareWindows windows).run schedule = .ok after ∧
      (pipeline.Serves windowLength → after.draining ≠ .crashed) ∧
      (after.draining ≠ .crashed → after.buffers.length = max spareWindows 1) ∧
      (∀ buffer ∈ after.buffers, buffer.length = windowLength) ∧
      (after.offering.returning?.isSome ∨ after.draining.returning?.isSome →
        after.mailbox.spare.length < after.mailbox.room) ∧
      after.taken.Sublist after.offered ∧
      after.offered <+: windows.map Window.samples ∧
      (after.offering = .idle → after.offered.length = after.taken.length +
        after.mailbox.dropped + if after.mailbox.latest.isSome then 1 else 0) ∧
      (∀ window rejecting cause, after.draining = .holding window →
        after.worker.pipeline.process window after.worker.board =
          .ok (rejecting, .rejected cause) →
        after.drain.draining = .processed window (.error cause)) ∧
      ∀ window cause, after.draining = .processed window (.error cause) →
        after.worker.status = .running ∧ after.drain.draining = .ended ∧
          after.drain.worker.status = .ended (.error (.violation cause)) ∧
          after.drain.mailbox.spare = after.mailbox.spare ++ [window] := by
  have stocked_first := stocked_start pipeline board windowLength spareWindows windows
  have accounted_first := accounted_start pipeline board spareWindows fits
  obtain ⟨after, ran, stocked, accounted⟩ :=
    run_keeps (fun _ turn => step_keeps turn) ⟨stocked_first, accounted_first⟩ schedule
  refine ⟨after, ran, ?_, ?_, stocked.fits, stocked.spare_lt_room, ?_, ?_, ?_, ?_, ?_⟩
  · intro serves crashed
    have none_lost := (Serving.run stocked_first accounted_first ⟨serves, rfl⟩ ran).none_lost
    rw [crashed] at none_lost
    cases none_lost
  · intro alive
    have length_buffers := stocked.length_buffers
    cases stage : after.draining <;> simp [stage, Draining.lost] at length_buffers alive ⊢
    all_goals exact length_buffers
  · have in_order := accounted.in_order
    rw [List.append_assoc] at in_order
    exact (List.sublist_append_left _ _).trans in_order
  · exact ⟨_, accounted.offered_append⟩
  · intro idle
    have balanced := accounted.balanced
    rw [idle] at balanced
    cases latest : after.mailbox.latest <;> simpa [latest, Offering.pending] using balanced
  · intro window rejecting cause held rejected
    rw [drain, held]
    simp only [process, rejected]
  · intro window cause held
    refine ⟨accounted.running (by rw [held]; rfl), ?_⟩
    rw [drain, held]
    exact ⟨rfl, rfl, spare_giveBack stocked held⟩

/-- Three windows for a worker whose rows do not fit the board. The first one is taken and rejected,
the second one waits in the slot, and the third one is refused because the worker still holds the
buffer of the first. -/
theorem nothing_lost_of_rejection :
    (∀ window ∈ [⟨[1], []⟩, ⟨[2], []⟩, (⟨[3], []⟩ : Window Float32)], window.length = 1) ∧
      ∃ after, (start ⟨Taper.rectangular.table 1, Transform.probe 1 1, [Bin.zero]⟩
          ⟨History.create Point.origin ⟨1, 2⟩ (by decide), .identity⟩ 1 2
          [⟨[1], []⟩, ⟨[2], []⟩, ⟨[3], []⟩]).run
            [.capture, .capture, .worker, .worker, .capture, .worker, .capture, .capture, .capture,
              .worker] = .ok after ∧
        after.worker.status = .ended (.error (.violation (.rowLength 2 1))) ∧
        after.buffers.length = 2 ∧ after.offered.length = 3 ∧ after.taken.length = 1 ∧
        after.mailbox.dropped = 1 := by
  have fits : ∀ window ∈ [⟨[1], []⟩, ⟨[2], []⟩, (⟨[3], []⟩ : Window Float32)],
      window.length = 1 := by
    simp [Window.length]
  obtain ⟨after, ran, _, all, _⟩ := nothing_lost_of_run
    ⟨Taper.rectangular.table 1, Transform.probe 1 1, [Bin.zero]⟩
    ⟨History.create Point.origin ⟨1, 2⟩ (by decide), .identity⟩ 2 fits
    [.capture, .capture, .worker, .worker, .capture, .worker, .capture, .capture, .capture,
      .worker]
  obtain rfl : _ = after := Except.ok.inj ran
  exact ⟨fits, _, ran, rfl, all nofun, rfl, rfl, rfl⟩

end Handoff

end Waterfall
