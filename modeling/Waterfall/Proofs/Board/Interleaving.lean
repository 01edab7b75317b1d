import Mathlib.Logic.Function.Basic
import Waterfall.Proofs.History.Replay
import Waterfall.Spectrum.Board

/-! # Publishing while the scale changes

Any number of threads publish spectra on one board, while others switch its scale and read its
history. A publication is not indivisible: it reads the scale and maps its spectrum, and later
appends the row. A schedule says which step comes next. Whatever the schedule, each row is mapped by
one scale, which was active while its publication ran, and a reader finds whole rows only.
-/

namespace Waterfall

/-- An allocated history is a history of zero rows. -/
theorem History.eq_create_of_allocate {α : Type} {zero : α} {layout : Layout}
    {history : History α} (allocated : allocate zero layout = .ok history) :
    ∃ rows_pos, history = create zero layout rows_pos := by
  unfold allocate at allocated
  split at allocated
  · rename_i nonempty
    obtain ⟨_, _, allocated⟩ := bind_eq_ok.mp allocated
    obtain ⟨_, _, allocated⟩ := bind_eq_ok.mp allocated
    cases allocated
    exact ⟨nonempty.1, rfl⟩
  · cases allocated

namespace Board

variable {board : Board} {row : List Point}

/-- A row that fits is shown behind those that were. -/
theorem append_of_eq {rows : List (List Point)} (shows : board.history.Shows Point.origin rows)
    (fits : row.length = board.layout.rowLength) :
    ∃ after, board.append row = .ok after ∧ after.layout = board.layout ∧
      after.scale = board.scale ∧ after.history.Shows Point.origin (rows ++ [row]) := by
  obtain ⟨history, pushed, layout, shows_after⟩ := shows.push fits
  refine ⟨{ board with history }, ?_, layout, rfl, shows_after⟩
  rw [append, pushed]
  rfl

theorem append_of_ne (misfit : row.length ≠ board.layout.rowLength) :
    board.append row = .error (.rowLength board.layout.rowLength row.length) := by
  rw [append, History.push_of_ne misfit]
  rfl

end Board

/-- A spectrum on its way to the board, since a moment. -/
structure Submission where
  bins : List Bin
  scratchLength : Nat
  began : Nat

/-- How far a thread is with publishing a spectrum. -/
inductive Publishing
  | idle
  | begun (submission : Submission)
  /-- The row was mapped by the scale that was read. -/
  | mapped (submission : Submission) (scale : Scale) (row : List Point)

/-- A step of one of the threads. -/
inductive BoardAction
  | begin (thread : Nat) (bins : List Bin) (scratchLength : Nat)
  | readScale (thread : Nat)
  | appendRow (thread : Nat)
  | setScale (scale : Scale)
  | look

/-- What a step brought about. -/
inductive BoardEvent
  | published (submission : Submission) (ended : Nat) (scale : Scale) (row : List Point)
  | rejected (submission : Submission) (ended : Nat) (cause : Violation)
  /-- The scratch row has another length than the spectrum, which ends the thread's call. -/
  | breached (submission : Submission) (cause : Breach)
  | looked (history : History Point)

/-- The row that an event appended. -/
def BoardEvent.row? : BoardEvent → Option (List Point)
  | published _ _ _ row => some row
  | _ => none

/-- The rows that events appended, in order. -/
def appendedRows (events : List BoardEvent) : List (List Point) := events.filterMap BoardEvent.row?

theorem appendedRows_note_of_some {events : List BoardEvent} {event : BoardEvent}
    {row : List Point} (appends : event.row? = some row) :
    appendedRows (events ++ [event]) = appendedRows events ++ [row] := by
  rw [appendedRows, List.filterMap_append, List.filterMap_cons_some appends]
  rfl

theorem appendedRows_note_of_none {events : List BoardEvent} {event : BoardEvent}
    (appends : event.row? = none) : appendedRows (events ++ [event]) = appendedRows events := by
  rw [appendedRows, List.filterMap_append, List.filterMap_cons_none appends]
  exact List.append_nil _

/-- A board and the threads that publish on it. -/
structure SharedBoard where
  board : Board
  threads : Nat → Publishing := fun _ => .idle
  /-- The number of steps so far. -/
  clock : Nat := 0
  /-- What the steps brought about, in order. -/
  events : List BoardEvent := []

namespace SharedBoard

/-- The state with another stage of a thread. -/
def withThread (thread : Nat) (stage : Publishing) (state : SharedBoard) : SharedBoard :=
  { state with threads := Function.update state.threads thread stage }

/-- The state with one more event. -/
def note (event : BoardEvent) (state : SharedBoard) : SharedBoard :=
  { state with events := state.events ++ [event] }

/-- What a step does. A step that its thread is not ready for does nothing. -/
def act (state : SharedBoard) : BoardAction → SharedBoard
  | .begin thread bins scratchLength =>
    match state.threads thread with
    | .idle => state.withThread thread (.begun ⟨bins, scratchLength, state.clock⟩)
    | _ => state
  | .readScale thread =>
    match state.threads thread with
    | .begun submission =>
      match state.board.scale.mapRow submission.bins submission.scratchLength with
      | .ok row => state.withThread thread (.mapped submission state.board.scale row)
      | .error cause => (state.withThread thread .idle).note (.breached submission cause)
    | _ => state
  | .appendRow thread =>
    match state.threads thread with
    | .mapped submission scale row =>
      match state.board.append row with
      | .ok board =>
        { state.withThread thread .idle with board }.note
          (.published submission state.clock scale row)
      | .error cause =>
        (state.withThread thread .idle).note (.rejected submission state.clock cause)
    | _ => state
  | .setScale scale => { state with board := state.board.setScale scale }
  | .look => state.note (.looked state.board.history)

/-- Make a step. -/
def step (state : SharedBoard) (action : BoardAction) : SharedBoard :=
  { state.act action with clock := state.clock + 1 }

/-- Make steps one after the other. -/
def run (state : SharedBoard) (schedule : List BoardAction) : SharedBoard :=
  schedule.foldl step state

variable {start state next : SharedBoard} {past schedule : List BoardAction} {action : BoardAction}
  {layout : Layout}

section

variable {thread : Nat} {submission : Submission} {scale : Scale} {row : List Point}

theorem act_begin (idle : state.threads thread = .idle) (bins : List Bin) (scratchLength : Nat) :
    state.act (.begin thread bins scratchLength) =
      state.withThread thread (.begun ⟨bins, scratchLength, state.clock⟩) := by
  rw [act, idle]

/-- A spectrum is mapped as a whole, by the active scale. -/
theorem act_readScale (begun : state.threads thread = .begun submission)
    (fits : submission.bins.length = submission.scratchLength) :
    state.act (.readScale thread) = state.withThread thread
      (.mapped submission state.board.scale (submission.bins.map state.board.scale.apply)) := by
  have mapped : state.board.scale.mapRow submission.bins submission.scratchLength =
      .ok (submission.bins.map state.board.scale.apply) := if_pos fits
  rw [act, begun]
  dsimp only
  rw [mapped]

theorem act_readScale_of_ne (begun : state.threads thread = .begun submission)
    (misfit : submission.bins.length ≠ submission.scratchLength) :
    state.act (.readScale thread) =
      (state.withThread thread .idle).note (.breached submission .rowBinMismatch) := by
  have unmapped : state.board.scale.mapRow submission.bins submission.scratchLength =
      .error .rowBinMismatch := if_neg misfit
  rw [act, begun]
  dsimp only
  rw [unmapped]

theorem act_appendRow (mapped : state.threads thread = .mapped submission scale row)
    {board : Board} (appended : state.board.append row = .ok board) :
    state.act (.appendRow thread) =
      { state.withThread thread .idle with board }.note
        (.published submission state.clock scale row) := by
  rw [act, mapped]
  dsimp only
  rw [appended]

theorem act_appendRow_of_error (mapped : state.threads thread = .mapped submission scale row)
    {cause : Violation} (rejected : state.board.append row = .error cause) :
    state.act (.appendRow thread) =
      (state.withThread thread .idle).note (.rejected submission state.clock cause) := by
  rw [act, mapped]
  dsimp only
  rw [rejected]

end

theorem run_concat (start : SharedBoard) (past : List BoardAction) (action : BoardAction) :
    start.run (past ++ [action]) = (start.run past).step action := by
  rw [run, List.foldl_append]
  rfl

/-- A scale was active at a moment after the submission began and before it ended. -/
def ActiveDuring (start : SharedBoard) (past : List BoardAction) (submission : Submission)
    (ended : Nat) (scale : Scale) : Prop :=
  ∃ moment, submission.began < moment ∧ moment ≤ ended ∧
    (start.run (past.take moment)).board.scale = scale

theorem ActiveDuring.later {submission : Submission} {ended : Nat} {scale : Scale}
    (active : ActiveDuring start past submission ended scale) (ended_le : ended ≤ past.length)
    (action : BoardAction) : ActiveDuring start (past ++ [action]) submission ended scale := by
  obtain ⟨moment, after_begin, before_end, active⟩ := active
  refine ⟨moment, after_begin, before_end, ?_⟩
  rwa [List.take_append_of_le_length (Nat.le_trans before_end ended_le)]

/-- What a thread has in hand was made from its spectrum, with a scale that was active. -/
def StageHolds (start : SharedBoard) (past : List BoardAction) : Publishing → Prop
  | .idle => True
  | .begun submission => submission.began < past.length
  | .mapped submission scale row =>
    row = submission.bins.map scale.apply ∧
      ActiveDuring start past submission past.length scale

theorem StageHolds.later {stage : Publishing} (holds : StageHolds start past stage)
    (action : BoardAction) : StageHolds start (past ++ [action]) stage := by
  have grown : past.length ≤ (past ++ [action]).length := by simp
  cases stage with
  | idle => trivial
  | begun submission => exact Nat.lt_of_lt_of_le holds grown
  | mapped submission scale row =>
    obtain ⟨row_eq, active⟩ := holds
    obtain ⟨moment, after_begin, before_end, same⟩ := active.later (Nat.le_refl _) action
    exact ⟨row_eq, moment, after_begin, Nat.le_trans before_end grown, same⟩

/-- What an event says, after the events before it. -/
def EventHolds (start : SharedBoard) (past : List BoardAction) (layout : Layout)
    (before : List BoardEvent) : BoardEvent → Prop
  | .published submission ended scale row =>
    submission.bins.length = layout.rowLength ∧ row = submission.bins.map scale.apply ∧
      ended < past.length ∧ ActiveDuring start past submission ended scale
  | .rejected submission ended cause =>
    submission.bins.length ≠ layout.rowLength ∧
      cause = .rowLength layout.rowLength submission.bins.length ∧
      submission.began < ended ∧ ended < past.length
  | .breached submission cause =>
    submission.bins.length ≠ submission.scratchLength ∧ cause = .rowBinMismatch
  | .looked history =>
    history.layout = layout ∧ history.Shows Point.origin (appendedRows before)

theorem EventHolds.later {before : List BoardEvent} {event : BoardEvent}
    (holds : EventHolds start past layout before event) (action : BoardAction) :
    EventHolds start (past ++ [action]) layout before event := by
  have grown : past.length ≤ (past ++ [action]).length := by simp
  cases event with
  | published submission ended scale row =>
    obtain ⟨fits, row_eq, ended_lt, active⟩ := holds
    exact ⟨fits, row_eq, Nat.lt_of_lt_of_le ended_lt grown, active.later ended_lt.le action⟩
  | rejected submission ended cause =>
    obtain ⟨misfit, cause_eq, ended_gt, ended_lt⟩ := holds
    exact ⟨misfit, cause_eq, ended_gt, Nat.lt_of_lt_of_le ended_lt grown⟩
  | breached submission cause => exact holds
  | looked history => exact holds

/-- All events say the truth. -/
def EventsHold (start : SharedBoard) (past : List BoardAction) (layout : Layout)
    (events : List BoardEvent) : Prop :=
  ∀ index event, events[index]? = some event →
    EventHolds start past layout (events.take index) event

theorem EventsHold.note {events : List BoardEvent} {event : BoardEvent}
    (hold : EventsHold start past layout events)
    (holds : EventHolds start past layout events event) :
    EventsHold start past layout (events ++ [event]) := by
  intro index other found
  obtain early | late := Nat.lt_or_ge index events.length
  · rw [List.getElem?_append_left early] at found
    rw [List.take_append_of_le_length early.le]
    exact hold index other found
  · rw [List.getElem?_append_right late, List.getElem?_singleton] at found
    split at found
    · have last : index = events.length := by omega
      rw [last, List.take_left, ← Option.some.inj found]
      exact holds
    · cases found

/-- A state that steps led to, with a history that shows the rows appended so far. -/
structure Consistent (start : SharedBoard) (layout : Layout) (past : List BoardAction)
    (state : SharedBoard) : Prop where
  ran : start.run past = state
  clock_eq : state.clock = past.length
  layout_eq : state.board.layout = layout
  shows : state.board.history.Shows Point.origin (appendedRows state.events)
  threads : ∀ thread, StageHolds start past (state.threads thread)
  events : EventsHold start past layout state.events

theorem Consistent.advance (consistent : Consistent start layout past state)
    (result : state.act action = next) (layout_eq : next.board.layout = layout)
    (shows : next.board.history.Shows Point.origin (appendedRows next.events))
    (threads : ∀ thread, StageHolds start (past ++ [action]) (next.threads thread))
    (events : EventsHold start (past ++ [action]) layout next.events) :
    Consistent start layout (past ++ [action]) (state.step action) where
  ran := by rw [run_concat, consistent.ran]
  clock_eq := by
    rw [List.length_append, ← consistent.clock_eq]
    rfl
  layout_eq := by rwa [step, result]
  shows := by rwa [step, result]
  threads := by rwa [step, result]
  events := by rwa [step, result]

/-- The stages of all threads after one of them went on. -/
theorem stages_withThread {stage : Publishing} (thread : Nat)
    (threads : ∀ other, StageHolds start past (state.threads other))
    (holds : StageHolds start past stage) (other : Nat) :
    StageHolds start past ((state.withThread thread stage).threads other) := by
  change StageHolds start past (Function.update state.threads thread stage other)
  by_cases same : other = thread
  · rwa [same, Function.update_self]
  · rw [Function.update_of_ne same]
    exact threads other

theorem Consistent.threads_later (consistent : Consistent start layout past state)
    (action : BoardAction) (thread : Nat) :
    StageHolds start (past ++ [action]) (state.threads thread) :=
  (consistent.threads thread).later action

theorem Consistent.events_later (consistent : Consistent start layout past state)
    (action : BoardAction) : EventsHold start (past ++ [action]) layout state.events :=
  fun index event found => (consistent.events index event found).later action

theorem Consistent.clock_lt (consistent : Consistent start layout past state)
    (action : BoardAction) : state.clock < (past ++ [action]).length := by
  simp [consistent.clock_eq]

/-- A step that its thread is not ready for only takes time. -/
theorem Consistent.unready (consistent : Consistent start layout past state)
    (result : state.act action = state) :
    Consistent start layout (past ++ [action]) (state.step action) :=
  consistent.advance result consistent.layout_eq consistent.shows
    (consistent.threads_later action) (consistent.events_later action)

section

variable {thread : Nat} {submission : Submission} {scale : Scale} {row : List Point}

/-- A thread that reads the scale maps its spectrum by one that is active now. -/
theorem Consistent.readScale (consistent : Consistent start layout past state)
    (begun : state.threads thread = .begun submission) :
    Consistent start layout (past ++ [.readScale thread]) (state.step (.readScale thread)) := by
  have threads := consistent.threads_later (.readScale thread)
  have events := consistent.events_later (.readScale thread)
  have began : submission.began < past.length := by
    have holds := consistent.threads thread
    rwa [begun] at holds
  by_cases fits : submission.bins.length = submission.scratchLength
  · have active : ActiveDuring start (past ++ [.readScale thread]) submission
        (past ++ [BoardAction.readScale thread]).length state.board.scale := by
      refine ⟨past.length, began, by simp, ?_⟩
      rw [List.take_left, consistent.ran]
    refine consistent.advance (act_readScale begun fits) consistent.layout_eq
      consistent.shows ?_ events
    exact stages_withThread thread threads ⟨rfl, active⟩
  · have told : appendedRows (state.events ++ [.breached submission .rowBinMismatch]) =
        appendedRows state.events := appendedRows_note_of_none rfl
    refine consistent.advance (act_readScale_of_ne begun fits) consistent.layout_eq
      (told ▸ consistent.shows) ?_ (events.note ⟨fits, rfl⟩)
    exact stages_withThread thread threads trivial

/-- A thread that appends its row publishes it with the scale it read, or is rejected. -/
theorem Consistent.appendRow (consistent : Consistent start layout past state)
    (mapped : state.threads thread = .mapped submission scale row) :
    Consistent start layout (past ++ [.appendRow thread]) (state.step (.appendRow thread)) := by
  have events := consistent.events_later (.appendRow thread)
  have clock_lt := consistent.clock_lt (.appendRow thread)
  have stages : ∀ other, StageHolds start (past ++ [.appendRow thread])
      ((state.withThread thread .idle).threads other) :=
    stages_withThread thread (consistent.threads_later _) trivial
  obtain ⟨row_eq, active⟩ : StageHolds start past (.mapped submission scale row) :=
    mapped ▸ consistent.threads thread
  have width : row.length = submission.bins.length := by rw [row_eq, List.length_map]
  by_cases fits : row.length = state.board.layout.rowLength
  · obtain ⟨board, appended, layout_eq, _, shows⟩ := Board.append_of_eq consistent.shows fits
    have told : appendedRows (state.events ++ [.published submission state.clock scale row]) =
        appendedRows state.events ++ [row] := appendedRows_note_of_some rfl
    refine consistent.advance (act_appendRow mapped appended)
      (layout_eq.trans consistent.layout_eq) (told ▸ shows) stages (events.note ?_)
    refine ⟨?_, row_eq, clock_lt, ?_⟩
    · rw [← width, fits, consistent.layout_eq]
    · rw [consistent.clock_eq]
      exact active.later (Nat.le_refl _) _
  · have rejected := Board.append_of_ne fits
    have told (cause : Violation) :
        appendedRows (state.events ++ [.rejected submission state.clock cause]) =
          appendedRows state.events := appendedRows_note_of_none rfl
    refine consistent.advance (act_appendRow_of_error mapped rejected) consistent.layout_eq
      (told _ ▸ consistent.shows) stages (events.note ?_)
    obtain ⟨moment, after_begin, before_end, _⟩ := active
    have ended_gt : submission.began < state.clock := by
      rw [consistent.clock_eq]
      omega
    rw [consistent.layout_eq, width] at fits ⊢
    exact ⟨fits, rfl, ended_gt, clock_lt⟩

end

/-- Every step keeps what is known of the threads and the events. -/
theorem Consistent.step (consistent : Consistent start layout past state) (action : BoardAction) :
    Consistent start layout (past ++ [action]) (state.step action) := by
  have threads := consistent.threads_later action
  have events := consistent.events_later action
  cases action with
  | begin thread bins scratchLength =>
    cases stage : state.threads thread with
    | idle =>
      refine consistent.advance (act_begin stage bins scratchLength) consistent.layout_eq
        consistent.shows ?_ events
      exact stages_withThread thread threads (consistent.clock_lt _)
    | begun submission => exact consistent.unready (by rw [act, stage])
    | mapped submission scale row => exact consistent.unready (by rw [act, stage])
  | readScale thread =>
    cases stage : state.threads thread with
    | idle => exact consistent.unready (by rw [act, stage])
    | begun submission => exact consistent.readScale stage
    | mapped submission scale row => exact consistent.unready (by rw [act, stage])
  | appendRow thread =>
    cases stage : state.threads thread with
    | idle => exact consistent.unready (by rw [act, stage])
    | begun submission => exact consistent.unready (by rw [act, stage])
    | mapped submission scale row => exact consistent.appendRow stage
  | setScale scale =>
    exact consistent.advance rfl consistent.layout_eq consistent.shows threads events
  | look =>
    have told : appendedRows (state.events ++ [.looked state.board.history]) =
        appendedRows state.events := appendedRows_note_of_none rfl
    refine consistent.advance rfl consistent.layout_eq (told ▸ consistent.shows) threads ?_
    exact events.note ⟨consistent.layout_eq, consistent.shows⟩

theorem consistent_start {board : Board} {scale : Scale}
    (created : Board.create layout scale = .ok board) :
    Consistent { board } layout [] { board } := by
  obtain ⟨history, allocated, made⟩ := bind_eq_ok.mp created
  obtain ⟨rows_pos, rfl⟩ := History.eq_create_of_allocate allocated
  cases made
  exact
    { ran := rfl
      clock_eq := rfl
      layout_eq := rfl
      shows := History.shows_create Point.origin layout rows_pos
      threads := fun _ => trivial
      events := nofun }

theorem Consistent.run (consistent : Consistent start layout past state)
    (schedule : List BoardAction) :
    Consistent start layout (past ++ schedule) (state.run schedule) := by
  induction schedule generalizing past state with
  | nil => rwa [List.append_nil]
  | cons action rest ih =>
    rw [List.append_cons]
    exact ih (consistent.step action)

/-- Left alone, the steps of one thread publish a spectrum. -/
theorem run_publish {thread : Nat} (idle : state.threads thread = .idle) (bins : List Bin)
    (scratchLength : Nat) :
    ∃ event after,
      state.run [.begin thread bins scratchLength, .readScale thread, .appendRow thread] = after ∧
        after.events = state.events ++ [event] ∧
        match state.board.publish bins scratchLength with
        | .ok (.appended board) =>
          after.board = board ∧ event.row? = some (bins.map state.board.scale.apply)
        | .ok (.rejected cause) =>
          after.board = state.board ∧
            event = .rejected ⟨bins, scratchLength, state.clock⟩ (state.clock + 2) cause
        | .error cause =>
          after.board = state.board ∧
            event = .breached ⟨bins, scratchLength, state.clock⟩ cause := by
  let submission : Submission := ⟨bins, scratchLength, state.clock⟩
  let row := bins.map state.board.scale.apply
  let begun : SharedBoard :=
    { state.withThread thread (.begun submission) with clock := state.clock + 1 }
  have begins : state.step (.begin thread bins scratchLength) = begun := by
    rw [step, act_begin idle]
  have holds : begun.threads thread = .begun submission := Function.update_self ..
  have runs : state.run [.begin thread bins scratchLength, .readScale thread, .appendRow thread] =
      (begun.step (.readScale thread)).step (.appendRow thread) := by
    rw [← begins]
    rfl
  rw [runs]
  by_cases fits : bins.length = scratchLength
  · let read : SharedBoard :=
      { begun.withThread thread (.mapped submission state.board.scale row) with
        clock := state.clock + 2 }
    have reads : begun.step (.readScale thread) = read := by
      rw [step, act_readScale holds fits]
      rfl
    have mapped : read.threads thread = .mapped submission state.board.scale row :=
      Function.update_self ..
    have row_eq : state.board.scale.mapRow bins scratchLength = .ok row := if_pos fits
    rw [reads, step, Board.publish, row_eq, ok_bind]
    cases appended : state.board.append row with
    | ok board =>
      rw [act_appendRow mapped appended]
      exact ⟨_, _, rfl, rfl, rfl, rfl⟩
    | error cause =>
      rw [act_appendRow_of_error mapped appended]
      exact ⟨_, _, rfl, rfl, rfl, rfl⟩
  · let ended : SharedBoard :=
      { (begun.withThread thread .idle).note (.breached submission .rowBinMismatch) with
        clock := state.clock + 2 }
    have ends : begun.step (.readScale thread) = ended := by
      rw [step, act_readScale_of_ne holds fits]
    have unready : ended.act (.appendRow thread) = ended := by
      have none_held : ended.threads thread = .idle := Function.update_self ..
      rw [act, none_held]
    have unmapped : state.board.scale.mapRow bins scratchLength = .error .rowBinMismatch :=
      if_neg fits
    rw [ends, step, unready, Board.publish, unmapped, error_bind]
    exact ⟨_, _, rfl, rfl, rfl, rfl⟩

/-- Whatever the order of the steps, the history shows the rows that were appended. Each of them is
a whole spectrum of the right length, mapped by one scale that was active while it was published;
other spectra are rejected and change nothing, switching the scale changes no row, and a reader sees
the rows that were appended before. -/
theorem publications_of_run {scale : Scale} {board : Board} {after : SharedBoard}
    (created : Board.create layout scale = .ok board) (ran : run { board } schedule = after) :
    after.board.history.Shows Point.origin (appendedRows after.events) ∧
      after.board.history.rowCount = min (appendedRows after.events).length layout.rows ∧
      EventsHold { board } schedule layout after.events ∧
      (∀ thread submission, after.threads thread = .begun submission →
        submission.bins.length = submission.scratchLength →
        (after.step (.readScale thread)).board = after.board ∧
          (after.step (.readScale thread)).threads thread = .mapped submission after.board.scale
            (submission.bins.map after.board.scale.apply)) ∧
      (∀ thread submission scale row, after.threads thread = .mapped submission scale row →
        (after.step (.appendRow thread)).board.scale = after.board.scale ∧
          if submission.bins.length = layout.rowLength then
            (after.step (.appendRow thread)).events =
              after.events ++ [.published submission schedule.length scale row]
          else
            (after.step (.appendRow thread)).board = after.board ∧
              (after.step (.appendRow thread)).events = after.events ++
                [.rejected submission schedule.length
                  (.rowLength layout.rowLength submission.bins.length)]) ∧
      ∀ scale, (after.step (.setScale scale)).board = { after.board with scale } := by
  have consistent := (consistent_start created).run schedule
  rw [ran, List.nil_append] at consistent
  refine ⟨consistent.shows, ?_, consistent.events, ?_, ?_, fun _ => rfl⟩
  · rw [History.rowCount, consistent.shows.filled_eq]
    exact congrArg (fun layout : Layout => min _ layout.rows) consistent.layout_eq
  · intro thread submission begun fits
    rw [step, act_readScale begun fits]
    exact ⟨rfl, Function.update_self ..⟩
  · intro thread submission scale row mapped
    obtain ⟨row_eq, _⟩ : StageHolds { board } schedule (.mapped submission scale row) :=
      mapped ▸ consistent.threads thread
    have width : row.length = submission.bins.length := by rw [row_eq, List.length_map]
    rw [← width, ← consistent.layout_eq, ← consistent.clock_eq, step]
    split_ifs with fits
    · obtain ⟨next, appended, _, same, _⟩ := Board.append_of_eq consistent.shows fits
      rw [act_appendRow mapped appended]
      exact ⟨same, rfl⟩
    · rw [act_appendRow_of_error mapped (Board.append_of_ne fits)]
      exact ⟨rfl, rfl, rfl⟩

/-- A thread that read the scale before a switch appends its row after one that read it later. -/
theorem publications_of_late_append :
    ∃ board after,
      Board.create ⟨2, 1⟩ .identity = .ok board ∧
        run { board }
            [.begin 0 [⟨3, 4⟩] 1, .readScale 0, .setScale .exponential, .begin 1 [⟨3, 4⟩] 1,
              .readScale 1, .appendRow 1, .look, .appendRow 0, .begin 2 [⟨3, 4⟩, ⟨3, 4⟩] 2,
              .readScale 2, .appendRow 2] = after ∧
        appendedRows after.events = [[Scale.exponential.apply ⟨3, 4⟩], [⟨3, 4⟩]] ∧
        after.board.history.rowCount = 2 ∧
        after.board.history.Shows Point.origin (appendedRows after.events) := by
  have created : Board.create ⟨2, 1⟩ .identity =
      .ok ⟨History.create Point.origin ⟨2, 1⟩ (by decide), .identity⟩ := rfl
  refine ⟨_, _, created, rfl, rfl, rfl, ?_⟩
  exact (publications_of_run created rfl).1

end SharedBoard

end Waterfall
