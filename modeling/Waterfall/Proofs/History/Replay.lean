import Waterfall.Proofs.History.Display
import Waterfall.Proofs.SampleRing.Guarded

/-! # Pushing rows one after the other

A replay pushes rows of any lengths and reports what each push came to. The guarded form of the
operations checks the bounds of every run they read or write, the lengths of what they copy and the
range of every count. On a history that could be allocated it returns what the plain form computes,
so a push never ends in anything but a new row or the rejection of one, and every view can be read.
-/

namespace Waterfall

variable {α : Type}

namespace History

/-- What a push of a row comes to in a history of a layout. -/
def verdict (layout : Layout) (row : List α) : Except Violation Unit :=
  if row.length = layout.rowLength then .ok () else .error (.rowLength layout.rowLength row.length)

/-- The rows that are accepted by a history of a layout. -/
def accepted (layout : Layout) (rows : List (List α)) : List (List α) :=
  rows.filter (·.length = layout.rowLength)

/-- Push one row and report what became of it; a rejection leaves the history as it is. -/
def perform (history : History α) (row : List α) : Except Violation Unit × History α :=
  match history.push row with
  | .ok next => (.ok (), next)
  | .error cause => (.error cause, history)

/-- Push rows one after the other, and report what became of each of them. -/
def replay (history : History α) : List (List α) → List (Except Violation Unit) × History α
  | [] => ([], history)
  | row :: rest =>
    let (report, next) := history.perform row
    let (reports, last) := next.replay rest
    (report :: reports, last)

/-- A replay can be cut before its last row. -/
theorem replay_concat (history : History α) (rows : List (List α)) (row : List α) :
    history.replay (rows ++ [row]) =
      ((history.replay rows).1 ++ [((history.replay rows).2.perform row).1],
        ((history.replay rows).2.perform row).2) := by
  induction rows generalizing history with
  | nil => rfl
  | cons first rest ih => simp only [List.cons_append, replay, ih]

/-- One push keeps the display in step with the accepted rows. -/
theorem Shows.perform {zero : α} {pushed : List (List α)} {history : History α}
    (shows : history.Shows zero pushed) (row : List α) :
    (history.perform row).1 = verdict history.layout row ∧
      (history.perform row).2.layout = history.layout ∧
      (history.perform row).2.Shows zero (pushed ++ accepted history.layout [row]) := by
  by_cases fits : row.length = history.layout.rowLength
  · obtain ⟨after, done, layout, shows_after⟩ := shows.push fits
    have kept : accepted history.layout [row] = [row] := List.filter_cons_of_pos (by simpa)
    rw [History.perform, done, verdict, if_pos fits, kept]
    exact ⟨rfl, layout, shows_after⟩
  · have none : accepted history.layout [row] = [] := List.filter_cons_of_neg (by simpa)
    rw [History.perform, push_of_ne fits, verdict, if_neg fits, none, List.append_nil]
    exact ⟨rfl, rfl, shows⟩

theorem Shows.replay {zero : α} {pushed : List (List α)} {history : History α}
    (shows : history.Shows zero pushed) (rows : List (List α)) :
    (history.replay rows).1 = rows.map (verdict history.layout) ∧
      (history.replay rows).2.layout = history.layout ∧
      (history.replay rows).2.Shows zero (pushed ++ accepted history.layout rows) := by
  induction rows generalizing history pushed with
  | nil => exact ⟨rfl, rfl, by rwa [accepted, List.filter_nil, List.append_nil]⟩
  | cons row rest ih =>
    obtain ⟨report, layout, shows_next⟩ := shows.perform row
    obtain ⟨reports, layout_last, shows_last⟩ := ih shows_next
    rw [layout] at reports layout_last shows_last
    refine ⟨?_, layout_last, ?_⟩
    · rw [History.replay, List.map_cons, ← report, ← reports]
    · rw [accepted, ← List.singleton_append, List.filter_append, ← List.append_assoc]
      exact shows_last

/-- The history was allocated, so all its points can be stored. -/
structure Stored (history : History α) : Prop where
  rowLength_pos : 0 < history.layout.rowLength
  points_fit : history.layout.rows * history.layout.rowLength * pointBytes < Word.storageLimit

/-- Exactly the layouts whose points can be stored have a history. -/
theorem allocate_eq (zero : α) {layout : Layout} (rows_pos : 0 < layout.rows)
    (rowLength_pos : 0 < layout.rowLength) :
    allocate zero layout =
      if layout.rows * layout.rowLength * pointBytes < Word.storageLimit then
        .ok (create zero layout rows_pos)
      else .error .overflow := by
  have limits : Word.countLimit = 2 * Word.storageLimit := by decide
  rw [allocate, dif_pos ⟨rows_pos, rowLength_pos⟩, Layout.points, Word.mul, Word.count]
  split_ifs with counted stored stored
  · rw [ok_bind, Word.reserve, if_pos stored]
    rfl
  · rw [ok_bind, Word.reserve, if_neg stored]
    rfl
  · rw [pointBytes] at stored
    omega
  · rfl

theorem Stored.perform {history : History α} (stored : history.Stored) (row : List α) :
    (history.perform row).2.Stored := by
  have layout : (history.perform row).2.layout = history.layout := by
    by_cases fits : row.length = history.layout.rowLength
    · obtain ⟨after, done, layout, _⟩ := push_of_eq fits
      rw [History.perform, done]
      exact layout
    · rw [History.perform, push_of_ne fits]
  refine ⟨?_, ?_⟩
  · rw [layout]
    exact stored.rowLength_pos
  · rw [layout]
    exact stored.points_fit

end History

/-- The fields of a history, on which nothing is known. -/
structure HistoryState (α : Type) where
  points : List α
  layout : Layout
  oldest : Nat
  filled : Nat

/-- The fields of a history as a machine holds them. -/
def History.state (history : History α) : HistoryState α where
  points := history.points
  layout := history.layout
  oldest := history.oldest
  filled := history.filled

namespace HistoryState

/-- Push a row and report what became of it. -/
def perform (state : HistoryState α) (row : List α) :
    Except Breach (Except Violation Unit × HistoryState α) := do
  let rowLength := state.layout.rowLength
  if row.length = rowLength then
    let start ← Word.mul state.oldest rowLength
    let points ← overwrite state.points start (← Word.add start rowLength) row
    let oldest ← Word.remainder (← Word.add state.oldest 1) state.layout.rows
    let filled := min (← Word.add state.filled 1) state.layout.rows
    return (.ok (), { state with points, oldest, filled })
  else return (.error (.rowLength rowLength row.length), state)

/-- Push rows one after the other, and report what became of each of them. -/
def replay (state : HistoryState α) :
    List (List α) → Except Breach (List (Except Violation Unit) × HistoryState α)
  | [] => return ([], state)
  | row :: rest => do
    let (report, next) ← state.perform row
    let (reports, last) ← next.replay rest
    return (report :: reports, last)

/-- The two runs that hold all points. -/
def runs (state : HistoryState α) : Except Breach (List α × List α) := do
  let split ← Word.mul state.oldest state.layout.rowLength
  return (← run state.points split state.points.length, ← run state.points 0 split)

/-- The row at a position. -/
def row? (state : HistoryState α) (index : Nat) : Except Breach (Option (List α)) := do
  if index < state.layout.rows then
    let slot ← Word.remainder (← Word.add state.oldest index) state.layout.rows
    let start ← Word.mul slot state.layout.rowLength
    return some (← run state.points start (← Word.add start state.layout.rowLength))
  else return none

/-- The pushed rows. -/
def rows (state : HistoryState α) : Except Breach (List (List α)) := do
  let first ← Word.sub state.layout.rows state.filled
  let found ← (List.range' first (state.layout.rows - first)).mapM state.row?
  return found.reduceOption

variable {history : History α}

/-- The points before a slot and the points of a slot are counts that fit. -/
private theorem slot_end_lt (stored : history.Stored) {slot : Nat}
    (inside : slot < history.layout.rows) :
    slot * history.layout.rowLength + history.layout.rowLength < Word.countLimit ∧
      2 * history.layout.rows < Word.countLimit := by
  have limits : Word.countLimit = 2 * Word.storageLimit := by decide
  have fit := stored.points_fit
  have slot_end := history.slot_end_le_length inside
  have rows_le : history.layout.rows ≤ history.layout.rows * history.layout.rowLength :=
    Nat.le_mul_of_pos_right _ stored.rowLength_pos
  rw [history.length_points] at slot_end
  rw [History.pointBytes] at fit
  omega

/-- No access of a push is out of bounds, and no count overflows. -/
theorem perform_state (stored : history.Stored) (row : List α) :
    history.state.perform row =
      .ok ((history.perform row).1, (history.perform row).2.state) := by
  have inside := history.oldest_lt
  have slot_end := history.slot_end_le_length inside
  obtain ⟨small, few⟩ := slot_end_lt stored inside
  rw [perform, History.perform]
  by_cases fits : row.length = history.layout.rowLength
  · have counted : Word.mul history.oldest history.layout.rowLength =
        .ok (history.oldest * history.layout.rowLength) := if_pos (by omega)
    have filled_le := history.filled_le
    rw [if_pos (show row.length = history.state.layout.rowLength from fits), History.push,
      dif_pos fits]
    dsimp only [History.state]
    rw [counted, ok_bind, Word.add_of_lt small, ok_bind,
      overwrite_of_le (Nat.le_add_right _ _) slot_end (by omega), ok_bind,
      Word.add_of_lt (by omega), ok_bind, Word.remainder_of_pos (by omega), ok_bind,
      Word.add_of_lt (by omega), ok_bind]
    rfl
  · rw [if_neg (show ¬row.length = history.state.layout.rowLength from fits),
      History.push_of_ne fits]
    rfl

/-- A replay on a history that was allocated meets no breach. -/
theorem replay_state (stored : history.Stored) (rows : List (List α)) :
    history.state.replay rows = .ok ((history.replay rows).1, (history.replay rows).2.state) := by
  induction rows generalizing history with
  | nil => rfl
  | cons row rest ih =>
    rw [replay, perform_state stored, ok_bind]
    dsimp only
    rw [ih (stored.perform row), ok_bind]
    rfl

theorem runs_state (stored : history.Stored) : history.state.runs = .ok history.runs := by
  have slot_end := history.slot_end_le_length history.oldest_lt
  obtain ⟨small, _⟩ := slot_end_lt stored history.oldest_lt
  have counted : Word.mul history.oldest history.layout.rowLength =
      .ok (history.oldest * history.layout.rowLength) := if_pos (by omega)
  rw [runs]
  dsimp only [History.state]
  rw [counted, ok_bind, run_of_le (by omega) (Nat.le_refl _), ok_bind,
    run_of_le (Nat.zero_le _) (by omega), ok_bind, List.take_length]
  rfl

theorem row?_state (stored : history.Stored) (index : Nat) :
    history.state.row? index = .ok (history.row? index) := by
  rw [row?, History.row?]
  by_cases inside : index < history.layout.rows
  · rw [if_pos (show index < history.state.layout.rows from inside), if_pos inside]
    dsimp only [History.state]
    have oldest_lt := history.oldest_lt
    have slot_lt : (history.oldest + index) % history.layout.rows < history.layout.rows :=
      Nat.mod_lt _ (by omega)
    have slot_end := history.slot_end_le_length slot_lt
    obtain ⟨small, few⟩ := slot_end_lt stored slot_lt
    have counted : Word.mul ((history.oldest + index) % history.layout.rows)
        history.layout.rowLength =
          .ok ((history.oldest + index) % history.layout.rows * history.layout.rowLength) :=
      if_pos (by omega)
    rw [Word.add_of_lt (by omega), ok_bind, Word.remainder_of_pos (by omega), ok_bind, counted,
      ok_bind, Word.add_of_lt small, ok_bind, run_of_le (Nat.le_add_right _ _) slot_end, ok_bind,
      List.drop_take, Nat.add_sub_cancel_left]
    rfl
  · rw [if_neg (show ¬index < history.state.layout.rows from inside), if_neg inside]
    rfl

theorem rows_state (stored : history.Stored) : history.state.rows = .ok history.rows := by
  have filled_le := history.filled_le
  have lookup (positions : List Nat) :
      positions.mapM history.state.row? = .ok (positions.map history.row?) := by
    induction positions with
    | nil => rfl
    | cons position rest ih => rw [List.mapM_cons, row?_state stored, ok_bind, ih, ok_bind]; rfl
  have count : history.layout.rows - (history.layout.rows - history.filled) = history.filled := by
    omega
  rw [rows]
  dsimp only [History.state] at lookup ⊢
  rw [Word.sub_of_le filled_le, ok_bind, lookup, ok_bind, count]
  have present (rows : List (Option (List α))) : rows.reduceOption = rows.filterMap id := rfl
  rw [present, List.filterMap_map]
  rfl

end HistoryState

namespace History

/-- Whatever rows are pushed into a fresh history, exactly those of the right length are accepted,
and every view is a view of one list: zero rows, as many as still fit, and the newest accepted rows.
A rejected row leaves the history as it was. A layout has a history exactly if its points can be
stored, and no call on that history is a breach. -/
theorem newest_rows_of_replay (zero : α) {layout : Layout} (rows_pos : 0 < layout.rows)
    (rowLength_pos : 0 < layout.rowLength) (calls : List (List α)) :
    ∃ reports after, (create zero layout rows_pos).replay calls = (reports, after) ∧
      reports = calls.map (verdict layout) ∧
      (∀ row, row.length ≠ layout.rowLength →
        after.perform row = (.error (.rowLength layout.rowLength row.length), after)) ∧
      after.rowCount = min (accepted layout calls).length layout.rows ∧
      after.pointCount = layout.rows * layout.rowLength ∧
      after.runs.1 ++ after.runs.2 =
        (List.replicate (layout.rows - min (accepted layout calls).length layout.rows)
            (List.replicate layout.rowLength zero) ++
          (accepted layout calls).rtake (min (accepted layout calls).length layout.rows)).flatten ∧
      (∀ index, after.row? index =
        if index < layout.rows then
          some (((after.runs.1 ++ after.runs.2).drop (index * layout.rowLength)).take
            layout.rowLength)
        else none) ∧
      after.rows =
        (accepted layout calls).rtake (min (accepted layout calls).length layout.rows) ∧
      (layout.rows * layout.rowLength * pointBytes < Word.storageLimit →
        allocate zero layout = .ok (create zero layout rows_pos) ∧
        (create zero layout rows_pos).state.replay calls = .ok (reports, after.state) ∧
        after.state.runs = .ok after.runs ∧
        (∀ index, after.state.row? index = .ok (after.row? index)) ∧
        after.state.rows = .ok after.rows) ∧
      (Word.storageLimit ≤ layout.rows * layout.rowLength * pointBytes →
        allocate zero layout = .error .overflow) := by
  obtain ⟨reports, same_layout, shows⟩ := (shows_create zero layout rows_pos).replay calls
  have guarded (stored : (create zero layout rows_pos).Stored) :=
    HistoryState.replay_state stored calls
  generalize (create zero layout rows_pos).replay calls = outcome
    at reports same_layout shows guarded
  obtain ⟨told, after⟩ := outcome
  dsimp only [create, List.nil_append] at reports same_layout shows guarded
  refine ⟨told, after, rfl, reports, ?_, ?_, ?_, ?_, ?_, ?_, ?_, ?_⟩
  · intro row misfit
    rw [perform, push_of_ne (same_layout ▸ misfit), same_layout]
  · rw [rowCount, shows.filled_eq, same_layout]
  · rw [pointCount, after.length_points, same_layout]
  · rw [← shownRows_eq]
    exact shows.displayed_eq.trans (by rw [same_layout])
  · intro index
    split_ifs with inside
    · rw [row?_of_lt (same_layout ▸ inside), same_layout]
      rfl
    · exact row?_of_ge (same_layout ▸ Nat.not_lt.mp inside)
  · rw [shows.rows_eq, same_layout]
  · intro fits
    have stored : (create zero layout rows_pos).Stored := ⟨rowLength_pos, fits⟩
    have stored_after : after.Stored := by
      refine ⟨?_, ?_⟩
      · rwa [same_layout]
      · rwa [same_layout]
    refine ⟨?_, guarded stored, HistoryState.runs_state stored_after,
      HistoryState.row?_state stored_after, HistoryState.rows_state stored_after⟩
    rw [allocate_eq zero rows_pos rowLength_pos, if_pos fits]
  · intro unfit
    rw [allocate_eq zero rows_pos rowLength_pos, if_neg (Nat.not_lt.mpr unfit)]

/-- Four rows that fit go through a history of three rows, past a row that does not fit. -/
theorem newest_rows_of_wrapped_replay :
    0 < 3 ∧ 0 < 2 ∧ ∃ reports after,
      (create 0 ⟨3, 2⟩ (by decide)).replay [[1, 1], [2, 2], [9], [3, 3], [4, 5]] =
          (reports, after) ∧
        reports = [.ok (), .ok (), .error (.rowLength 2 1), .ok (), .ok ()] ∧
        after.rowCount = 3 ∧ after.row? 2 = some [4, 5] ∧ after.row? 3 = none ∧
        after.rows = [[2, 2], [3, 3], [4, 5]] := by
  obtain ⟨reports, after, replayed, told, _, count, _, shown, rows, newest, _⟩ :=
    newest_rows_of_replay 0 (show 0 < (⟨3, 2⟩ : Layout).rows by decide) (by decide)
      [[1, 1], [2, 2], [9], [3, 3], [4, 5]]
  refine ⟨by decide, by decide, reports, after, replayed, told, count, ?_, rows 3, newest⟩
  rw [rows 2, shown]
  rfl

end History

end Waterfall
