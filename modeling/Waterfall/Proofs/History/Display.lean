import Mathlib.Algebra.BigOperators.Group.List.Lemmas
import Waterfall.Proofs.SampleRing.Stream
import Waterfall.Spectrum.History

/-! # The history as a list of rows

Reading the row slots from the oldest on, and around their end, gives all points in display order.
In this view a push forgets the first row and appends the new one, wherever the oldest slot was. A
history that was pushed `accepted` shows the end of that list of rows behind zero rows, and its
other views, by row or of the pushed rows alone, are parts of that list.
-/

namespace Waterfall

variable {α : Type}

/-- Of rows of one length, whole rows are left out by leaving out their points. -/
theorem drop_flatten_of_uniform {rows : List (List α)} {width count : Nat}
    (uniform : ∀ row ∈ rows, row.length = width) (le : count ≤ rows.length) :
    rows.flatten.drop (count * width) = (rows.drop count).flatten := by
  have widths : (rows.map List.length).take count = List.replicate count width := by
    rw [← List.map_take, List.eq_replicate_iff]
    refine ⟨by simp [le], ?_⟩
    intro length member
    obtain ⟨row, taken, rfl⟩ := List.mem_map.mp member
    exact uniform row (List.mem_of_mem_take taken)
  rw [← List.drop_sum_flatten, widths, List.sum_replicate_nat]

/-- Consecutive elements, looked up one after the other. -/
theorem filterMap_getElem?_range' (list : List α) (start count : Nat) :
    (List.range' start count).filterMap (list[·]?) = (list.drop start).take count := by
  induction count generalizing start with
  | zero => rfl
  | succ count ih =>
    rw [List.range'_succ, List.filterMap_cons, ih]
    cases found : list[start]? with
    | none =>
      have beyond := List.getElem?_eq_none_iff.mp found
      rw [List.drop_eq_nil_of_le beyond, List.drop_eq_nil_of_le (by omega), List.take_nil,
        List.take_nil]
    | some element =>
      obtain ⟨inside, rfl⟩ := List.getElem?_eq_some_iff.mp found
      rw [List.drop_eq_getElem_cons inside, List.take_succ_cons]

namespace History

/-- All points in display order. -/
def displayed (history : History α) : List α := history.runs.1 ++ history.runs.2

/-- The points before a slot and the points of a slot lie in the storage. -/
theorem slot_end_le_length (history : History α) {slot : Nat}
    (inside : slot < history.layout.rows) :
    slot * history.layout.rowLength + history.layout.rowLength ≤ history.points.length := by
  rw [history.length_points, ← Nat.succ_mul]
  exact Nat.mul_le_mul_right _ inside

@[simp] theorem displayed_create (zero : α) (layout : Layout) (rows_pos : 0 < layout.rows) :
    (create zero layout rows_pos).displayed =
      List.replicate (layout.rows * layout.rowLength) zero := by
  simp [displayed, runs, create]

theorem push_of_ne {history : History α} {row : List α}
    (misfit : row.length ≠ history.layout.rowLength) :
    history.push row = .error (.rowLength history.layout.rowLength row.length) := dif_neg misfit

/-- A row of the right length takes the place of the oldest one, at the other end. -/
theorem push_of_eq {history : History α} {row : List α}
    (fits : row.length = history.layout.rowLength) :
    ∃ after, history.push row = .ok after ∧ after.layout = history.layout ∧
      after.filled = min (history.filled + 1) history.layout.rows ∧
      after.displayed = history.displayed.drop history.layout.rowLength ++ row := by
  refine ⟨_, dif_pos fits, rfl, rfl, ?_⟩
  have inside := history.slot_end_le_length history.oldest_lt
  have before : (history.points.take (history.oldest * history.layout.rowLength)).length =
      history.oldest * history.layout.rowLength := by
    rw [List.length_take]
    omega
  have written : (history.points.take (history.oldest * history.layout.rowLength) ++ row).length =
      (history.oldest + 1) * history.layout.rowLength := by
    rw [List.length_append, before, fits, Nat.succ_mul]
  have shown : history.displayed.drop history.layout.rowLength =
      history.points.drop ((history.oldest + 1) * history.layout.rowLength) ++
        history.points.take (history.oldest * history.layout.rowLength) := by
    have room : history.layout.rowLength ≤
        (history.points.drop (history.oldest * history.layout.rowLength)).length := by
      rw [List.length_drop]
      omega
    rw [displayed, runs, List.drop_append_of_le_length room, List.drop_drop, Nat.succ_mul]
  rw [shown]
  simp only [displayed, runs, splice, fits, ← Nat.succ_mul, ← List.append_assoc]
  obtain next | last := Nat.lt_or_ge (history.oldest + 1) history.layout.rows
  · rw [Nat.mod_eq_of_lt next, List.drop_left' written, List.take_left' written, List.append_assoc]
  · -- The last slot was overwritten, so the first one is the oldest now.
    have wrap : history.oldest + 1 = history.layout.rows :=
      Nat.le_antisymm history.oldest_lt last
    have none : history.points.drop ((history.oldest + 1) * history.layout.rowLength) = [] := by
      rw [wrap, ← history.length_points, List.drop_length]
    rw [none, wrap, Nat.mod_self, Nat.zero_mul, List.drop_zero, List.take_zero, List.append_nil,
      List.append_nil, List.nil_append]

/-- A row is the run of the display that begins at its position. -/
theorem row?_of_lt {history : History α} {index : Nat} (inside : index < history.layout.rows) :
    history.row? index = some ((history.displayed.drop (index * history.layout.rowLength)).take
      history.layout.rowLength) := by
  have length := history.length_points
  have oldest_lt := history.oldest_lt
  have start_le := history.slot_end_le_length oldest_lt
  rw [row?, if_pos inside]
  dsimp only [displayed, runs]
  congr 1
  have first : (history.points.drop (history.oldest * history.layout.rowLength)).length =
      (history.layout.rows - history.oldest) * history.layout.rowLength := by
    rw [List.length_drop, length, Nat.sub_mul]
  obtain before | around := Nat.lt_or_ge (history.oldest + index) history.layout.rows
  · -- The slot lies in the first run.
    have room : index * history.layout.rowLength + history.layout.rowLength ≤
        (history.points.drop (history.oldest * history.layout.rowLength)).length := by
      rw [first, ← Nat.succ_mul]
      exact Nat.mul_le_mul_right _ (by omega)
    rw [Nat.mod_eq_of_lt before, List.drop_append_of_le_length (by omega),
      List.take_append_of_le_length (by rw [List.length_drop]; omega), List.drop_drop, Nat.add_mul]
  · -- The slot lies in the second run.
    have slot : (history.oldest + index) % history.layout.rows =
        history.oldest + index - history.layout.rows := by
      rw [Nat.mod_eq_sub_mod around, Nat.mod_eq_of_lt (by omega)]
    have skipped : index * history.layout.rowLength =
        (history.points.drop (history.oldest * history.layout.rowLength)).length +
          (history.oldest + index - history.layout.rows) * history.layout.rowLength := by
      rw [first, ← Nat.add_mul]
      congr 1
      omega
    have room : (history.oldest + index - history.layout.rows) * history.layout.rowLength +
        history.layout.rowLength ≤ history.oldest * history.layout.rowLength := by
      rw [← Nat.succ_mul]
      exact Nat.mul_le_mul_right _ (by omega)
    rw [slot, skipped, List.drop_length_add_append, List.drop_take, List.take_take,
      Nat.min_eq_left (by omega)]

theorem row?_of_ge {history : History α} {index : Nat} (beyond : history.layout.rows ≤ index) :
    history.row? index = none := if_neg (Nat.not_lt.mpr beyond)

/-- The rows that a history of a layout shows after pushing `accepted`: the end of these rows behind
zero rows. -/
def shownRows (zero : α) (layout : Layout) (accepted : List (List α)) : List (List α) :=
  streamWindow (List.replicate layout.rowLength zero) layout.rows accepted

@[simp] theorem length_shownRows (zero : α) (layout : Layout) (accepted : List (List α)) :
    (shownRows zero layout accepted).length = layout.rows := length_streamWindow _ _ _

/-- The zero rows and the newest rows apart. -/
theorem shownRows_eq (zero : α) (layout : Layout) (accepted : List (List α)) :
    shownRows zero layout accepted =
      List.replicate (layout.rows - min accepted.length layout.rows)
          (List.replicate layout.rowLength zero) ++
        accepted.rtake (min accepted.length layout.rows) := by
  rw [shownRows, streamWindow, rtake_append]
  congr 1
  · rw [List.rtake, List.length_replicate, List.drop_replicate]
    congr 1
    omega
  · simp only [List.rtake]
    congr 1
    omega

theorem shownRows_concat (zero : α) (layout : Layout) (rows_pos : 0 < layout.rows)
    (accepted : List (List α)) (row : List α) :
    shownRows zero layout (accepted ++ [row]) =
      (shownRows zero layout accepted).drop 1 ++ [row] := by
  have length := length_shownRows zero layout accepted
  rw [shownRows, ← rtake_streamWindow_append, ← shownRows, rtake_append]
  simp only [List.rtake, List.length_singleton, length]
  congr 2
  · omega
  · rw [Nat.sub_eq_zero_of_le rows_pos, List.drop_zero]

theorem length_of_mem_shownRows {zero : α} {layout : Layout} {accepted : List (List α)}
    (uniform : ∀ row ∈ accepted, row.length = layout.rowLength) :
    ∀ row ∈ shownRows zero layout accepted, row.length = layout.rowLength := by
  intro row member
  obtain blank | pushed := List.mem_append.mp (List.mem_of_mem_drop member)
  · rw [List.eq_of_mem_replicate blank, List.length_replicate]
  · exact uniform row pushed

/-- The history shows the rows that were pushed. -/
structure Shows (zero : α) (accepted : List (List α)) (history : History α) : Prop where
  uniform : ∀ row ∈ accepted, row.length = history.layout.rowLength
  filled_eq : history.filled = min accepted.length history.layout.rows
  displayed_eq : history.displayed = (shownRows zero history.layout accepted).flatten

theorem shows_create (zero : α) (layout : Layout) (rows_pos : 0 < layout.rows) :
    (create zero layout rows_pos).Shows zero [] where
  uniform := nofun
  filled_eq := by simp [create]
  displayed_eq := by
    rw [displayed_create, shownRows_eq]
    simp [create]

/-- A row that fits is appended to the rows that are shown. -/
theorem Shows.push {zero : α} {accepted : List (List α)} {history : History α}
    (shows : history.Shows zero accepted) {row : List α}
    (fits : row.length = history.layout.rowLength) :
    ∃ after, history.push row = .ok after ∧ after.layout = history.layout ∧
      after.Shows zero (accepted ++ [row]) := by
  obtain ⟨after, pushed, layout, filled, displayed⟩ := push_of_eq fits
  have rows_pos : 0 < history.layout.rows := Nat.lt_of_le_of_lt (Nat.zero_le _) history.oldest_lt
  refine ⟨after, pushed, layout, ?_, ?_, ?_⟩
  · rw [layout]
    intro stored member
    obtain kept | new := List.mem_append.mp member
    · exact shows.uniform stored kept
    · rwa [List.mem_singleton.mp new]
  · rw [filled, shows.filled_eq, layout, List.length_append, List.length_singleton]
    omega
  · have one_le : 1 ≤ (shownRows zero history.layout accepted).length := by
      rwa [length_shownRows]
    have first := drop_flatten_of_uniform (length_of_mem_shownRows shows.uniform) one_le
    rw [Nat.one_mul] at first
    rw [displayed, layout, shows.displayed_eq, first, shownRows_concat zero _ rows_pos,
      List.flatten_append, List.flatten_singleton]

/-- Every row that is shown can be looked up, and no other. -/
theorem Shows.row?_eq {zero : α} {accepted : List (List α)} {history : History α}
    (shows : history.Shows zero accepted) (index : Nat) :
    history.row? index = (shownRows zero history.layout accepted)[index]? := by
  obtain inside | beyond := Nat.lt_or_ge index history.layout.rows
  · have bound : index < (shownRows zero history.layout accepted).length := by
      rwa [length_shownRows]
    have uniform : ∀ row ∈ shownRows zero history.layout accepted,
        row.length = history.layout.rowLength := length_of_mem_shownRows shows.uniform
    rw [row?_of_lt inside, shows.displayed_eq, drop_flatten_of_uniform uniform (by omega),
      List.drop_eq_getElem_cons bound, List.flatten_cons,
      List.take_left' (uniform _ (List.getElem_mem bound)), List.getElem?_eq_getElem bound]
  · rw [row?_of_ge beyond, List.getElem?_eq_none]
    rwa [length_shownRows]

/-- Of the rows that are shown, the pushed ones are the last. -/
theorem Shows.rows_eq {zero : α} {accepted : List (List α)} {history : History α}
    (shows : history.Shows zero accepted) :
    history.rows = accepted.rtake (min accepted.length history.layout.rows) := by
  have lookup : history.row? = ((shownRows zero history.layout accepted)[·]?) :=
    funext shows.row?_eq
  have newest : (accepted.rtake history.filled).length ≤ history.filled := by
    have filled := shows.filled_eq
    rw [List.rtake, List.length_drop]
    omega
  rw [rows, lookup, filterMap_getElem?_range', shownRows_eq, ← shows.filled_eq,
    List.drop_left' List.length_replicate]
  exact List.take_of_length_le newest

end History

end Waterfall
