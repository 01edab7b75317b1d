import Waterfall.Spectrum.History
import Waterfall.Spectrum.Scale

/-! # The board that analysis and drawing share

The board holds the history and the active scale. Publishing a spectrum is two steps, because other
threads may act between them: the scale is read and the row mapped, and later the row is appended.
-/

namespace Waterfall

/-- The history and the active scale. -/
structure Board where
  history : History Point
  scale : Scale

namespace Board

/-- An empty board, provided that its history can be stored. -/
def create (layout : Layout) (scale : Scale) : Except Breach Board := do
  return ⟨← History.allocate Point.origin layout, scale⟩

/-- The shape of the history. -/
def layout (board : Board) : Layout := board.history.layout

/-- Switch the scale; stored rows keep the mapping they were made with. -/
def setScale (board : Board) (scale : Scale) : Board := { board with scale }

/-- Append a mapped row as the newest. -/
def append (board : Board) (row : List Point) : Except Violation Board := do
  return { board with history := ← board.history.push row }

/-- What became of a spectrum that was to be published. -/
inductive Publication
  | appended (board : Board)
  | rejected (cause : Violation)

/-- Map a spectrum and append its row; a row of another length leaves the board as it was. -/
def publish (board : Board) (bins : List Bin) (scratchLength : Nat) :
    Except Breach Publication := do
  match board.append (← board.scale.mapRow bins scratchLength) with
  | .ok board => return .appended board
  | .error cause => return .rejected cause

end Board

end Waterfall
