/-! # Transcripts

What a program writes to its error output is a sequence of pieces, some of which are log records. A
piece need not end with the end of a line, so a line can hold parts of several pieces, and a piece
can have several lines. The lines that a log record begins are those of the log.
-/

namespace Waterfall.Program

/-- A text that is written in one go. -/
structure Piece where
  text : String
  /-- Whether the text is a log record. -/
  isRecord : Bool := false

/-- The characters of a piece, the first of them marked if it begins a log record. -/
def Piece.marked (piece : Piece) : List (Char × Bool) :=
  match piece.text.toList with
  | [] => []
  | first :: rest => (first, piece.isRecord) :: rest.map (·, false)

/-- A line, with its end if it has one, and whether a log record begins it. -/
structure Line where
  characters : List Char
  beginsRecord : Bool

namespace Line

/-- The text of a line without its end, which is a line feed or a carriage return before one. -/
def text (line : Line) : String :=
  match line.characters.reverse with
  | '\n' :: '\r' :: rest => String.ofList rest.reverse
  | '\n' :: rest => String.ofList rest.reverse
  | _ => String.ofList line.characters

/-- Put a character before lines: it begins a line of its own or joins the first one. -/
def prepend (character : Char) (beginsRecord : Bool) (lines : List Line) : List Line :=
  match character, lines with
  | '\n', lines => ⟨['\n'], beginsRecord⟩ :: lines
  | _, [] => [⟨[character], beginsRecord⟩]
  | _, line :: rest => ⟨character :: line.characters, beginsRecord⟩ :: rest

/-- The lines of pieces that are written one after the other. -/
def ofPieces (pieces : List Piece) : List Line :=
  (pieces.flatMap Piece.marked).foldr (fun (character, begins) => prepend character begins) []

/-- A character put before lines comes first, and the others stay as they are. -/
theorem flatMap_prepend (character : Char) (beginsRecord : Bool) (lines : List Line) :
    (prepend character beginsRecord lines).flatMap characters =
      character :: lines.flatMap characters := by
  unfold prepend
  split <;> simp

/-- Cutting into lines loses nothing. -/
theorem flatMap_ofPieces (pieces : List Piece) :
    (ofPieces pieces).flatMap characters = (pieces.flatMap Piece.marked).map Prod.fst := by
  unfold ofPieces
  induction pieces.flatMap Piece.marked with
  | nil => rfl
  | cons first rest ih => simp [flatMap_prepend, ih]

end Line

end Waterfall.Program
