/-! # Text without control sequences

A text for a terminal may hold control characters and escape sequences, which ring, colour or move
instead of being seen. Where the reader is no terminal, `withoutControls` leaves them out; blanks
that are control characters stay. What is left is plain (`isPlain_of_mem_withoutControls`), and a
plain text is left as it is (`withoutControls_of_isPlain`).
-/

namespace Waterfall.Text

/-- Control characters that are blanks: tab, line feed, form feed and carriage return. -/
def isBlankControl (character : Char) : Bool :=
  character = '\t' || character = '\n' || character = '\x0c' || character = '\r'

/-- Characters that are seen as they are. -/
def isPlain (character : Char) : Bool :=
  decide (' ' ≤ character ∧ character ≠ '\x7f') || isBlankControl character

/-- Where in a control sequence a character stands. -/
inductive SequenceState
  /-- In no sequence. -/
  | ground
  /-- After an escape character. -/
  | escape
  /-- After an escape character and signs that one more letter completes. -/
  | designation
  /-- Among parameters, up to a letter. -/
  | parameters
  /-- In a string for the terminal's system, up to a bell. -/
  | systemString
  /-- At the start of a message to the device. -/
  | deviceStart
  /-- Among the parameters of a message to the device. -/
  | deviceParameters
  /-- Among the signs between the parameters and the letter of a message to the device. -/
  | deviceDesignation
  /-- In a string that nobody reads, up to the byte that ends strings: after the letter of a message
  to the device, in one that is not well formed, or in a private one. -/
  | privateString
deriving DecidableEq, Repr

namespace SequenceState

/-- Whether the encoding of a character holds the byte that ends a private string. -/
def endsString (character : Char) : Bool :=
  (String.singleton character).toUTF8.toList.contains 0x9c

/-- The state after a character. An escape character begins a new sequence in every state, and two
control characters abandon a sequence. -/
def next (state : SequenceState) (character : Char) : SequenceState :=
  if character = '\x1b' then escape
  else if character = '\x18' ∨ character = '\x1a' then ground
  else
    match state with
    | ground => ground
    | escape =>
      if character = '[' then parameters
      else if character = ']' then systemString
      else if character = 'P' then deviceStart
      else if "X^_".contains character then privateString
      else if ' ' ≤ character ∧ character ≤ '/' then designation
      else if '0' ≤ character ∧ character ≤ '~' then ground
      else escape
    | designation => if '0' ≤ character ∧ character ≤ '~' then ground else designation
    | parameters => if '@' ≤ character ∧ character ≤ '~' then ground else parameters
    | systemString => if character = '\x07' then ground else systemString
    | deviceStart =>
      if ' ' ≤ character ∧ character ≤ '/' then deviceDesignation
      else if '0' ≤ character ∧ character ≤ '?' then deviceParameters
      else if '@' ≤ character ∧ character ≤ '~' then privateString
      else deviceStart
    | deviceParameters =>
      if ' ' ≤ character ∧ character ≤ '/' then deviceDesignation
      else if '<' ≤ character ∧ character ≤ '~' then privateString
      else deviceParameters
    | deviceDesignation =>
      if '0' ≤ character ∧ character ≤ '~' then privateString else deviceDesignation
    | privateString => if endsString character then ground else privateString

/-- Whether a character is seen: outside of sequences every plain one, in strings and messages none,
and in other sequences the blanks. -/
def shows (state : SequenceState) (character : Char) : Bool :=
  match state with
  | ground => isPlain character
  | escape | designation | parameters => isBlankControl character
  | systemString | deviceStart | deviceParameters | deviceDesignation | privateString => false

/-- An escape character begins a new sequence wherever it stands. -/
theorem next_escape (state : SequenceState) : state.next '\x1b' = escape := rfl

/-- A private string ends at the byte that ends strings and at the two control characters that
abandon a sequence. -/
theorem next_privateString_eq_ground_iff {character : Char} :
    privateString.next character = ground ↔
      character ≠ '\x1b' ∧
        (character = '\x18' ∨ character = '\x1a' ∨ endsString character = true) := by
  unfold next
  split <;> grind

end SequenceState

/-- The visible ones of the characters that follow a state. After a visible character, plain text is
visible even inside a sequence, which goes on at the next character that is not plain; a character
beyond the first 128 in such text ends the sequence. -/
def visible (afterVisible : Bool) (state : SequenceState) : List Char → List Char
  | [] => []
  | character :: rest =>
    if afterVisible && isPlain character then
      character :: visible true (if character.toNat < 128 then state else .ground) rest
    else if state.shows character then character :: visible true (state.next character) rest
    else visible false (state.next character) rest

/-- A text without its control characters and sequences. -/
def withoutControls (text : String) : String :=
  String.ofList (visible false .ground text.toList)

/-- What is visible is plain. -/
theorem isPlain_of_mem_visible {character : Char} (afterVisible : Bool) (state : SequenceState)
    (characters : List Char) (mem : character ∈ visible afterVisible state characters) :
    isPlain character = true := by
  fun_induction visible afterVisible state characters with
  | case1 => simp at mem
  | case2 afterVisible state first rest plain ih =>
    rcases List.mem_cons.mp mem with rfl | mem
    · exact (Bool.and_eq_true_iff.mp plain).2
    · exact ih mem
  | case3 afterVisible state first rest _ shown ih =>
    rcases List.mem_cons.mp mem with rfl | mem
    · cases state <;> simp_all [SequenceState.shows, isPlain]
    · exact ih mem
  | case4 afterVisible state first rest _ _ ih => exact ih mem

/-- A plain character is no control character that begins or abandons a sequence. -/
theorem next_ground_of_isPlain {character : Char} (plain : isPlain character = true) :
    SequenceState.ground.next character = .ground := by
  have differs : character ≠ '\x1b' := by rintro rfl; exact absurd plain (by decide)
  simp [SequenceState.next, differs]

/-- Plain characters outside of sequences are all visible. -/
theorem visible_of_isPlain (afterVisible : Bool) (characters : List Char)
    (plain : ∀ character ∈ characters, isPlain character = true) :
    visible afterVisible .ground characters = characters := by
  induction characters generalizing afterVisible with
  | nil => rfl
  | cons character rest ih =>
    have first := plain character List.mem_cons_self
    have others := fun after => ih after fun other mem => plain other (List.mem_cons_of_mem _ mem)
    cases afterVisible <;>
      simp [visible, first, SequenceState.shows, next_ground_of_isPlain first, others]

/-- Without its control sequences a text is plain. -/
theorem isPlain_of_mem_withoutControls {character : Char} {text : String}
    (mem : character ∈ (withoutControls text).toList) : isPlain character = true := by
  rw [withoutControls, String.toList_ofList] at mem
  exact isPlain_of_mem_visible _ _ _ mem

/-- A plain text is left as it is. -/
theorem withoutControls_of_isPlain {text : String}
    (plain : ∀ character ∈ text.toList, isPlain character = true) :
    withoutControls text = text := by
  rw [withoutControls, visible_of_isPlain _ _ plain, String.ofList_toList]

end Waterfall.Text
