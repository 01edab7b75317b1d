/-! # Names of choices

Choices are made by name, and the case of the letters `A` to `Z` does not matter.
-/

namespace Waterfall.Name

/-- Two names that differ at most in the case of ASCII letters. -/
def agree (left right : String) : Bool := left.toLower == right.toLower

/-- The first choice of the list that has the given name. -/
def find? {Choice : Type} (name : Choice → String) (choices : List Choice) (wanted : String) :
    Option Choice :=
  choices.find? fun choice => agree (name choice) wanted

end Waterfall.Name
