/-!
# Cutting texts

A text is cut at every occurrence of a character, or in two at the first occurrence of a pair of
characters.
-/

namespace CanisterGateway.Text

/-- The pieces of a text between the occurrences of a character. -/
def splitAt (separator : Char) : List Char → List (List Char)
  | [] => [[]]
  | c :: rest =>
    match splitAt separator rest with
    | [] => [[c]]
    | piece :: pieces =>
      if c = separator then [] :: piece :: pieces else (c :: piece) :: pieces

/-- The parts of a text before and after the first occurrence of a doubled character. -/
def splitPair? (separator : Char) : List Char → Option (List Char × List Char)
  | [] => none
  | c :: rest =>
    if c = separator ∧ rest.head? = some separator then some ([], rest.drop 1)
    else (splitPair? separator rest).map fun (before, after) => (c :: before, after)

end CanisterGateway.Text
