/-!
# Splitting

A text between the occurrences of a separator. There is one piece more than
there are separators.
-/

namespace IgnoreRules

/-- The pieces of a text between separators. -/
def pieces (separator : Char) : List Char → List (List Char)
  | [] => [[]]
  | c :: rest =>
      if c = separator then [] :: pieces separator rest
      else match pieces separator rest with
        | [] => [[c]]
        | piece :: others => (c :: piece) :: others

end IgnoreRules
