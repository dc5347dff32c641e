import IgnoreRules.Text.Cut
import IgnoreRules.Unicode.Category

/-!
# Regular expressions

The regular expressions that rules are turned into: a sequence of items, each
one character of a class, any number of such characters, or an optional group
of those. `Regex.Matches` says which texts an expression matches from end to
end, by cutting the text into consecutive pieces. `Regex.fullMatch` decides it: item
by item it marks the places in the text that the items so far can reach from the
start. So its cost grows with the product of text and expression and never with
the number of ways to cut. There is a mark for each place before a character, and
one for the end.
-/

namespace IgnoreRules

/-- A named category of characters. -/
inductive Category where
  | digit
  | space
  | word
  deriving DecidableEq, Repr

/-- The character belongs to the category. -/
def Category.holds : Category → Char → Bool
  | .digit, c => Unicode.isDecimal c
  | .space, c => Unicode.isSpace c
  | .word, c => Unicode.isWord c

/-- One member of a character class. Code points need not be those of characters:
an escape can name a code point that no text holds. -/
inductive ClassMember where
  /-- The code points from `low` to `high`. -/
  | range (low high : Nat)
  /-- A category, or all outside it. -/
  | category (kind : Category) (complement : Bool)
  deriving DecidableEq, Repr

/-- A single code point. -/
def ClassMember.code (n : Nat) : ClassMember :=
  .range n n

/-- The character belongs to the member. -/
def ClassMember.holds : ClassMember → Char → Bool
  | .range low high, c => low ≤ c.toNat && c.toNat ≤ high
  | .category kind complement, c => kind.holds c != complement

/-- A class of characters: those of its members, or all others. -/
structure CharClass where
  /-- The class holds the characters outside its members. -/
  negated : Bool
  /-- What the class lists. -/
  members : List ClassMember
  deriving DecidableEq, Repr

namespace CharClass

/-- The character belongs to the class. -/
def holds (cls : CharClass) (c : Char) : Bool :=
  cls.members.any (·.holds c) != cls.negated

/-- Every character, line ends included. -/
def any : CharClass :=
  ⟨true, []⟩

/-- One character. -/
def single (c : Char) : CharClass :=
  ⟨false, [.code c.toNat]⟩

end CharClass

/-- One character of a class, or any number of them. -/
inductive RegexStep where
  | one (cls : CharClass)
  | many (cls : CharClass)
  deriving DecidableEq, Repr

/-- A step, or a group of steps that may be left out as a whole. -/
inductive RegexItem where
  | step (s : RegexStep)
  | optional (group : List RegexStep)
  deriving DecidableEq, Repr

/-- A regular expression: items one after the other. -/
structure Regex where
  /-- The items, in order. -/
  items : List RegexItem
  deriving DecidableEq, Repr

/-- The piece of text is one that the step accounts for. -/
def RegexStep.Takes : RegexStep → List Char → Prop
  | .one cls, piece => ∃ c, piece = [c] ∧ cls.holds c = true
  | .many cls, piece => ∀ c ∈ piece, cls.holds c = true

/-- The piece of text is one that the item accounts for. -/
def RegexItem.Takes : RegexItem → List Char → Prop
  | .step s, piece => s.Takes piece
  | .optional group, piece => piece = [] ∨ Cut RegexStep.Takes group piece

namespace Regex

/-- The expression matches the text from end to end. -/
def Matches (regex : Regex) (text : List Char) : Prop :=
  Cut RegexItem.Takes regex.items text

/-- Marks carried on to the end of each run of characters of the class; `isOpen`
says that a run goes on from a mark before. -/
def spread (cls : CharClass) : Bool → List Char → List Bool → List Bool
  | isOpen, c :: text, mark :: marks =>
      let reached := mark || isOpen
      reached :: spread cls (reached && cls.holds c) text marks
  | isOpen, _, marks => marks.map (· || isOpen)

/-- The places that are reached through a step, from those that are marked. -/
def stepMarks (text : List Char) (marks : List Bool) : RegexStep → List Bool
  | .one cls => false :: List.zipWith (fun c mark => mark && cls.holds c) text marks
  | .many cls => spread cls false text marks

/-- The places that are reached through an item, from those that are marked. -/
def itemMarks (text : List Char) (marks : List Bool) : RegexItem → List Bool
  | .step s => stepMarks text marks s
  | .optional group => List.zipWith (· || ·) marks (group.foldl (stepMarks text) marks)

/-- Only the start of the text is marked. -/
def startMarks (text : List Char) : List Bool :=
  true :: text.map fun _ => false

/-- Decides whether the expression matches the text from end to end. -/
def fullMatch (regex : Regex) (text : List Char) : Bool :=
  (regex.items.foldl (itemMarks text) (startMarks text)).getLast? = some true

end Regex

end IgnoreRules
