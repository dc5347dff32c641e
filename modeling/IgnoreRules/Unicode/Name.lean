import IgnoreRules.Unicode.Names.Alphabets
import IgnoreRules.Unicode.Names.Symbols
import IgnoreRules.Unicode.Names.EastAsia
import IgnoreRules.Unicode.Names.Ancient
import IgnoreRules.Unicode.Names.Notation
import IgnoreRules.Unicode.Names.Pictures
import IgnoreRules.Unicode.Names.Aliases

/-!
# Characters by name

Every character with a name of its own is listed in the packed tables under
`Names`. Two kinds of names follow a rule instead: a unified ideograph is named
by its code point, and a Hangul syllable by the short names of the letters it is
made of. Listed names may be asked for in either case; the two regular kinds
only as they are written here. All names are made up of letters, digits, blanks and
hyphens, so a text with any other character is not looked up.
-/

namespace IgnoreRules.Unicode

/-- The value of an upper-case hexadecimal numeral. -/
def readUpperHex? (digits : List Char) : Option Nat :=
  digits.foldl (fun value c => value.bind fun v =>
    if '0' ≤ c ∧ c ≤ '9' then some (16 * v + (c.toNat - 48))
    else if 'A' ≤ c ∧ c ≤ 'F' then some (16 * v + (c.toNat - 55))
    else none) (some 0)

/-- Unpacks a list of names. Each entry gives its code point and an equals sign,
or belongs to the next code point. A lower-case letter says how many words the
name shares with the one before, `a` for one; the other words follow. -/
def readNames : List String → List String → Nat → List (Nat × String)
  | [], _, _ => []
  | entry :: entries, previous, next =>
      let (code, written) := match entry.splitOn "=" with
        | [digits, name] => ((readUpperHex? digits.toList).getD next, name)
        | _ => (next, entry)
      let words := match written.toList with
        | c :: rest =>
            if c.isLower then
              previous.take (c.toNat - 96) ++
                (if rest = [] then [] else (String.ofList rest).splitOn " ")
            else written.splitOn " "
        | [] => []
      (code, " ".intercalate words) :: readNames entries words (code + 1)

/-- The entries of a packed table. -/
def unpackNames (packed : String) : List (Nat × String) :=
  readNames (((packed.replace "\n" "").splitOn ";").filter (· ≠ "")) [] 0

/-- The packed tables, searched in this order. -/
def nameTables : List String :=
  [alphabetsNames, symbolsNames, eastAsiaNames, ancientNames, notationNames,
   picturesNames, aliasNames]

/-- All listed names with their code points. They are unpacked once, when the first
name is looked up. -/
def listedNames : Thunk (List (Nat × String)) :=
  Thunk.mk fun _ => nameTables.flatMap unpackNames

/-- Short names of the letters that begin a syllable. -/
def leadingLetters : List String :=
  ["G", "GG", "N", "D", "DD", "R", "M", "B", "BB", "S", "SS", "", "J", "JJ", "C",
   "K", "T", "P", "H"]

/-- Short names of the vowels of a syllable. -/
def vowelLetters : List String :=
  ["A", "AE", "YA", "YAE", "EO", "E", "YEO", "YE", "O", "WA", "WAE", "OE", "YO",
   "U", "WEO", "WE", "WI", "YU", "EU", "YI", "I"]

/-- Short names of the letters that end a syllable. -/
def trailingLetters : List String :=
  ["", "G", "GG", "GS", "N", "NJ", "NH", "D", "L", "LG", "LM", "LB", "LS", "LT",
   "LP", "LH", "M", "B", "BS", "S", "SS", "NG", "J", "C", "K", "T", "P", "H"]

/-- The names of the syllables, in the order of their code points. -/
def syllableNames : List String :=
  leadingLetters.flatMap fun l => vowelLetters.flatMap fun v =>
    trailingLetters.map fun t => l ++ v ++ t

/-- The runs of unified ideographs. -/
def ideographRuns : List (Nat × Nat) :=
  [(0x3400, 0x4DBF), (0x4E00, 0x9FFF), (0x20000, 0x2A6DF), (0x2A700, 0x2B738),
   (0x2B740, 0x2B81D), (0x2B820, 0x2CEA1), (0x2CEB0, 0x2EBE0), (0x30000, 0x3134A)]

/-- The code point of an ideograph, from the digits that its name ends in. -/
def ideograph? (digits : List Char) : Option Nat :=
  if digits.length = 4 ∨ digits.length = 5 then
    (readUpperHex? digits).filter fun code =>
      ideographRuns.any fun (first, last) => first ≤ code && code ≤ last
  else
    none

/-- The character may stand in a name. -/
def isNameCharacter (c : Char) : Bool :=
  c.isAlphanum || c = ' ' || c = '-'

/-- The code point of the character with a given name. -/
def characterNamed? (name : List Char) : Option Nat :=
  let syllable := "HANGUL SYLLABLE ".toList
  let ideograph := "CJK UNIFIED IDEOGRAPH-".toList
  if !name.all isNameCharacter then none
  else if syllable.isPrefixOf name then
    (syllableNames.idxOf? (String.ofList (name.drop syllable.length))).map (0xAC00 + ·)
  else if ideograph.isPrefixOf name then
    ideograph? (name.drop ideograph.length)
  else
    let wanted := String.ofList (name.map Char.toUpper)
    (listedNames.get.find? fun (_, known) => known = wanted).map (·.1)

theorem isNameCharacter_of_mem {name : List Char} {code : Nat}
    (h : characterNamed? name = some code) {c : Char} (hmem : c ∈ name) :
    isNameCharacter c = true := by
  rw [characterNamed?] at h
  split at h
  · cases h
  · next hall =>
      rw [Bool.not_eq_true', Bool.not_eq_false] at hall
      exact List.all_eq_true.1 hall c hmem

end IgnoreRules.Unicode
