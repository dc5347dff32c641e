import IgnoreRules.Markup

/-!
# The usual display

A display to run the program with. It reads the names of styles, which may be made up of
several words: attributes, some of which have short forms, colours and a link. Names that
come to the same style count as one.

It stands in for the library that is used in earnest, and is not all of it. It knows no
pictures, it tells large letters from small ones in ASCII only, and of the arguments of
handlers it reads names and lists of simple values.
-/

namespace IgnoreRules.Markup

/-! ## Names of styles -/

/-- The text without spaces at its ends. -/
def trim (text : List Char) : List Char :=
  ((text.dropWhile Unicode.isSpace).reverse.dropWhile Unicode.isSpace).reverse

/-- The words of a text. -/
def wordsOf (text : List Char) : List (List Char) :=
  (pieces ' ' (text.map fun c => if Unicode.isSpace c then ' ' else c)).filter (· ≠ [])

/-- The styles that words name, in the order in which they are listed. -/
def styles : List String :=
  ["bold", "dim", "italic", "underline", "blink", "blink2", "reverse", "conceal", "strike",
    "underline2", "frame", "encircle", "overline"]

/-- The short words for styles. -/
def shortStyles : List (String × String) :=
  [("b", "bold"), ("d", "dim"), ("i", "italic"), ("u", "underline"), ("r", "reverse"),
    ("c", "conceal"), ("s", "strike"), ("uu", "underline2"), ("o", "overline")]

/-- The style that a word names. -/
def style? (word : List Char) : Option String :=
  styles.find? (·.toList = word) <|> (shortStyles.find? (·.1.toList = word)).map (·.2)

/-- The colours with a name. -/
def colors : List (List Char) :=
  pieces ' ' (
    "black red green yellow blue magenta cyan white bright_black bright_red bright_green " ++
    "bright_yellow bright_blue bright_magenta bright_cyan bright_white grey0 gray0 navy_blue " ++
    "dark_blue blue3 blue1 dark_green deep_sky_blue4 dodger_blue3 dodger_blue2 green4 " ++
    "spring_green4 turquoise4 deep_sky_blue3 dodger_blue1 green3 spring_green3 dark_cyan " ++
    "light_sea_green deep_sky_blue2 deep_sky_blue1 spring_green2 cyan3 dark_turquoise " ++
    "turquoise2 green1 spring_green1 medium_spring_green cyan2 cyan1 dark_red deep_pink4 " ++
    "purple4 purple3 blue_violet orange4 grey37 gray37 medium_purple4 slate_blue3 royal_blue1 " ++
    "chartreuse4 dark_sea_green4 pale_turquoise4 steel_blue steel_blue3 cornflower_blue " ++
    "chartreuse3 cadet_blue sky_blue3 steel_blue1 pale_green3 sea_green3 aquamarine3 " ++
    "medium_turquoise chartreuse2 sea_green2 sea_green1 aquamarine1 dark_slate_gray2 " ++
    "dark_magenta dark_violet purple light_pink4 plum4 medium_purple3 slate_blue1 yellow4 " ++
    "wheat4 grey53 gray53 light_slate_grey light_slate_gray medium_purple light_slate_blue " ++
    "dark_olive_green3 dark_sea_green light_sky_blue3 sky_blue2 dark_sea_green3 " ++
    "dark_slate_gray3 sky_blue1 chartreuse1 light_green pale_green1 dark_slate_gray1 red3 " ++
    "medium_violet_red magenta3 dark_orange3 indian_red hot_pink3 medium_orchid3 medium_orchid " ++
    "medium_purple2 dark_goldenrod light_salmon3 rosy_brown grey63 gray63 medium_purple1 gold3 " ++
    "dark_khaki navajo_white3 grey69 gray69 light_steel_blue3 light_steel_blue yellow3 " ++
    "dark_sea_green2 light_cyan3 light_sky_blue1 green_yellow dark_olive_green2 dark_sea_green1 " ++
    "pale_turquoise1 deep_pink3 magenta2 hot_pink2 orchid medium_orchid1 orange3 light_pink3 " ++
    "pink3 plum3 violet light_goldenrod3 tan misty_rose3 thistle3 plum2 khaki3 light_goldenrod2 " ++
    "light_yellow3 grey84 gray84 light_steel_blue1 yellow2 dark_olive_green1 honeydew2 " ++
    "light_cyan1 red1 deep_pink2 deep_pink1 magenta1 orange_red1 indian_red1 hot_pink " ++
    "dark_orange salmon1 light_coral pale_violet_red1 orchid2 orchid1 orange1 sandy_brown " ++
    "light_salmon1 light_pink1 pink1 plum1 gold1 navajo_white1 misty_rose1 thistle1 yellow1 " ++
    "light_goldenrod1 khaki1 wheat1 cornsilk1 grey100 gray100 grey3 gray3 grey7 gray7 grey11 " ++
    "gray11 grey15 gray15 grey19 gray19 grey23 gray23 grey27 gray27 grey30 gray30 grey35 gray35 " ++
    "grey39 gray39 grey42 gray42 grey46 gray46 grey50 gray50 grey54 gray54 grey58 gray58 grey62 " ++
    "gray62 grey66 gray66 grey70 gray70 grey74 gray74 grey78 gray78 grey82 gray82 grey85 gray85 " ++
    "grey89 gray89 grey93 gray93").toList

/-- The number that digits write. -/
def numberOf (digits : List Char) : Nat :=
  digits.foldl (fun number digit => 10 * number + (Unicode.decimalValue? digit).getD 0) 0

/-- What stands between a beginning and a closing parenthesis. -/
def inside? (beginning : String) (word : List Char) : Option (List Char) :=
  if beginning.toList.isPrefixOf word && word.getLast? = some ')' then
    some (word.drop beginning.length).dropLast
  else none

/-- The largest number in a colour. -/
def colorLimit : Nat :=
  255

/-- The word names a colour: by its name, in digits behind `#`, by a number, or by three. Not
even three numbers are read where one is left out. -/
def isColor (word : List Char) : Except Fault Bool :=
  if word = "default".toList || colors.contains word then .ok true
  else match word, inside? "color(" word, inside? "rgb(" word with
  | '#' :: digits, _, _ =>
      .ok (digits.length = 6 && digits.all fun c => c.isDigit || ('a' ≤ c && c ≤ 'f'))
  | _, some digits, _ =>
      .ok (1 ≤ digits.length && digits.length ≤ 3 && digits.all Char.isDigit &&
        numberOf digits ≤ colorLimit)
  | _, _, some numbers =>
      let numbers := pieces ',' numbers
      if numbers.length = 3 && numbers.flatten.all fun c => (Unicode.decimalValue? c).isSome then
        if numbers.contains [] then .error .badName
        else .ok (numbers.all (numberOf · ≤ colorLimit))
      else .ok false
  | _, _, _ => .ok false

/-- A style as its words make it. -/
structure Style where
  /-- The attributes that are set or unset, the last one first. -/
  settings : List (String × Bool)
  /-- The colour. -/
  color : Option (List Char)
  /-- The colour behind the text. -/
  background : Option (List Char)
  /-- Where the text leads to. -/
  link : Option (List Char)

namespace Style

/-- The style that words make of another one, if they can be read as a style. -/
def addWords (style : Style) : List (List Char) → Except Fault (Option Style)
  | [] => .ok (some style)
  | word :: words => do
      let word := word.map Char.toLower
      if word = "on".toList then
        match words with
        | color :: words =>
            let color := color.map Char.toLower
            if ← isColor color then addWords { style with background := some color } words
            else return none
        | [] => return none
      else if word = "not".toList then
        match words with
        | unset :: words =>
            match style? unset with
            | some unset =>
                addWords { style with settings := (unset, false) :: style.settings } words
            | none => return none
        | [] => return none
      else if word = "link".toList then
        match words with
        | link :: words => addWords { style with link := some link } words
        | [] => return none
      else
        match style? word with
        | some set =>
            addWords { style with settings := (set, true) :: style.settings } words
        | none =>
            if ← isColor word then addWords { style with color := some word } words
            else return none

/-- A style that is set or unset, in words. -/
def settingText (style : String) (isSet : Bool) : List Char :=
  if isSet then style.toList else "not ".toList ++ style.toList

/-- A style in words: its attributes in order, the last setting of each, and then its colours
and its link. -/
def toText (style : Style) : List Char :=
  let attributes := styles.filterMap fun name =>
    (style.settings.lookup name).map (settingText name)
  let background := style.background.toList.flatMap (["on".toList, ·])
  let link := style.link.toList.flatMap (["link".toList, ·])
  let words := attributes ++ style.color.toList ++ background ++ link
  if words = [] then "none".toList else [' '].intercalate words

end Style

/-- A name as it is compared: the words of the style that it makes, or else the name in small
letters. -/
def nameOf (text : List Char) : Except Fault (List Char) := do
  if trim text = "none".toList then return "none".toList
  match ← Style.addWords ⟨[], none, none, none⟩ (wordsOf text) with
  | some style => return style.toText
  | none => return (trim text).map Char.toLower

/-! ## Arguments of handlers -/

/-- The text is one value among the arguments of a handler: a whole number, a word for
a truth value or for nothing, or a text in quotes. -/
def isArgument (text : List Char) : Bool :=
  let isQuoted (mark : Char) : Bool :=
    2 ≤ text.length && text.head? = some mark && text.getLast? = some mark &&
      (text.drop 1).dropLast.all fun c => c ≠ mark && c ≠ '\\' && c ≠ '\n'
  isQuoted '\'' || isQuoted '"' || text = ['0'] ||
    (text.all Char.isDigit && text.head?.any (· ≠ '0')) ||
    ["True", "False", "None"].any (·.toList = text)

/-- The text is a list of arguments; there may be a comma behind the last one. -/
def isArgumentList (text : List Char) : Bool :=
  let arguments := (pieces ',' text).map trim
  arguments = [[]] || arguments.dropLast.all isArgument && arguments.getLast?.any fun last =>
    isArgument last || (last = [] && 1 < arguments.length)

/-- The character may stand in the name of a handler. -/
def isHandlerChar (c : Char) : Bool :=
  Unicode.isWord c || c = '.'

/-- The arguments of a handler can be read: there is a name, with or without a list in
parentheses, or just values. -/
def isReadable (arguments : List Char) : Bool :=
  let arguments := trim arguments
  match arguments.dropWhile isHandlerChar with
  | [] => true
  | '(' :: list =>
      !arguments.contains '\n' && list.getLast? = some ')' && isArgumentList list.dropLast
  | _ => !arguments.contains '\n' && isArgumentList arguments

/-! ## Tags -/

/-- A tag that opens a style. -/
structure Tag where
  /-- The name of the style. -/
  name : List Char
  /-- The text behind the equals sign, if there is one. -/
  arguments : List Char
  deriving DecidableEq, Repr

/-- The styles that are open after one of them is closed, from the one opened last. -/
def close (tag : Tag) (styles : List Tag) : Except Fault (List Tag) :=
  if tag.name.head? = some '@' && tag.arguments ≠ [] && !isReadable tag.arguments then
    .error .badArguments
  else .ok (styles.erase tag)

/-- The styles that are open behind a tag. -/
def applyTag (inside : List Char) (styles : List Tag) : Except Fault (List Tag) := do
  let written := inside.takeWhile (· ≠ '=')
  match written with
  | '/' :: name =>
      let name := trim name
      let name ← if name = [] then pure [] else nameOf name
      match styles.find? fun tag => name = [] || tag.name = name with
      | some tag => close tag styles
      | none => throw .notOpen
  | _ =>
      let arguments := (inside.dropWhile (· ≠ '=')).drop 1
      return { name := ← nameOf written, arguments } :: styles

/-- What is wrong with the parts of markup, with the styles that are open before them. -/
def faultFrom : List Tag → List Part → Option Fault
  | _, [] => none
  | styles, .plain _ :: parts => faultFrom styles parts
  | styles, .tag inside :: parts =>
      match applyTag inside styles with
      | .ok styles => faultFrom styles parts
      | .error fault => some fault

theorem faultFrom_append {before : List Part} (h : ∀ part ∈ before, part.isPlain = true)
    (styles : List Tag) (after : List Part) :
    faultFrom styles (before ++ after) = faultFrom styles after := by
  induction before with
  | nil => rfl
  | cons part before ih =>
      obtain ⟨hpart, hbefore⟩ := List.forall_mem_cons.1 h
      cases part with
      | plain text => exact ih hbefore
      | tag inside => cases hpart

/-- Nothing is open that a tag at the start could close. -/
theorem exists_applyTag_closing (name : List Char) :
    ∃ fault, applyTag ('/' :: name) [] = .error fault := by
  have hwritten : ('/' :: name).takeWhile (· ≠ '=') = '/' :: name.takeWhile (· ≠ '=') :=
    List.takeWhile_cons_of_pos (by decide)
  rw [applyTag]
  simp only [hwritten]
  split
  · exact ⟨.notOpen, rfl⟩
  · cases nameOf (trim (name.takeWhile (· ≠ '='))) with
    | ok compared => exact ⟨.notOpen, rfl⟩
    | error fault => exact ⟨fault, rfl⟩

/-- The usual display. -/
instance : Display where
  picture? _ := none
  fault? := faultFrom []
  not_mem_picture h := nomatch h
  fault?_plain h := by
    have hnone := faultFrom_append h [] []
    rwa [List.append_nil] at hnone
  fault?_closing h := by
    obtain ⟨fault, hfault⟩ := exists_applyTag_closing _
    rw [faultFrom_append h, faultFrom, hfault]
    rfl

end IgnoreRules.Markup
