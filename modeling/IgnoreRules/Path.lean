import IgnoreRules.Text.Split

/-!
# Paths

A path is read as where it starts and the names it goes through. Repeated
slashes, `.` and a slash at the end say nothing and are dropped; `..` is kept,
since it may leave through a link. Two slashes at the start, and no more, are a
start of their own.

The home directory is written `~`, and that of another user `~name`: a relative path
that starts with one is expanded. Texts that show paths are compacted back to `~`.
-/

namespace IgnoreRules

/-- Where a path starts. -/
inductive Path.Anchor where
  | relative
  | root
  | doubleRoot
  deriving DecidableEq, Repr

/-- A path: where it starts and the names it goes through. -/
structure Path where
  /-- Where the path starts. -/
  anchor : Path.Anchor
  /-- The names, none of them empty, `.` or with a slash. -/
  parts : List (List Char)
  deriving DecidableEq, Repr

namespace Path

/-- The start of a path, as text. -/
def Anchor.toText : Anchor → List Char
  | .relative => []
  | .root => ['/']
  | .doubleRoot => ['/', '/']

/-- The start that a text has. -/
def Anchor.ofText (text : List Char) : Anchor :=
  match (text.takeWhile (· = '/')).length with
  | 0 => .relative
  | 2 => .doubleRoot
  | _ => .root

/-- The path that a text denotes. -/
def ofText (text : List Char) : Path :=
  { anchor := .ofText text
    parts := (pieces '/' text).filter fun piece => piece ≠ [] ∧ piece ≠ ['.'] }

/-- The text of a path; that of no names at all is `.`. -/
def toText (path : Path) : List Char :=
  if path = ⟨.relative, []⟩ then ['.']
  else path.anchor.toText ++ ['/'].intercalate path.parts

/-- The path does not depend on where it is used. -/
def isAbsolute (path : Path) : Bool :=
  path.anchor ≠ .relative

/-- The top. -/
def top : Path :=
  ⟨.root, []⟩

/-- The path as seen from a base. -/
def join (base path : Path) : Path :=
  if path.isAbsolute then path
  else { base with parts := base.parts ++ path.parts }

theorem join_of_isAbsolute {path : Path} (h : path.isAbsolute = true) (base : Path) :
    base.join path = path :=
  if_pos h

theorem isAbsolute_join {base : Path} (h : base.isAbsolute = true) (path : Path) :
    (base.join path).isAbsolute = true := by
  by_cases hpath : path.isAbsolute = true
  · rw [join_of_isAbsolute hpath]
    exact hpath
  · rw [join, if_neg hpath]
    exact h

/-- The directory a path lies in; the top lies in itself. -/
def parent (path : Path) : Path :=
  { path with parts := path.parts.dropLast }

/-- A path with its `..` resolved by name; above the top there is only the top. -/
def collapse (path : Path) : Path :=
  { anchor := .root
    parts := path.parts.foldl
      (fun parts part => if part = ['.', '.'] then parts.dropLast else parts ++ [part]) [] }

/-- Puts the home directory of a user in place of a leading `~` and the name behind it. -/
def expandHome? (path : Path) (homeOf? : List Char → Option Path) : Option Path :=
  match path.anchor, path.parts with
  | .relative, ('~' :: name) :: rest =>
      (homeOf? name).map fun home => { home with parts := home.parts ++ rest }
  | _, _ => some path

theorem expandHome?_of_isAbsolute {path : Path} (h : path.isAbsolute = true)
    (homeOf? : List Char → Option Path) : path.expandHome? homeOf? = some path := by
  rw [expandHome?]
  split
  · next hanchor _ => simp [isAbsolute, hanchor] at h
  · rfl

/-- The home directory that a setting names: slashes at its end say nothing, and
a setting that starts with `~` names none. -/
def ofHomeSetting? (setting : List Char) : Option Path :=
  let text := (setting.reverse.dropWhile (· = '/')).reverse
  match text with
  | [] => some top
  | '~' :: _ => none
  | text => some (ofText text)

end Path

/-- The text behind a beginning. -/
def dropBeginning? : List Char → List Char → Option (List Char)
  | [], text => some text
  | _ :: _, [] => none
  | b :: beginning, c :: text => if b = c then dropBeginning? beginning text else none

/-- A path under the home directory, written with `~`. -/
def compactHome (home : Path) (text : List Char) : List Char :=
  if text = home.toText then ['~']
  else match dropBeginning? (home.toText ++ ['/']) text with
    | some rest => '~' :: '/' :: rest
    | none => text

/-- Replaces every occurrence of a text, from left to right; `skip` characters
belong to an occurrence that has been replaced. -/
def replaceFrom (pattern replacement : List Char) : Nat → List Char → List Char
  | _, [] => []
  | skip + 1, _ :: rest => replaceFrom pattern replacement skip rest
  | 0, c :: rest =>
      if pattern.isPrefixOf (c :: rest) then
        replacement ++ replaceFrom pattern replacement (pattern.length - 1) rest
      else
        c :: replaceFrom pattern replacement 0 rest

/-- A text that mentions paths, with the home directory written `~` in all. -/
def compactHomeInText (home : Path) (text : List Char) : List Char :=
  if text = home.toText then ['~']
  else replaceFrom (home.toText ++ ['/']) ['~', '/'] 0 text

end IgnoreRules
