import IgnoreRules.Text.Numeral
import IgnoreRules.Yaml.Character
import IgnoreRules.Yaml.Fault

/-!
# Quoted scalars

Between single quotes a quote is written twice and all else stands for itself.
Between double quotes a backslash starts an escape. In both, a line break with
the gaps around it is a space, and of several breaks in a row the first one is
dropped. A document marker must not start a line.
-/

namespace IgnoreRules.Yaml.Quoted

/-- Reads the breaks at the start of a line, and the gaps before the text that
follows; the break before the line has been read. -/
def readBreaks (text : List Char) : Except TextFault (List Char × List Char) :=
  if startsMarker text then .error (.malformed .markerInQuote)
  else
    match h : text.dropWhile isGap with
    | [] => .ok ([], [])
    | c :: rest =>
        have : rest.length < text.length := by
          have := (List.dropWhile_suffix isGap (l := text)).length_le
          rw [h] at this
          exact this
        if isBreak c then
          (readBreaks rest).map fun (breaks, rest) => (valueBreak c :: breaks, rest)
        else .ok ([], c :: rest)
termination_by text.length

theorem readBreaks_length {text breaks rest : List Char}
    (h : readBreaks text = .ok (breaks, rest)) : rest.length ≤ text.length := by
  fun_induction readBreaks text generalizing breaks rest with
  | case1 => cases h
  | case2 => cases h; exact Nat.zero_le _
  | case3 text _ c tail _ _ _ ih =>
      cases hb : readBreaks tail with
      | error fault => rw [hb] at h; cases h
      | ok result =>
          rw [hb] at h
          cases h
          have := ih hb
          omega
  | case4 => cases h; assumption

/-- Reads a gap, or a break with the gaps around it, and what it stands for. -/
def readGap (text : List Char) : Except TextFault (List Char × List Char) :=
  match text.dropWhile isGap with
  | [] => .error (.malformed .unclosedQuote)
  | c :: rest =>
      if isBreak c then
        (readBreaks rest).map fun (breaks, rest) =>
          (if valueBreak c ≠ '\n' then (valueBreak c :: breaks, rest)
          else if breaks = [] then ([' '], rest)
          else (breaks, rest))
      else .ok (text.takeWhile isGap, c :: rest)

/-- The character behind a backslash that stands for another one. -/
def simpleEscape? : Char → Option Char
  | '0' => some '\x00'
  | 'a' => some '\x07'
  | 'b' => some '\x08'
  | 't' => some '\t'
  | '\t' => some '\t'
  | 'n' => some '\n'
  | 'v' => some '\x0b'
  | 'f' => some '\x0c'
  | 'r' => some '\r'
  | 'e' => some '\x1b'
  | ' ' => some ' '
  | '"' => some '"'
  | '\\' => some '\\'
  | '/' => some '/'
  | 'N' => some '\u0085'
  | '_' => some '\u00a0'
  | 'L' => some '\u2028'
  | 'P' => some '\u2029'
  | _ => none

/-- How many digits an escape of a code point has. -/
def escapeWidth? : Char → Option Nat
  | 'x' => some 2
  | 'u' => some 4
  | 'U' => some 8
  | _ => none

/-- The character of a code point. A surrogate is a code point without a character: no text
can hold one, and the replacement character takes its place. -/
def charOfCode (code : Nat) : Except TextFault Char :=
  if 0xD800 ≤ code ∧ code < 0xE000 then .ok '\ufffd'
  else if code < 0x110000 then .ok (Char.ofNat code)
  else if code < 0x80000000 then .error (.scalar .codePointTooLarge)
  else .error (.scalar .overflow)

/-- Reads an escape from the text behind its backslash, and what it stands for. -/
def readEscape : List Char → Except TextFault (List Char × List Char)
  | [] => .error (.malformed .unknownEscape)
  | c :: rest =>
      match simpleEscape? c, escapeWidth? c with
      | some char, _ => .ok ([char], rest)
      | none, some width =>
          match Numeral.hex? width rest with
          | none => .error (.malformed .shortEscape)
          | some code => (charOfCode code).map fun char => ([char], rest.drop width)
      | none, none =>
          if isBreak c then readBreaks rest else .error (.malformed .unknownEscape)

/-- Reads one part of a quoted scalar: what it stands for and the text behind it,
or nothing for the text behind the closing quote. -/
def readPart (mark c : Char) (rest : List Char) :
    Except TextFault (Option (List Char) × List Char) :=
  if isGap c || isBreak c then
    (readGap (c :: rest)).map fun (part, rest) => (some part, rest)
  else if c = '\\' ∧ mark = '"' then
    (readEscape rest).map fun (part, rest) => (some part, rest)
  else if c = mark then
    match mark, rest with
    | '\'', '\'' :: rest => .ok (some ['\''], rest)
    | _, rest => .ok (none, rest)
  else .ok (some [c], rest)

theorem readGap_length {c : Char} {text part rest : List Char}
    (hc : (isGap c || isBreak c) = true) (h : readGap (c :: text) = .ok (part, rest)) :
    rest.length ≤ text.length := by
  unfold readGap at h
  by_cases hg : isGap c = true
  · rw [List.dropWhile_cons_of_pos hg] at h
    split at h
    · cases h
    · rename_i d tail heq
      have hle := (List.dropWhile_suffix isGap (l := text)).length_le
      rw [heq, List.length_cons] at hle
      split at h
      · cases hb : readBreaks tail with
        | error fault => rw [hb] at h; cases h
        | ok result =>
            have := readBreaks_length hb
            rw [hb] at h
            simp only [Except.map] at h
            repeat' split at h
            all_goals
              cases h
              omega
      · cases h
        exact hle
  · rw [List.dropWhile_cons_of_neg hg] at h
    have hb : isBreak c = true := by simpa [hg] using hc
    simp only [hb, if_true] at h
    cases hr : readBreaks text with
    | error fault => rw [hr] at h; cases h
    | ok result =>
        have := readBreaks_length hr
        rw [hr] at h
        simp only [Except.map] at h
        repeat' split at h
        all_goals
          cases h
          omega

theorem readEscape_length {text part rest : List Char}
    (h : readEscape text = .ok (part, rest)) : rest.length ≤ text.length := by
  unfold readEscape at h
  split at h
  · cases h
  · rename_i c tail
    simp only [List.length_cons]
    split at h
    · cases h
      omega
    · split at h
      · cases h
      · rename_i width _ code _
        cases hc : charOfCode code with
        | error fault => rw [hc] at h; cases h
        | ok char =>
            rw [hc] at h
            cases h
            rw [List.length_drop]
            omega
    · split at h
      · have := readBreaks_length h
        omega
      · cases h

theorem readPart_length {mark c : Char} {text rest : List Char} {part : Option (List Char)}
    (h : readPart mark c text = .ok (part, rest)) : rest.length ≤ text.length := by
  unfold readPart at h
  split at h
  · rename_i hc
    cases hg : readGap (c :: text) with
    | error fault => rw [hg] at h; cases h
    | ok result =>
        rw [hg] at h
        cases h
        exact readGap_length hc hg
  · split at h
    · cases he : readEscape text with
      | error fault => rw [he] at h; cases h
      | ok result =>
          rw [he] at h
          cases h
          exact readEscape_length he
    · split at h
      · split at h
        · cases h
          simp only [List.length_cons]
          omega
        · cases h
          exact Nat.le_refl _
      · cases h
        exact Nat.le_refl _

/-- Reads a quoted scalar from the text behind its opening quote, and the text
behind its closing one. -/
def read (mark : Char) (text : List Char) : Except TextFault (List Char × List Char) :=
  match text with
  | [] => .error (.malformed .unclosedQuote)
  | c :: text =>
      match h : readPart mark c text with
      | .error fault => .error fault
      | .ok (none, rest) => .ok ([], rest)
      | .ok (some part, rest) =>
          have := readPart_length h
          (read mark rest).map fun (text, rest) => (part ++ text, rest)
termination_by text.length

end IgnoreRules.Yaml.Quoted
