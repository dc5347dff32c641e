/-!
# Rule lines

A rule line is one line of an ignore file. It denotes a rule, or nothing when it
is blank or a comment. A rule is a glob body with three marks that the line
writes around it: a leading `!` negates, a trailing unescaped `/` restricts the
rule to directories, and a `/` at the start or inside anchors it.

What counts as escaped is decided by parity alone: a character is escaped when
an odd number of backslashes stands directly before it. The backslashes stay in
the body, where the glob reader gives them their meaning.
-/

namespace IgnoreRules

/-- How many backslashes stand at the end of a text. -/
def trailingBackslashes (text : List Char) : Nat :=
  (text.reverse.takeWhile (· = '\\')).length

/-- A backslash continues the run that it stands behind, and any other character ends it. -/
theorem trailingBackslashes_concat (before : List Char) (c : Char) :
    trailingBackslashes (before ++ [c]) =
      if c = '\\' then trailingBackslashes before + 1 else 0 := by
  rw [trailingBackslashes, List.reverse_append, List.reverse_singleton, List.singleton_append,
    List.takeWhile_cons]
  by_cases hc : c = '\\'
  · rw [if_pos (decide_eq_true hc), if_pos hc, List.length_cons, trailingBackslashes]
  · rw [if_neg (by simpa using hc), if_neg hc, List.length_nil]

theorem trailingBackslashes_append_cons {c : Char} (hc : c ≠ '\\') (before rest : List Char) :
    trailingBackslashes (before ++ c :: rest) = trailingBackslashes rest := by
  rw [trailingBackslashes, trailingBackslashes, List.reverse_append, List.reverse_cons,
    List.append_assoc, List.singleton_append, List.takeWhile_append]
  split
  · next hall =>
      rw [List.takeWhile_cons_of_neg (by simpa using hc), List.append_nil]
      exact hall.symm
  · rfl

/-- A character after `before` is escaped: the backslashes before it are odd. -/
def escapesNext (before : List Char) : Bool :=
  trailingBackslashes before % 2 = 1

theorem escapesNext_concat (before : List Char) (c : Char) :
    escapesNext (before ++ [c]) = (decide (c = '\\') && !escapesNext before) := by
  rw [escapesNext, escapesNext, trailingBackslashes_concat]
  by_cases hc : c = '\\'
  · have hparity : (trailingBackslashes before + 1) % 2 = 1 ↔
        ¬ trailingBackslashes before % 2 = 1 := by omega
    rw [if_pos hc, decide_eq_true hc, Bool.true_and, ← decide_not, decide_eq_decide]
    exact hparity
  · rw [if_neg hc, decide_eq_false hc]
    rfl

/-- All that counts of the text in front is whether it escapes what follows. -/
theorem escapesNext_append_congr {before before' : List Char}
    (h : escapesNext before = escapesNext before') (text : List Char) :
    escapesNext (before ++ text) = escapesNext (before' ++ text) := by
  induction text generalizing before before' with
  | nil => rw [List.append_nil, List.append_nil, h]
  | cons c text ih =>
      rw [List.append_cons, List.append_cons before']
      refine ih ?_
      rw [escapesNext_concat, escapesNext_concat, h]

/-- Text that does not escape what follows can be left out. -/
theorem escapesNext_append {before : List Char} (h : escapesNext before = false)
    (text : List Char) : escapesNext (before ++ text) = escapesNext text :=
  have hnil : escapesNext before = escapesNext [] := h
  escapesNext_append_congr hnil text

theorem escapesNext_cons {c : Char} (hc : c ≠ '\\') (text : List Char) :
    escapesNext (c :: text) = escapesNext text := by
  have hsingle : escapesNext ([] ++ [c]) = false := by
    rw [escapesNext_concat, decide_eq_false hc, Bool.false_and]
  exact escapesNext_append hsingle text

/-- An escaped character escapes nothing in its turn. -/
theorem escapesNext_escaped (c : Char) (text : List Char) :
    escapesNext ('\\' :: c :: text) = escapesNext text := by
  have hpair : escapesNext (['\\'] ++ [c]) = false := by
    rw [escapesNext_concat]
    exact Bool.and_false _
  exact escapesNext_append hpair text

theorem escapesNext_of_not_mem {text : List Char} (h : '\\' ∉ text) :
    escapesNext text = false := by
  induction text with
  | nil => rfl
  | cons c text ih =>
      obtain ⟨hc, htext⟩ := List.ne_and_not_mem_of_not_mem_cons h
      rw [escapesNext_cons hc.symm, ih htext]

theorem escapesNext_eq_false_iff {before : List Char} :
    escapesNext before = false ↔ trailingBackslashes before % 2 = 0 := by
  rw [escapesNext, decide_eq_false_iff_not]
  omega

/-- Blanks are the characters that do not count at the end of a line. -/
def isBlank (c : Char) : Bool :=
  c = ' ' || c = '\t'

/-- Drops unescaped blanks from the front of a line written backwards. -/
def dropBlanksReversed : List Char → List Char
  | [] => []
  | c :: before =>
      if isBlank c && !escapesNext before.reverse then dropBlanksReversed before
      else c :: before

/-- Drops the blanks at the end of a line, up to the last escaped one. -/
def stripBlanks (line : List Char) : List Char :=
  (dropBlanksReversed line.reverse).reverse

theorem stripBlanks_concat (line : List Char) (c : Char) :
    stripBlanks (line ++ [c]) =
      if isBlank c && !escapesNext line then stripBlanks line else line ++ [c] := by
  rw [stripBlanks, List.reverse_append, List.reverse_singleton, List.singleton_append,
    dropBlanksReversed, List.reverse_reverse]
  split
  · rfl
  · rw [List.reverse_cons, List.reverse_reverse]

/-- One rule: a glob body and what the line says about its use. -/
structure Rule where
  /-- The glob, without the marks. -/
  body : List Char
  /-- The rule takes matching paths back in. -/
  negation : Bool
  /-- The rule speaks of directories only. -/
  directoryOnly : Bool
  /-- The body starts at the top; otherwise at any segment. -/
  anchored : Bool
  deriving DecidableEq, Repr

namespace Rule

/-- Splits off a leading `!`. -/
def splitSign : List Char → Bool × List Char
  | '!' :: rest => (true, rest)
  | text => (false, text)

/-- Splits off an unescaped `/` at the end. -/
def splitMarker (text : List Char) : Bool × List Char :=
  if text.getLast? = some '/' ∧ escapesNext text.dropLast = false then
    (true, text.dropLast)
  else
    (false, text)

theorem splitMarker_concat (text : List Char) (c : Char) :
    splitMarker (text ++ [c]) =
      if c = '/' ∧ escapesNext text = false then (true, text) else (false, text ++ [c]) := by
  simp only [splitMarker, List.getLast?_concat, List.dropLast_concat, Option.some.injEq]

/-- Splits off a `/` at the start; a `/` further on anchors as well. -/
def splitAnchor : List Char → Bool × List Char
  | '/' :: rest => (true, rest)
  | text => (text.contains '/', text)

/-- The rule that a line denotes. Comments, blank lines and lines that hold only
marks denote none. -/
def ofLine? (line : List Char) : Option Rule :=
  if line.head? = some '#' then none
  else
    let (negation, text) := splitSign (stripBlanks line)
    let (directoryOnly, text) := splitMarker text
    let (anchored, body) := splitAnchor text
    if body = [] then none
    else some { body, negation, directoryOnly, anchored }

/-- A line denotes a rule when the marks split off in turn are those of the rule and what
is left is its body. -/
theorem ofLine?_eq_some_iff {line : List Char} {rule : Rule} :
    ofLine? line = some rule ↔ line.head? ≠ some '#' ∧
      ∃ unsigned path, splitSign (stripBlanks line) = (rule.negation, unsigned) ∧
        splitMarker unsigned = (rule.directoryOnly, path) ∧
        splitAnchor path = (rule.anchored, rule.body) ∧ rule.body ≠ [] := by
  rw [ofLine?]
  constructor
  · intro h
    split at h
    · cases h
    · next hcomment =>
        dsimp only at h
        split at h
        · cases h
        · next hbody =>
            cases h
            exact ⟨hcomment, _, _, rfl, rfl, rfl, hbody⟩
  · intro h
    obtain ⟨hcomment, unsigned, path, hsign, hmarker, hanchor, hbody⟩ := h
    rw [if_neg hcomment, hsign]
    dsimp only
    rw [hmarker]
    dsimp only
    rw [hanchor]
    exact if_neg hbody

/-- The canonical spelling of a rule. -/
def toLine (rule : Rule) : List Char :=
  (if rule.negation then ['!'] else []) ++ (if rule.anchored then ['/'] else []) ++
    rule.body ++ (if rule.directoryOnly then ['/'] else [])

end Rule

end IgnoreRules
