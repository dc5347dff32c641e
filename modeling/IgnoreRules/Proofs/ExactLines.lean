import Mathlib.Data.List.Induction
import IgnoreRules.Proofs.LineByLine
import IgnoreRules.Proofs.Translation

/-!
# A line for every path

A path may have any characters in it, and some of them mean something in a line: blanks
at its end, a slash at its end, a `!` or `#` in front, stars and brackets, backslashes.
A backslash before each character takes all these meanings away, so every path has a line
that names it and no other path.

Backslashes are read in several places, and in two ways. The tokens read them in pairs
from the front; blanks and the directory marker at the end look back at the run before
them and count. Both come to the same here, since the run before a character consists of
the one backslash of its own and of whole pairs: it is odd, whatever stands further in
front.
-/

namespace IgnoreRules

namespace Glob

/-- The text with a backslash before each character. -/
def escapeAll (text : List Char) : List Char :=
  text.flatMap fun c => ['\\', c]

theorem tokens_escapeAll (text : List Char) :
    tokens (escapeAll text) = text.map .escaped := by
  induction text with
  | nil => rw [escapeAll, List.flatMap_nil, tokens, List.map_nil]
  | cons c text ih =>
      show tokens ('\\' :: c :: escapeAll text) = _
      rw [tokens, ih, List.map_cons]

/-- Each escaped character takes itself. -/
theorem cut_escaped_iff {text path : List Char} :
    Cut Token.Takes (text.map .escaped) path ↔ path = text := by
  induction text generalizing path with
  | nil => exact cut_nil_iff
  | cons c text ih =>
      rw [List.map_cons, cut_cons_iff]
      simp only [ih, Token.Takes]
      constructor
      · intro h
        obtain ⟨piece, rest, hpiece, hrest, hpath⟩ := h
        rw [← hpath, hpiece, hrest]
        rfl
      · intro h
        exact ⟨[c], text, rfl, rfl, h.symm⟩

/-- The expression of an escaped text reads, and matches that text alone. -/
theorem exists_regex_escapeAll (text : List Char) :
    ∃ regex, Glob.regex (escapeAll text) true = .ok regex ∧
      ∀ path, regex.Matches path ↔ path = text := by
  have htokens : ∀ token ∈ tokens (escapeAll text), token.IsPlain ∧ ¬ token.IsClass := by
    intro token hmem
    rw [tokens_escapeAll] at hmem
    obtain ⟨c, _, htoken⟩ := List.mem_map.1 hmem
    rw [← htoken]
    exact ⟨trivial, id⟩
  have hplain : ∀ token ∈ tokens (escapeAll text), token.IsPlain :=
    fun token hmem => (htokens token hmem).1
  obtain ⟨regex, hregex⟩ := (exists_regex_iff hplain true).2 fun token hmem hclass =>
    absurd hclass (htokens token hmem).2
  refine ⟨regex, hregex, fun path => ?_⟩
  rw [← Regex.fullMatch_iff, fullMatch_iff_matchesFrom hplain hregex, ← cut_anchoredTokens_iff,
    anchoredTokens, if_pos rfl, tokens_escapeAll, cut_escaped_iff]

end Glob

namespace Rule

/-- The line that names a path from the top, with all its characters escaped. -/
def exactLine (path : List Char) : List Char :=
  '/' :: Glob.escapeAll path

theorem exactLine_concat (path : List Char) (c : Char) :
    exactLine (path ++ [c]) = exactLine path ++ ['\\'] ++ [c] := by
  rw [exactLine, Glob.escapeAll, List.flatMap_append, List.flatMap_singleton, List.append_assoc]
  rfl

/-- What comes next is not escaped: every backslash of the line is either the one before a
character, or such a character. -/
theorem escapesNext_exactLine (path : List Char) : escapesNext (exactLine path) = false := by
  induction path using List.reverseRecOn with
  | nil => rfl
  | append_singleton path c ih =>
      rw [exactLine_concat, escapesNext_concat, escapesNext_concat, ih]
      simp

/-- The last character of the line is an escaped one. -/
theorem exists_exactLine_eq {path : List Char} (hpath : path ≠ []) :
    ∃ before last, exactLine path = before ++ [last] ∧ escapesNext before = true := by
  obtain ⟨init, last, hpath⟩ := (List.eq_nil_or_concat' path).resolve_left hpath
  refine ⟨exactLine init ++ ['\\'], last, ?_, ?_⟩
  · rw [hpath, exactLine_concat]
  · rw [escapesNext_concat, escapesNext_exactLine]
    rfl

/-- The line denotes a rule with no mark but the anchor, and nothing of the path is lost. -/
theorem ofLine?_exactLine {path : List Char} (hpath : path ≠ []) :
    ofLine? (exactLine path) = some
      { body := Glob.escapeAll path, negation := false, directoryOnly := false,
        anchored := true } := by
  obtain ⟨before, last, hline, hescapes⟩ := exists_exactLine_eq hpath
  have hstrip : stripBlanks (exactLine path) = exactLine path := by
    rw [hline, stripBlanks_concat, hescapes, Bool.not_true, Bool.and_false,
      if_neg Bool.false_ne_true]
  have hmarker : splitMarker (exactLine path) = (false, exactLine path) := by
    rw [hline, splitMarker_concat, if_neg]
    intro h
    rw [hescapes] at h
    cases h.2
  have hcomment : (exactLine path).head? ≠ some '#' := by
    intro h
    cases h
  have hbody : Glob.escapeAll path ≠ [] := by
    cases path with
    | nil => exact absurd rfl hpath
    | cons c path =>
        intro h
        cases h
  refine ofLine?_eq_some_iff.2 ⟨hcomment, exactLine path, exactLine path, ?_, hmarker, rfl, hbody⟩
  rw [hstrip]
  rfl

end Rule

/-- The line gives a pattern that matches the path alone. -/
theorem Pattern.exists_ofLine?_exactLine {path : List Char} (hpath : path ≠ [])
    (origin : Option (List Char)) (lineNumber : Option Int) :
    ∃ pattern, ofLine? (Rule.exactLine path) origin lineNumber = .ok (some pattern) ∧
      pattern.anchored = true ∧ pattern.negation = false ∧ pattern.directoryOnly = false ∧
      ∀ candidate, pattern.regex.Matches candidate ↔ candidate = path := by
  have hrule := Rule.ofLine?_exactLine hpath
  obtain ⟨regex, hregex, hmatches⟩ := Glob.exists_regex_escapeAll path
  obtain ⟨pattern, hpattern⟩ := exists_ofLine?_eq_some hrule hregex origin lineNumber
  obtain ⟨rule, hsame, hread, hnegation, hdirectory, hanchored, _⟩ := ofLine?_eq_some hpattern
  rw [hrule] at hsame
  cases hsame
  rw [hregex] at hread
  cases hread
  exact ⟨pattern, hpattern, hanchored, hnegation, hdirectory, hmatches⟩

namespace RuleSet

/-- Every path has a line that names it and no other: the line gives a pattern with no
mark but the anchor, and alone it ignores that path, be it a file or a directory. -/
theorem exactLine_names_path {path : List Char} (hpath : path ≠ []) :
    (∀ origin lineNumber, ∃ pattern,
      Pattern.ofLine? (Rule.exactLine path) origin lineNumber = .ok (some pattern) ∧
        pattern.anchored = true ∧ pattern.negation = false ∧ pattern.directoryOnly = false) ∧
    ∀ origin, ∃ rules, ofLines [Rule.exactLine path] origin = .ok rules ∧
      ∀ query, (rules.answer query).ignored = true ↔
        (if query.path.head? = some '/' then query.path.tail else query.path) = path := by
  refine ⟨fun origin lineNumber => ?_, fun origin => ?_⟩
  · obtain ⟨pattern, hpattern, hanchored, hnegation, hdirectory, _⟩ :=
      Pattern.exists_ofLine?_exactLine hpath origin lineNumber
    exact ⟨pattern, hpattern, hanchored, hnegation, hdirectory⟩
  · obtain ⟨pattern, hpattern, _, hnegation, hdirectory, hmatches⟩ :=
      Pattern.exists_ofLine?_exactLine hpath origin (some 1)
    refine ⟨⟨[pattern]⟩, ofLines_singleton hpattern, fun query => ?_⟩
    have happlies : pattern.Applies query ↔ pattern.regex.Matches
        (if query.path.head? = some '/' then query.path.tail else query.path) := by
      rw [Pattern.Applies, hdirectory]
      simp
    rw [answer_ignored_iff, answer_deciding, lastApplying_singleton, ← hmatches, ← happlies]
    by_cases h : pattern.Applies query
    · simp [h, hnegation]
    · simp [h]

/-- A backslash and a blank at the end, where the runs of backslashes are counted. -/
theorem exactLine_names_path_with_blank :
    "a\\ ".toList ≠ [] ∧ Rule.exactLine "a\\ ".toList = "/\\a\\\\\\ ".toList ∧
    (∀ origin lineNumber, ∃ pattern,
      Pattern.ofLine? (Rule.exactLine "a\\ ".toList) origin lineNumber = .ok (some pattern) ∧
        pattern.anchored = true ∧ pattern.negation = false ∧ pattern.directoryOnly = false) ∧
    ∀ origin, ∃ rules, ofLines [Rule.exactLine "a\\ ".toList] origin = .ok rules ∧
      ∀ query, (rules.answer query).ignored = true ↔
        (if query.path.head? = some '/' then query.path.tail else query.path) =
          "a\\ ".toList := by
  have hpath : "a\\ ".toList ≠ [] := by decide
  exact ⟨hpath, by decide, exactLine_names_path hpath⟩

end RuleSet

end IgnoreRules
