import IgnoreRules.Proofs.CanonicalLines
import IgnoreRules.Proofs.LineByLine

/-!
# A free rule and its spelling with two stars

A rule without a slash may match at any segment, and so may one that starts with `**/`. The
two come about in different ways. The first has no anchor, and what stands for any leading
segments is put in front of the expression of its body. The second is anchored by the slash
that it now holds, and the same text is what its first token is translated to.

So a rule that is spelled out gives the same expression, letter by letter, and with it the
same fault where the expression does not read. For the lines there is one thing to see to:
what stands in front of a body must not change how its end is read, where blanks, markers
and backslashes meet. `**/` escapes nothing, so it does not.
-/

namespace IgnoreRules

namespace Rule

/-- The rule as a line that says `**/` in front of the body. -/
def spelledOut (rule : Rule) : List Char :=
  (if rule.negation then ['!'] else []) ++ "**/".toList ++ rule.body ++
    (if rule.directoryOnly then ['/'] else [])

theorem head?_spelledOut_ne (rule : Rule) : rule.spelledOut.head? ≠ some '#' := by
  rw [spelledOut]
  cases rule.negation <;> simp

theorem splitSign_spelledOut (rule : Rule) :
    splitSign rule.spelledOut = (rule.negation, "**/".toList ++ rule.body ++
      (if rule.directoryOnly then ['/'] else [])) := by
  refine splitSign_eq_iff.2 ⟨?_, fun _ => by simp⟩
  rw [spelledOut]
  simp only [List.append_assoc]

/-- A body with `**/` in front is anchored by the slash behind the stars. -/
theorem splitAnchor_stars (body : List Char) :
    splitAnchor ("**/".toList ++ body) = (true, "**/".toList ++ body) :=
  splitAnchor_eq_iff.2 (.inr ⟨rfl, by simp, by simp⟩)

/-- A rule that is spelled out is read with all its marks. -/
theorem ofLine?_spelledOut {rule : Rule} (h : rule.Writable) :
    ofLine? rule.spelledOut =
      some { rule with body := "**/".toList ++ rule.body, anchored := true } := by
  -- Blanks and the marker are looked for behind the body, whatever escapes nothing before it.
  have hmarks : escapesNext ((if rule.negation then ['!'] else []) ++ "**/".toList) = false := by
    cases rule.negation <;> decide
  have hstripped : stripBlanks rule.spelledOut = rule.spelledOut := stripBlanks_behind h hmarks
  refine ofLine?_eq_some_iff.2 ⟨rule.head?_spelledOut_ne, _, _, ?_,
    splitMarker_behind h (by decide), splitAnchor_stars rule.body, by simp⟩
  rw [hstripped]
  exact rule.splitSign_spelledOut

/-- Lines of which either may stand for the other: one line twice, or both spellings of a free
rule. -/
inductive Interchange : List Char → List Char → Prop where
  | same (line : List Char) : Interchange line line
  | spellOut {line : List Char} {rule : Rule} :
      ofLine? line = some rule → rule.anchored = false → Interchange line rule.spelledOut
  | shorten {line : List Char} {rule : Rule} :
      ofLine? line = some rule → rule.anchored = false → Interchange rule.spelledOut line

end Rule

/-- The token of the prefix is translated to what stands in front of a free body. -/
theorem Glob.anchoredExpression_stars (body : List Char) :
    anchoredExpression ("**/".toList ++ body) true = anchoredExpression body false := by
  have htokens : tokens ("**/".toList ++ body) = .doubleStarSlash :: tokens body := by
    show tokens ('*' :: '*' :: '/' :: body) = _
    rw [tokens]
  rw [anchoredExpression, if_pos rfl, anchoredExpression, if_neg Bool.false_ne_true, expression,
    htokens, List.flatMap_cons]
  rfl

namespace Pattern

/-- The pattern of a rule as that of another line that writes the rule with a slash. -/
def respelled (source : List Char) (pattern : Pattern) : Pattern :=
  { pattern with anchored := true, source }

/-- A rule that is spelled out gives the pattern of the free rule, or fails as it does. -/
theorem ofLine?_spelledOut {line : List Char} {rule : Rule} (hrule : Rule.ofLine? line = some rule)
    (hfree : rule.anchored = false) (origin : Option (List Char)) (lineNumber : Option Int) :
    ofLine? rule.spelledOut origin lineNumber =
      (ofLine? line origin lineNumber).map (Option.map (respelled rule.spelledOut)) := by
  have hexpression : Glob.anchoredExpression ("**/".toList ++ rule.body) true =
      Glob.anchoredExpression rule.body rule.anchored := by
    rw [hfree, Glob.anchoredExpression_stars]
  have hregex : Glob.regex ("**/".toList ++ rule.body) true =
      Glob.regex rule.body rule.anchored := congrArg Regex.read hexpression
  have hspelled := Rule.ofLine?_spelledOut (Rule.writable_of_ofLine? hrule)
  cases hread : Glob.regex rule.body rule.anchored with
  | ok regex =>
      rw [ofLine?_of_read hrule hread, ofLine?_of_read hspelled (hregex.trans hread)]
      simp only [hexpression]
      rfl
  | error fault =>
      rw [ofLine?_of_fault hrule hread, ofLine?_of_fault hspelled (hregex.trans hread)]
      split <;> rfl

/-- Lines that may stand for one another give one pattern, but for the spelling. -/
theorem ofLine?_interchange {line other : List Char} (h : Rule.Interchange line other)
    (origin : Option (List Char)) (lineNumber : Option Int) :
    (ofLine? other origin lineNumber).map (Option.map (respelled [])) =
      (ofLine? line origin lineNumber).map (Option.map (respelled [])) := by
  have hspelled : ∀ {line rule}, Rule.ofLine? line = some rule → rule.anchored = false →
      (ofLine? rule.spelledOut origin lineNumber).map (Option.map (respelled [])) =
        (ofLine? line origin lineNumber).map (Option.map (respelled [])) := by
    intro line rule hrule hfree
    rw [ofLine?_spelledOut hrule hfree]
    cases ofLine? line origin lineNumber with
    | error fault => rfl
    | ok pattern? => cases pattern? <;> rfl
  cases h with
  | same => rfl
  | spellOut hrule hfree => exact hspelled hrule hfree
  | shorten hrule hfree => exact (hspelled hrule hfree).symm

end Pattern

namespace RuleSet

theorem patternsFrom_interchange {lines others : List (List Char)}
    (h : List.Forall₂ Rule.Interchange lines others) (number : Nat)
    (origin : Option (List Char)) :
    (patternsFrom number origin others).map (List.map (Pattern.respelled [])) =
      (patternsFrom number origin lines).map (List.map (Pattern.respelled [])) := by
  induction h generalizing number with
  | nil => rfl
  | cons hline _ ih =>
      rw [map_patternsFrom_cons, map_patternsFrom_cons, Pattern.ofLine?_interchange hline, ih]

/-- Neither the spelling nor the anchor that comes with it counts for an answer. -/
theorem answer_respelled (source : List Char) (rules : RuleSet) (query : Query) :
    ((mk (rules.patterns.map (Pattern.respelled source))).answer query).ignored =
        (rules.answer query).ignored ∧
      ((mk (rules.patterns.map (Pattern.respelled source))).answer query).deciding =
        (rules.answer query).deciding.map (Pattern.respelled source) :=
  answer_map (Pattern.respelled source) (fun _ _ => Iff.rfl) (fun _ => rfl) rules query

/-- A free rule gives the same pattern with `**/` in front, or fails in the same way, and so
the spellings can be exchanged in any lines: both are read, or both have the same fault, and
every query has the same answer by the same line. -/
theorem spellings_agree :
    (∀ line rule, Rule.ofLine? line = some rule → rule.anchored = false →
      ∀ origin lineNumber, Pattern.ofLine? rule.spelledOut origin lineNumber =
        (Pattern.ofLine? line origin lineNumber).map
          (Option.map (Pattern.respelled rule.spelledOut))) ∧
    ∀ lines others, List.Forall₂ Rule.Interchange lines others → ∀ origin,
      (∀ fault, ofLines others origin = .error fault ↔ ofLines lines origin = .error fault) ∧
      ∀ rules, ofLines lines origin = .ok rules →
        ∃ rules', ofLines others origin = .ok rules' ∧ ∀ query,
          (rules'.answer query).ignored = (rules.answer query).ignored ∧
          (rules'.answer query).deciding.map (Pattern.respelled []) =
            (rules.answer query).deciding.map (Pattern.respelled []) := by
  refine ⟨fun line rule => Pattern.ofLine?_spelledOut, fun lines others h origin => ?_⟩
  have hsame := patternsFrom_interchange h 1 origin
  rw [ofLines, ofLines]
  cases hlines : patternsFrom 1 origin lines with
  | error fault =>
      rw [hlines] at hsame
      rw [map_eq_error_iff.1 hsame]
      refine ⟨fun _ => Iff.rfl, fun rules hrules => ?_⟩
      cases hrules
  | ok patterns =>
      rw [hlines] at hsame
      obtain ⟨patterns', hothers, hpatterns⟩ := map_eq_ok_iff.1 hsame
      rw [hothers]
      refine ⟨fun fault => ⟨fun h => ?_, fun h => ?_⟩, fun rules hrules => ?_⟩
      · cases h
      · cases h
      cases hrules
      refine ⟨⟨patterns'⟩, rfl, fun query => ?_⟩
      -- Both sets answer as the one set does that is left when the spelling is taken out.
      obtain ⟨hignored, hdeciding⟩ := answer_respelled [] ⟨patterns⟩ query
      obtain ⟨hignored', hdeciding'⟩ := answer_respelled [] ⟨patterns'⟩ query
      dsimp only at hignored hignored' hdeciding hdeciding'
      rw [← hignored, ← hignored', ← hdeciding, ← hdeciding', hpatterns]
      exact ⟨rfl, rfl⟩

/-- A rule in its long spelling and one in its short spelling, which a blank follows, each
exchanged for the other. -/
theorem spellings_agree_of_logs :
    (Pattern.ofLine? "!a?/\t".toList none none).toOption.map (Option.map Pattern.expression) =
        some (some "(?:.*/)?a[^/]".toList) ∧
      Pattern.ofLine? "!**/a?/".toList none none =
        (Pattern.ofLine? "!a?/\t".toList none none).map
          (Option.map (Pattern.respelled "!**/a?/".toList)) ∧
      ∃ rules rules', ofLines ["**/*.log".toList, "!a?/\t".toList] none = .ok rules ∧
        ofLines ["*.log".toList, "!**/a?/".toList] none = .ok rules' ∧
        (rules.answer ⟨"x/ab.log".toList, false⟩).ignored = true ∧
        ∀ query, (rules'.answer query).ignored = (rules.answer query).ignored := by
  obtain ⟨hlines, hlists⟩ := spellings_agree
  have hlogs : Rule.ofLine? "*.log".toList = some ⟨"*.log".toList, false, false, false⟩ := by
    decide
  have hnames : Rule.ofLine? "!a?/\t".toList = some ⟨"a?".toList, true, true, false⟩ := by
    decide
  obtain ⟨rules, hrules⟩ := exists_of_isOk (by decide +kernel :
    (ofLines ["**/*.log".toList, "!a?/\t".toList] none).isOk = true)
  have hignored : (ofLines ["**/*.log".toList, "!a?/\t".toList] none).toOption.map
      (fun rules => (rules.answer ⟨"x/ab.log".toList, false⟩).ignored) = some true := by
    decide +kernel
  rw [hrules] at hignored
  obtain ⟨_, hagree⟩ :=
    hlists _ _ (.cons (.shorten hlogs rfl) (.cons (.spellOut hnames rfl) .nil)) none
  obtain ⟨rules', hrules', hanswer⟩ := hagree rules hrules
  exact ⟨by decide +kernel, hlines _ _ hnames rfl none none, rules, rules', hrules, hrules',
    Option.some.inj hignored, fun query => (hanswer query).1⟩

end RuleSet

end IgnoreRules
