import IgnoreRules.Proofs.Accounting
import IgnoreRules.Proofs.LongEscapes
import IgnoreRules.Report

/-!
# The line that is named is the one that decides

With a verdict goes the line that it is due to. A reader of the report takes three things
for granted: that the line is the one with the reported number, that it would have the
same say with no other line around it, and that its sign tells the verdict.

None of them is looked up in the line when the report is made. The number was counted
before anything was dropped; the verdict was kept in step with the pattern, not with the
line; and the sign was read from the line after the blanks at its end were gone. So each
of them is led back to what the line alone gives, in its place.
-/

namespace IgnoreRules

namespace Rule

theorem splitSign_fst_iff {text : List Char} :
    (splitSign text).1 = true ↔ text.head? = some '!' := by
  unfold splitSign
  split
  · simp
  · next hsign =>
      constructor
      · intro h
        cases h
      · intro h
        obtain ⟨rest, htext⟩ := List.head?_eq_some_iff.1 h
        exact absurd htext (hsign rest)

/-- Without the blanks at its end, something is left of a line that denotes a rule. -/
theorem stripBlanks_ne_nil {line : List Char} {rule : Rule} (h : ofLine? line = some rule) :
    stripBlanks line ≠ [] := by
  obtain ⟨_, unsigned, path, hsign, hmarker, hanchor, hbody⟩ := ofLine?_eq_some_iff.1 h
  intro hnil
  rw [hnil] at hsign
  have hunsigned : [] = unsigned := congrArg Prod.snd hsign
  subst hunsigned
  have hpath : [] = path := congrArg Prod.snd hmarker
  subst hpath
  exact hbody (congrArg Prod.snd hanchor).symm

/-- Blanks go at the end of a line only, so the line starts with what is left of it. -/
theorem head?_stripBlanks {line : List Char} (h : stripBlanks line ≠ []) :
    (stripBlanks line).head? = line.head? := by
  obtain ⟨c, text, htext⟩ := List.exists_cons_of_ne_nil h
  obtain ⟨blanks, hline⟩ := stripBlanks_isPrefix line
  rw [htext, ← hline, htext]
  rfl

/-- The sign stands at the start of the line itself, for blanks go at the end only. -/
theorem negation_iff {line : List Char} {rule : Rule} (h : ofLine? line = some rule) :
    rule.negation = true ↔ line.head? = some '!' := by
  obtain ⟨_, unsigned, _, hsign, _⟩ := ofLine?_eq_some_iff.1 h
  have hnegation : rule.negation = (splitSign (stripBlanks line)).1 := by rw [hsign]
  rw [hnegation, splitSign_fst_iff, head?_stripBlanks (stripBlanks_ne_nil h)]

theorem line_ne_nil {line : List Char} {rule : Rule} (h : ofLine? line = some rule) :
    line ≠ [] := by
  intro hnil
  rw [hnil] at h
  exact stripBlanks_ne_nil h rfl

end Rule

theorem Decision.verdictWord_eq_iff {decision : Decision} :
    Report.verdictWord decision.verdict = "ignored".toList ↔ decision.ignored = true := by
  rw [verdict]
  cases decision.ignored <;> decide

namespace RuleSet

variable {lines : List (List Char)} {origin : Option (List Char)} {rules : RuleSet}
  {query : Query} {pattern : Pattern}

theorem answer_ignored_of_deciding (h : (rules.answer query).deciding = some pattern) :
    (rules.answer query).ignored = !pattern.negation := by
  rw [Bool.eq_iff_iff, answer_ignored_iff, h]
  simp

/-- The deciding pattern comes from its own line and applies to the query. -/
theorem ofLine?_of_deciding (hrules : ofLines lines origin = .ok rules)
    (h : (rules.answer query).deciding = some pattern) :
    Pattern.ofLine? pattern.source origin pattern.lineNumber = .ok (some pattern) ∧
      pattern.Applies query ∧
      ∃ index : Nat, pattern.lineNumber = some ↑(1 + index) ∧
        lines[index]? = some pattern.source := by
  have hmem := mem_of_deciding h
  rw [answer_deciding] at h
  obtain ⟨_, _, _, happlies, _⟩ := lastApplying_eq_some_iff.1 h
  have haccounts := accounts_of_ofLines hrules
  exact ⟨haccounts.ofLine?_of_mem hmem, happlies, (haccounts.placed pattern hmem).2⟩

/-- A line whose pattern applies decides when it stands alone, in whatever place. -/
theorem exists_answer_alone {line : List Char} {lineNumber : Option Int}
    (hline : Pattern.ofLine? line origin lineNumber = .ok (some pattern))
    (happlies : pattern.Applies query) (origin' : Option (List Char)) :
    ∃ alone same, ofLines [line] origin' = .ok alone ∧
      (alone.answer query).deciding = some same ∧ same.unplaced = pattern.unplaced := by
  obtain ⟨moved?, hmoved, hsame⟩ := Pattern.exists_ofLine?_moved hline origin' (some 1)
  obtain ⟨same, hsome, hsame⟩ := Option.map_eq_some_iff.1 hsame
  rw [hsome] at hmoved
  refine ⟨⟨[same]⟩, same, ofLines_singleton hmoved, ?_, hsame⟩
  have hagain : same.Applies query := by
    rw [← Pattern.unplaced_applies_iff, hsame, Pattern.unplaced_applies_iff]
    exact happlies
  rw [answer_deciding, lastApplying_singleton, if_pos hagain]

/-- The deciding line, as it is reported, is the one with the reported number; alone it
gives the query the same verdict, and by the same pattern; and the verdict can be told
from the reported line by its first character. -/
theorem answer_explained (hrules : ofLines lines origin = .ok rules) (query : Query) :
    (∀ pattern, (rules.answer query).deciding = some pattern →
      (∀ origin', ∃ alone same, ofLines [pattern.source] origin' = .ok alone ∧
        (alone.answer query).ignored = (rules.answer query).ignored ∧
        (alone.answer query).deciding = some same ∧ same.unplaced = pattern.unplaced) ∧
      ∃ index : Nat, pattern.lineNumber = some ↑(index + 1) ∧
        lines[index]? = some pattern.source) ∧
    (Report.verdictWord (rules.answer query).verdict = "ignored".toList ↔
      (rules.answer query).source ≠ [] ∧ (rules.answer query).source.head? ≠ some '!') := by
  refine ⟨fun pattern hdeciding => ⟨fun origin' => ?_, ?_⟩, ?_⟩
  · obtain ⟨hline, happlies, _⟩ := ofLine?_of_deciding hrules hdeciding
    obtain ⟨alone, same, halone, hsame, hunplaced⟩ := exists_answer_alone hline happlies origin'
    have hnegation : same.unplaced.negation = pattern.unplaced.negation := by rw [hunplaced]
    refine ⟨alone, same, halone, ?_, hsame, hunplaced⟩
    rw [answer_ignored_of_deciding hsame, answer_ignored_of_deciding hdeciding]
    exact congrArg not hnegation
  · obtain ⟨_, _, index, hnumber, hsource⟩ := ofLine?_of_deciding hrules hdeciding
    refine ⟨index, ?_, hsource⟩
    rw [hnumber, Nat.add_comm]
  · rw [Decision.verdictWord_eq_iff, Decision.source]
    cases hdeciding : (rules.answer query).deciding with
    | none =>
        rw [answer_ignored_iff, hdeciding]
        simp
    | some pattern =>
        obtain ⟨hline, _, _⟩ := ofLine?_of_deciding hrules hdeciding
        obtain ⟨rule, hrule, _, hnegation, _⟩ := Pattern.ofLine?_eq_some hline
        have hsign : rule.negation = false ↔ pattern.source.head? ≠ some '!' := by
          rw [← Bool.not_eq_true]
          exact not_congr (Rule.negation_iff hrule)
        rw [answer_ignored_of_deciding hdeciding, hnegation, Bool.not_eq_true', Option.map_some,
          Option.getD_some, hsign]
        exact (and_iff_right (Rule.line_ne_nil hrule)).symm

/-- Some lines, of which the third gives no pattern and the fourth, with a blank at its end,
takes a log back in. -/
def logLines : List (List Char) :=
  ["*.tmp".toList, "*.log".toList, "# kept".toList, "!a.log ".toList]

theorem answer_explained_logLines :
    ∃ rules, ofLines logLines (some "r".toList) = .ok rules ∧
      (rules.answer ⟨"/a.log".toList, false⟩).location = "r:4".toList ∧
      (∀ pattern, (rules.answer ⟨"/a.log".toList, false⟩).deciding = some pattern →
        (∀ origin', ∃ alone same, ofLines [pattern.source] origin' = .ok alone ∧
          (alone.answer ⟨"/a.log".toList, false⟩).ignored =
            (rules.answer ⟨"/a.log".toList, false⟩).ignored ∧
          (alone.answer ⟨"/a.log".toList, false⟩).deciding = some same ∧
            same.unplaced = pattern.unplaced) ∧
        ∃ index : Nat, pattern.lineNumber = some ↑(index + 1) ∧
          logLines[index]? = some pattern.source) ∧
      (Report.verdictWord (rules.answer ⟨"/a.log".toList, false⟩).verdict = "ignored".toList ↔
        (rules.answer ⟨"/a.log".toList, false⟩).source ≠ [] ∧
          (rules.answer ⟨"/a.log".toList, false⟩).source.head? ≠ some '!') := by
  obtain ⟨rules, hrules⟩ := exists_of_isOk (by decide +kernel :
    (ofLines logLines (some "r".toList)).isOk = true)
  have hlocation : (ofLines logLines (some "r".toList)).toOption.map
      (fun rules => (rules.answer ⟨"/a.log".toList, false⟩).location) = some "r:4".toList := by
    decide +kernel
  rw [hrules] at hlocation
  exact ⟨rules, hrules, Option.some.inj hlocation, answer_explained hrules _⟩

end RuleSet

end IgnoreRules
