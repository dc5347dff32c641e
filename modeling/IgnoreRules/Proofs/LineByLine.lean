import IgnoreRules.Proofs.LastMatch
import IgnoreRules.Proofs.Results

/-!
# Lines are read one by one

A pattern remembers its origin and the number of its line, so the same lines give
different patterns when they are read from another place or behind other lines.
Nothing else about the patterns differs. This file takes the place out of a pattern
and shows that what is left depends on the line alone, and that the verdict needs no
more than what is left.

That is what makes it harmless to read two lists of lines in one go: the lines of the
second list get other numbers than they have alone, and the same verdicts.
-/

namespace IgnoreRules

namespace Pattern

/-- The pattern without the place where it was written. -/
def unplaced (pattern : Pattern) : Pattern :=
  { pattern with origin := none, lineNumber := none }

theorem unplaced_applies_iff (pattern : Pattern) (query : Query) :
    pattern.unplaced.Applies query ↔ pattern.Applies query :=
  Iff.rfl

/-- The pattern in another place, which is found from the one that it has. -/
def relocated (origin : Option (List Char) → Option (List Char))
    (number : Option Int → Option Int) (pattern : Pattern) : Pattern :=
  { pattern with origin := origin pattern.origin, lineNumber := number pattern.lineNumber }

/-- A pattern is the one of the rule that its line denotes, and remembers the line and the
place. -/
theorem ofLine?_eq_some {line : List Char} {origin : Option (List Char)}
    {lineNumber : Option Int} {pattern : Pattern}
    (h : ofLine? line origin lineNumber = .ok (some pattern)) :
    ∃ rule, Rule.ofLine? line = some rule ∧
      Glob.regex rule.body rule.anchored = .ok pattern.regex ∧
      pattern.negation = rule.negation ∧ pattern.directoryOnly = rule.directoryOnly ∧
      pattern.anchored = rule.anchored ∧ pattern.source = line ∧ pattern.origin = origin ∧
      pattern.lineNumber = lineNumber := by
  rw [ofLine?] at h
  split at h
  · cases h
  · next rule hrule =>
      split at h
      · next regex hregex =>
          cases h
          exact ⟨rule, hrule, hregex, rfl, rfl, rfl, rfl, rfl, rfl⟩
      · split at h <;> cases h

/-- What a line gives, if anything, remembers the line and the place. -/
theorem place_of_mem_ofLine? {line : List Char} {origin : Option (List Char)}
    {lineNumber : Option Int} {pattern? : Option Pattern}
    (h : ofLine? line origin lineNumber = .ok pattern?) {pattern : Pattern}
    (hmem : pattern ∈ pattern?.toList) :
    pattern.source = line ∧ pattern.origin = origin ∧ pattern.lineNumber = lineNumber := by
  rw [Option.mem_toList.1 hmem] at h
  obtain ⟨_, _, _, _, _, _, hplace⟩ := ofLine?_eq_some h
  exact hplace

/-- A rule whose expression reads gives a pattern. -/
theorem ofLine?_of_read {line : List Char} {rule : Rule} {regex : Regex}
    (hrule : Rule.ofLine? line = some rule)
    (hread : Glob.regex rule.body rule.anchored = .ok regex) (origin : Option (List Char))
    (lineNumber : Option Int) :
    ofLine? line origin lineNumber = .ok (some {
      expression := Glob.anchoredExpression rule.body rule.anchored
      regex, reads := hread
      negation := rule.negation
      directoryOnly := rule.directoryOnly
      anchored := rule.anchored
      source := line
      origin, lineNumber }) := by
  rw [ofLine?, hrule]
  dsimp only
  split
  · next regex' hread' =>
      rw [hread] at hread'
      cases hread'
      rfl
  · next fault hfault =>
      rw [hread] at hfault
      cases hfault

theorem exists_ofLine?_eq_some {line : List Char} {rule : Rule} {regex : Regex}
    (hrule : Rule.ofLine? line = some rule)
    (hread : Glob.regex rule.body rule.anchored = .ok regex) (origin : Option (List Char))
    (lineNumber : Option Int) :
    ∃ pattern, ofLine? line origin lineNumber = .ok (some pattern) :=
  ⟨_, ofLine?_of_read hrule hread origin lineNumber⟩

/-- A rule whose expression has a fault gives no pattern, or the fault. -/
theorem ofLine?_of_fault {line : List Char} {rule : Rule} {fault : RegexFault}
    (hrule : Rule.ofLine? line = some rule)
    (hfault : Glob.regex rule.body rule.anchored = .error fault) (origin : Option (List Char))
    (lineNumber : Option Int) :
    ofLine? line origin lineNumber = if fault.dropsLine then .ok none else .error fault := by
  rw [ofLine?, hrule]
  dsimp only
  split
  · next regex hread =>
      rw [hfault] at hread
      cases hread
  · next fault' hfault' =>
      rw [hfault] at hfault'
      cases hfault'
      rfl

/-- What a line gives depends on its place only as far as the pattern remembers it. -/
theorem ofLine?_relocated (move : Option (List Char) → Option (List Char))
    (renumber : Option Int → Option Int) (line : List Char) (origin : Option (List Char))
    (lineNumber : Option Int) :
    (ofLine? line origin lineNumber).map (Option.map (relocated move renumber)) =
      ofLine? line (move origin) (renumber lineNumber) := by
  rw [ofLine?, ofLine?]
  cases Rule.ofLine? line with
  | none => rfl
  | some rule =>
      dsimp only
      split
      · rfl
      · split <;> rfl

theorem ofLine?_unplaced (line : List Char) (origin : Option (List Char))
    (lineNumber : Option Int) :
    (ofLine? line origin lineNumber).map (Option.map unplaced) = ofLine? line none none :=
  ofLine?_relocated (fun _ => none) (fun _ => none) line origin lineNumber

/-- A line that is read in one place is read in every other. -/
theorem exists_ofLine?_moved {line : List Char} {origin : Option (List Char)}
    {lineNumber : Option Int} {pattern? : Option Pattern}
    (h : ofLine? line origin lineNumber = .ok pattern?) (origin' : Option (List Char))
    (lineNumber' : Option Int) :
    ∃ moved?, ofLine? line origin' lineNumber' = .ok moved? ∧
      moved?.map unplaced = pattern?.map unplaced := by
  have hbare := ofLine?_unplaced line origin' lineNumber'
  rw [← ofLine?_unplaced line origin lineNumber, h] at hbare
  exact map_eq_ok_iff.1 hbare

end Pattern

namespace RuleSet

theorem patternsFrom_cons_eq_ok_iff {number : Nat} {origin : Option (List Char)}
    {line : List Char} {lines : List (List Char)} {patterns : List Pattern} :
    patternsFrom number origin (line :: lines) = .ok patterns ↔
      ∃ pattern? later, Pattern.ofLine? line origin (some number) = .ok pattern? ∧
        patternsFrom (number + 1) origin lines = .ok later ∧
        pattern?.toList ++ later = patterns := by
  rw [patternsFrom, bind_eq_ok_iff]
  constructor
  · intro h
    obtain ⟨pattern?, hline, h⟩ := h
    obtain ⟨later, hlines, h⟩ := bind_eq_ok_iff.1 h
    cases h
    exact ⟨pattern?, later, hline, hlines, rfl⟩
  · intro h
    obtain ⟨pattern?, later, hline, hlines, h⟩ := h
    refine ⟨pattern?, hline, bind_eq_ok_iff.2 ⟨later, hlines, ?_⟩⟩
    rw [h]
    rfl

/-- What is changed in patterns can be changed as soon as their line is read. -/
theorem map_patternsFrom_cons (change : Pattern → Pattern) (number : Nat)
    (origin : Option (List Char)) (line : List Char) (lines : List (List Char)) :
    (patternsFrom number origin (line :: lines)).map (List.map change) = (do
      let pattern? ← (Pattern.ofLine? line origin (some number)).map (Option.map change)
      let patterns ← (patternsFrom (number + 1) origin lines).map (List.map change)
      return pattern?.toList ++ patterns) := by
  rw [patternsFrom]
  cases Pattern.ofLine? line origin (some ↑number) with
  | error fault => rfl
  | ok pattern? =>
      cases patternsFrom (number + 1) origin lines with
      | error fault => rfl
      | ok patterns =>
          show Except.ok ((pattern?.toList ++ patterns).map change) =
            Except.ok ((pattern?.map change).toList ++ patterns.map change)
          rw [List.map_append, Option.toList_map]

/-- Lines that are read from another place on give the same patterns, moved there. -/
theorem patternsFrom_relocated (move : Option (List Char) → Option (List Char))
    (renumber : Option Int → Option Int) {number number' : Nat} (origin : Option (List Char))
    {lines : List (List Char)}
    (hnumber : ∀ index < lines.length,
      renumber (some ↑(number + index)) = some ↑(number' + index)) :
    (patternsFrom number origin lines).map (List.map (Pattern.relocated move renumber)) =
      patternsFrom number' (move origin) lines := by
  induction lines generalizing number number' with
  | nil => rfl
  | cons line lines ih =>
      have hfirst : renumber (some ↑number) = some ↑number' :=
        hnumber 0 (Nat.zero_lt_succ _)
      have hlater : ∀ index < lines.length,
          renumber (some ↑(number + 1 + index)) = some ↑(number' + 1 + index) := by
        intro index hindex
        rw [Nat.add_assoc, Nat.add_assoc, Nat.add_comm 1]
        exact hnumber (index + 1) (Nat.succ_lt_succ hindex)
      rw [map_patternsFrom_cons, Pattern.ofLine?_relocated, hfirst, ih hlater]
      rfl

/-- Lines that are read in one place are read in every other. -/
theorem exists_patternsFrom_moved {number : Nat} {origin : Option (List Char)}
    {lines : List (List Char)} {patterns : List Pattern}
    (h : patternsFrom number origin lines = .ok patterns) (number' : Nat)
    (origin' : Option (List Char)) :
    ∃ moved, patternsFrom number' origin' lines = .ok moved ∧
      moved.map Pattern.unplaced = patterns.map Pattern.unplaced := by
  induction lines generalizing number number' patterns with
  | nil =>
      cases h
      exact ⟨[], rfl, rfl⟩
  | cons line lines ih =>
      obtain ⟨pattern?, later, hline, hlines, heq⟩ := patternsFrom_cons_eq_ok_iff.1 h
      obtain ⟨moved?, hmoved?, hsame?⟩ :=
        Pattern.exists_ofLine?_moved hline origin' (some ↑number')
      obtain ⟨moved, hmoved, hsame⟩ := ih hlines (number' + 1)
      refine ⟨moved?.toList ++ moved,
        patternsFrom_cons_eq_ok_iff.2 ⟨moved?, moved, hmoved?, hmoved, rfl⟩, ?_⟩
      rw [← heq, List.map_append, List.map_append, hsame, ← Option.toList_map, hsame?,
        Option.toList_map]

/-- Lines behind others are numbered on from them. -/
theorem patternsFrom_append {number : Nat} {origin : Option (List Char)}
    {lines more : List (List Char)} {patterns others : List Pattern}
    (hlines : patternsFrom number origin lines = .ok patterns)
    (hmore : patternsFrom (number + lines.length) origin more = .ok others) :
    patternsFrom number origin (lines ++ more) = .ok (patterns ++ others) := by
  induction lines generalizing number patterns with
  | nil =>
      cases hlines
      exact hmore
  | cons line lines ih =>
      obtain ⟨pattern?, later, hline, hlater, heq⟩ := patternsFrom_cons_eq_ok_iff.1 hlines
      have hnumber : number + (line :: lines).length = number + 1 + lines.length := by
        rw [List.length_cons]
        omega
      rw [hnumber] at hmore
      refine patternsFrom_cons_eq_ok_iff.2 ⟨pattern?, later ++ others, hline, ih hlater hmore, ?_⟩
      rw [← heq, List.append_assoc]

/-- The rules without the places where they were written. -/
def unplaced (rules : RuleSet) : RuleSet :=
  ⟨rules.patterns.map Pattern.unplaced⟩

/-- The rules in other places. -/
def relocated (move : Option (List Char) → Option (List Char))
    (renumber : Option Int → Option Int) (rules : RuleSet) : RuleSet :=
  ⟨rules.patterns.map (Pattern.relocated move renumber)⟩

theorem relocated_append (move : Option (List Char) → Option (List Char))
    (renumber : Option Int → Option Int) (lower upper : RuleSet) :
    (lower ++ upper).relocated move renumber =
      lower.relocated move renumber ++ upper.relocated move renumber :=
  congrArg mk List.map_append

/-- Rules in other places decide as they did, and by the same patterns. -/
theorem answer_relocated (move : Option (List Char) → Option (List Char))
    (renumber : Option Int → Option Int) (rules : RuleSet) (query : Query) :
    ((rules.relocated move renumber).answer query).ignored = (rules.answer query).ignored ∧
    ((rules.relocated move renumber).answer query).deciding =
      (rules.answer query).deciding.map (Pattern.relocated move renumber) :=
  answer_map (Pattern.relocated move renumber) (fun _ _ => Iff.rfl) (fun _ => rfl) rules query

theorem ofLines_eq_ok_iff {lines : List (List Char)} {origin : Option (List Char)}
    {rules : RuleSet} :
    ofLines lines origin = .ok rules ↔ patternsFrom 1 origin lines = .ok rules.patterns := by
  rw [ofLines, map_eq_ok_iff]
  constructor
  · intro h
    obtain ⟨patterns, h, heq⟩ := h
    rw [h, ← heq]
  · intro h
    exact ⟨rules.patterns, h, rfl⟩

/-- Lines are read as soon as each of them is. -/
theorem exists_ofLines {lines : List (List Char)} (origin : Option (List Char))
    (h : ∀ line ∈ lines, ∃ pattern?, Pattern.ofLine? line none none = .ok pattern?) :
    ∃ rules, ofLines lines origin = .ok rules := by
  have hfrom : ∀ number, ∃ patterns, patternsFrom number origin lines = .ok patterns := by
    induction lines with
    | nil => exact fun _ => ⟨[], rfl⟩
    | cons line lines ih =>
        intro number
        obtain ⟨⟨bare?, hbare⟩, hlines⟩ := List.forall_mem_cons.1 h
        obtain ⟨pattern?, hline, _⟩ := Pattern.exists_ofLine?_moved hbare origin (some ↑number)
        obtain ⟨later, hlater⟩ := ih hlines (number + 1)
        exact ⟨_, patternsFrom_cons_eq_ok_iff.2 ⟨pattern?, later, hline, hlater, rfl⟩⟩
  obtain ⟨patterns, hpatterns⟩ := hfrom 1
  exact ⟨⟨patterns⟩, ofLines_eq_ok_iff.2 hpatterns⟩

theorem ofLines_singleton {line : List Char} {origin : Option (List Char)}
    {pattern? : Option Pattern} (h : Pattern.ofLine? line origin (some 1) = .ok pattern?) :
    ofLines [line] origin = .ok ⟨pattern?.toList⟩ := by
  have hnil : patternsFrom 2 origin [] = .ok [] := rfl
  exact ofLines_eq_ok_iff.2
    (patternsFrom_cons_eq_ok_iff.2 ⟨pattern?, [], h, hnil, List.append_nil _⟩)

/-- Lines behind others give the rules that they give alone, in other places. -/
theorem exists_ofLines_append {lines more : List (List Char)} {origin : Option (List Char)}
    {rules others : RuleSet} (hlines : ofLines lines origin = .ok rules)
    (hmore : ofLines more origin = .ok others) :
    ∃ moved, ofLines (lines ++ more) origin = .ok (rules ++ moved) ∧
      moved.unplaced = others.unplaced := by
  obtain ⟨moved, hmoved, hsame⟩ :=
    exists_patternsFrom_moved (ofLines_eq_ok_iff.1 hmore) (1 + lines.length) origin
  have happend := patternsFrom_append (ofLines_eq_ok_iff.1 hlines) hmoved
  exact ⟨⟨moved⟩, ofLines_eq_ok_iff.2 happend, congrArg mk hsame⟩

theorem unplaced_append (lower upper : RuleSet) :
    (lower ++ upper).unplaced = lower.unplaced ++ upper.unplaced :=
  congrArg mk List.map_append

/-- The verdict does not look at places. -/
theorem answer_unplaced_ignored (rules : RuleSet) (query : Query) :
    (rules.unplaced.answer query).ignored = (rules.answer query).ignored :=
  (answer_relocated (fun _ => none) (fun _ => none) rules query).1

/-- Rules that differ in their places only give the same verdicts. -/
theorem answer_ignored_congr {rules others : RuleSet} (h : rules.unplaced = others.unplaced)
    (query : Query) : (rules.answer query).ignored = (others.answer query).ignored := by
  rw [← answer_unplaced_ignored rules, h, answer_unplaced_ignored]

end RuleSet

end IgnoreRules
