import IgnoreRules.Proofs.CanonicalLines

/-!
# Which blanks go at the end of a line

Blanks are dropped from the back, one by one, up to the first that is escaped. Only the first
blank of a run can be: what stands before any other is a blank and no backslash. So a run of
blanks goes as a whole, or all but its first goes, and which of the two depends on the line
before the run alone.

That makes the result the only way to cut the line in two such that the back is blank and
begins with nothing escaped, and the front ends in no blank that could still go. One induction
along the line shows that the result is such a cut, one along the blanks that there is no
other; all else is read off the cut.
-/

namespace IgnoreRules

/-- What is left of a line and the blanks behind it, of which none counts. -/
structure CutsBlanks (kept blanks : List Char) : Prop where
  /-- Only blanks are behind the cut. -/
  blank : ∀ c ∈ blanks, c = ' ' ∨ c = '\t'
  /-- Any blank at the end of what is left is escaped. -/
  ends : ∀ before c, kept = before ++ [c] → c = ' ' ∨ c = '\t' →
    trailingBackslashes before % 2 = 1
  /-- The first blank behind the cut is not escaped. -/
  unescaped : blanks ≠ [] → trailingBackslashes kept % 2 = 0

theorem escapesNext_concat_blank {c : Char} (hc : c = ' ' ∨ c = '\t') (text : List Char) :
    escapesNext (text ++ [c]) = false := by
  have hne : c ≠ '\\' := by
    rintro rfl
    exact hc.elim (by decide) (by decide)
  rw [escapesNext_concat, decide_eq_false hne, Bool.false_and]

theorem stripBlanks_concat_blank {line : List Char} {c : Char} (hc : c = ' ' ∨ c = '\t')
    (h : escapesNext line = false) : stripBlanks (line ++ [c]) = stripBlanks line := by
  rw [stripBlanks_concat, if_pos]
  rw [isBlank_iff.2 hc, h]
  rfl

/-- A run of blanks goes as a whole if nothing before it escapes the first of them. -/
theorem stripBlanks_append_blanks {line blanks : List Char}
    (hblanks : ∀ c ∈ blanks, c = ' ' ∨ c = '\t') (h : escapesNext line = false) :
    stripBlanks (line ++ blanks) = stripBlanks line := by
  induction blanks generalizing line with
  | nil => rw [List.append_nil]
  | cons c blanks ih =>
      obtain ⟨hc, hblanks⟩ := List.forall_mem_cons.1 hblanks
      rw [List.append_cons, ih hblanks (escapesNext_concat_blank hc line),
        stripBlanks_concat_blank hc h]

/-- What is left of a line is followed by nothing but blanks, and escapes none of them. -/
theorem exists_cutsBlanks (line : List Char) :
    ∃ blanks, line = stripBlanks line ++ blanks ∧ CutsBlanks (stripBlanks line) blanks := by
  induction line using List.reverseRecOn with
  | nil =>
      refine ⟨[], rfl, List.forall_mem_nil _, fun before c h => ?_, fun h => absurd rfl h⟩
      exact absurd h.symm (List.append_ne_nil_of_right_ne_nil before (List.cons_ne_nil c []))
  | append_singleton line c ih =>
      rw [stripBlanks_concat]
      split
      · next hgoes =>
          rw [Bool.and_eq_true, Bool.not_eq_true', isBlank_iff] at hgoes
          obtain ⟨blanks, hline, hcut⟩ := ih
          refine ⟨blanks ++ [c], ?_, ?_, hcut.ends, fun _ => ?_⟩
          · rw [← List.append_assoc, ← hline]
          · exact List.forall_mem_append.2 ⟨hcut.blank, List.forall_mem_singleton.2 hgoes.1⟩
          · by_cases hblanks : blanks = []
            · rw [hblanks, List.append_nil] at hline
              rw [← hline, ← escapesNext_eq_false_iff]
              exact hgoes.2
            · exact hcut.unescaped hblanks
      · next hstays =>
          refine ⟨[], (List.append_nil _).symm, List.forall_mem_nil _, fun before d h hd => ?_,
            fun h => absurd rfl h⟩
          obtain ⟨rfl, hcd⟩ := List.append_inj' h rfl
          cases hcd
          rw [Bool.and_eq_true, Bool.not_eq_true', isBlank_iff, not_and] at hstays
          have hescapes := hstays hd
          rw [escapesNext_eq_false_iff] at hescapes
          omega

/-- Where all blanks at the end are escaped, nothing goes. -/
theorem stripBlanks_of_ends {kept : List Char}
    (h : ∀ before c, kept = before ++ [c] → c = ' ' ∨ c = '\t' →
      trailingBackslashes before % 2 = 1) :
    stripBlanks kept = kept := by
  rcases List.eq_nil_or_concat' kept with rfl | ⟨before, c, rfl⟩
  · rfl
  · refine stripBlanks_eq_self fun hescapes => not_or.1 fun hc => ?_
    rw [escapesNext_eq_false_iff, h before c rfl hc] at hescapes
    cases hescapes

/-- What is in front of a cut is what is left. -/
theorem CutsBlanks.stripBlanks_eq {kept blanks : List Char} (h : CutsBlanks kept blanks) :
    stripBlanks (kept ++ blanks) = kept := by
  by_cases hblanks : blanks = []
  · rw [hblanks, List.append_nil, stripBlanks_of_ends h.ends]
  · rw [stripBlanks_append_blanks h.blank (escapesNext_eq_false_iff.2 (h.unescaped hblanks)),
      stripBlanks_of_ends h.ends]

namespace Rule

/-- All that counts of a line is what is left of it, and that it is no comment. -/
theorem ofLine?_congr {line line' : List Char}
    (hcomment : line.head? = some '#' ↔ line'.head? = some '#')
    (h : stripBlanks line = stripBlanks line') : ofLine? line = ofLine? line' := by
  rw [ofLine?, ofLine?, h]
  simp only [hcomment]

/-- Blanks behind a line do not make it a comment. -/
theorem head?_append_blanks_iff {blanks : List Char} (hblanks : ∀ c ∈ blanks, c = ' ' ∨ c = '\t')
    (line : List Char) : (line ++ blanks).head? = some '#' ↔ line.head? = some '#' := by
  cases line with
  | nil =>
      refine ⟨fun h => ?_, nofun⟩
      rcases hblanks '#' (List.mem_of_head? h) with h | h <;> cases h
  | cons c line => rfl

/-- Blanks behind a line that escapes none of them say nothing. -/
theorem ofLine?_append_blanks {line blanks : List Char}
    (hblanks : ∀ c ∈ blanks, c = ' ' ∨ c = '\t') (h : escapesNext line = false) :
    ofLine? (line ++ blanks) = ofLine? line :=
  ofLine?_congr (head?_append_blanks_iff hblanks line) (stripBlanks_append_blanks hblanks h)

end Rule

/-- Stripping a line is cutting it in front of the blanks that do not count, and there is one
way to do so. A second time there is nothing to strip; and of blanks that are added to a line,
none counts for its rule, or the first alone if the line escapes it. -/
theorem stripBlanks_cuts (line : List Char) :
    (∀ kept, kept = stripBlanks line ↔ ∃ blanks, line = kept ++ blanks ∧ CutsBlanks kept blanks) ∧
    stripBlanks (stripBlanks line) = stripBlanks line ∧
    ∀ blanks, (∀ c ∈ blanks, c = ' ' ∨ c = '\t') →
      (trailingBackslashes line % 2 = 0 → Rule.ofLine? (line ++ blanks) = Rule.ofLine? line) ∧
      (trailingBackslashes line % 2 = 1 → ∀ first others, blanks = first :: others →
        Rule.ofLine? (line ++ blanks) = Rule.ofLine? (line ++ [first])) := by
  obtain ⟨dropped, hline, hcut⟩ := exists_cutsBlanks line
  refine ⟨fun kept => ⟨?_, ?_⟩, stripBlanks_of_ends hcut.ends, fun blanks hblanks =>
    ⟨fun heven => ?_, fun _ first others hfirst => ?_⟩⟩
  · rintro rfl
    exact ⟨dropped, hline, hcut⟩
  · rintro ⟨blanks, rfl, h⟩
    exact h.stripBlanks_eq.symm
  · exact Rule.ofLine?_append_blanks hblanks (escapesNext_eq_false_iff.2 heven)
  · -- The first blank is no backslash, so it escapes none of the others.
    rw [hfirst] at hblanks ⊢
    obtain ⟨hblank, hothers⟩ := List.forall_mem_cons.1 hblanks
    rw [List.append_cons, Rule.ofLine?_append_blanks hothers (escapesNext_concat_blank hblank line)]

/-- Two backslashes escape no blank, and three the first of two. -/
theorem stripBlanks_cuts_backslashes :
    (trailingBackslashes "a\\\\".toList % 2 = 0 ∧
      stripBlanks "a\\\\ \t".toList = "a\\\\".toList ∧
      Rule.ofLine? ("a\\\\".toList ++ " \t".toList) = Rule.ofLine? "a\\\\".toList) ∧
    trailingBackslashes "a\\\\\\".toList % 2 = 1 ∧
      stripBlanks "a\\\\\\ \t".toList = "a\\\\\\ ".toList ∧
      Rule.ofLine? ("a\\\\\\".toList ++ " \t".toList) =
        Rule.ofLine? ("a\\\\\\".toList ++ [' ']) := by
  have hblanks : ∀ c ∈ " \t".toList, c = ' ' ∨ c = '\t' := by simp
  obtain ⟨_, _, heven⟩ := stripBlanks_cuts "a\\\\".toList
  obtain ⟨_, _, hodd⟩ := stripBlanks_cuts "a\\\\\\".toList
  exact ⟨⟨by decide, by decide, (heven _ hblanks).1 (by decide)⟩, by decide, by decide,
    (hodd _ hblanks).2 (by decide) ' ' ['\t'] rfl⟩

end IgnoreRules
