import IgnoreRules.Proofs.LineByLine

/-!
# Patterns account for their lines

Lines are numbered as they are read, and those that give no pattern are counted too. So
the number in a pattern leads back to the line that it was made of, and no two patterns
have the same number. `Accounts` says all that is to be said about the patterns of some
lines: where each comes from, that each line has had its say exactly once, and that the
order is that of the lines.

It is stated for any first number, since reading one line leaves the others to be read
with the next number in front; that is all there is to the induction.
-/

namespace IgnoreRules.RuleSet

/-- The patterns account for the lines, the first of which has the given number: each line
that gives a pattern has put it there once, in its place, and there is nothing else. -/
structure Accounts (first : Nat) (origin : Option (List Char)) (lines : List (List Char))
    (patterns : List Pattern) : Prop where
  /-- The patterns stand in the order of their lines. -/
  increasing : patterns.Pairwise fun earlier later => earlier.lineNumber < later.lineNumber
  /-- A pattern has the origin of the lines, and its number leads to its line. -/
  placed : ∀ pattern ∈ patterns, pattern.origin = origin ∧
    ∃ index : Nat, pattern.lineNumber = some ↑(first + index) ∧
      lines[index]? = some pattern.source
  /-- A line has one pattern with its number if it gives one, and none if not. -/
  once : ∀ index line, lines[index]? = some line → ∃ pattern?,
    Pattern.ofLine? line origin (some ↑(first + index)) = .ok pattern? ∧
      patterns.filter (fun pattern => pattern.lineNumber = some ↑(first + index)) =
        pattern?.toList

variable {first : Nat} {origin : Option (List Char)} {lines : List (List Char)}
  {patterns : List Pattern}

namespace Accounts

theorem nil (first : Nat) (origin : Option (List Char)) : Accounts first origin [] [] where
  increasing := List.Pairwise.nil
  placed := List.forall_mem_nil _
  once := by
    intro index line hline
    cases hline

/-- The numbers start with the first one. -/
theorem lt_lineNumber (h : Accounts (first + 1) origin lines patterns) {pattern : Pattern}
    (hmem : pattern ∈ patterns) : some (first : Int) < pattern.lineNumber := by
  obtain ⟨_, index, hnumber, _⟩ := h.placed pattern hmem
  rw [hnumber, Option.some_lt_some, Int.ofNat_lt]
  omega

/-- One more line in front has the number before, and its pattern is no other line's. -/
theorem cons {line : List Char} {pattern? : Option Pattern}
    (hline : Pattern.ofLine? line origin (some ↑first) = .ok pattern?)
    (h : Accounts (first + 1) origin lines patterns) :
    Accounts first origin (line :: lines) (pattern?.toList ++ patterns) := by
  have hnext : ∀ index : Nat, first + 1 + index = first + (index + 1) := fun _ => by omega
  refine ⟨?_, ?_, ?_⟩
  · refine List.pairwise_append.2 ⟨?_, h.increasing, fun earlier hearlier later hlater => ?_⟩
    · cases pattern? with
      | none => exact List.Pairwise.nil
      | some pattern => exact List.pairwise_singleton _ pattern
    · obtain ⟨_, _, hnumber⟩ := Pattern.place_of_mem_ofLine? hline hearlier
      rw [hnumber]
      exact h.lt_lineNumber hlater
  · intro pattern hmem
    rcases List.mem_append.1 hmem with hmem | hmem
    · obtain ⟨hsource, horigin, hnumber⟩ := Pattern.place_of_mem_ofLine? hline hmem
      refine ⟨horigin, 0, hnumber, ?_⟩
      rw [hsource]
      rfl
    · obtain ⟨horigin, index, hnumber, hsource⟩ := h.placed pattern hmem
      refine ⟨horigin, index + 1, ?_, hsource⟩
      rw [hnumber, hnext]
  · intro index other hother
    rw [List.filter_append]
    cases index with
    | zero =>
        cases hother
        have hthis : ∀ pattern ∈ pattern?.toList,
            decide (pattern.lineNumber = some ↑(first + 0)) = true :=
          fun pattern hmem => decide_eq_true (Pattern.place_of_mem_ofLine? hline hmem).2.2
        have hothers : ∀ pattern ∈ patterns,
            ¬ decide (pattern.lineNumber = some ↑(first + 0)) = true := by
          intro pattern hmem hnumber
          have hlt := h.lt_lineNumber hmem
          rw [of_decide_eq_true hnumber, Option.some_lt_some] at hlt
          exact Int.lt_irrefl _ hlt
        refine ⟨pattern?, hline, ?_⟩
        rw [List.filter_eq_self.2 hthis, List.filter_eq_nil_iff.2 hothers, List.append_nil]
    | succ index =>
        obtain ⟨other?, hread, honce⟩ := h.once index other hother
        rw [hnext] at hread honce
        have hthis : ∀ pattern ∈ pattern?.toList,
            ¬ decide (pattern.lineNumber = some ↑(first + (index + 1))) = true := by
          intro pattern hmem hnumber
          obtain ⟨_, _, hfirst⟩ := Pattern.place_of_mem_ofLine? hline hmem
          rw [hfirst, decide_eq_true_eq, Option.some.injEq, Int.ofNat_inj] at hnumber
          omega
        refine ⟨other?, hread, ?_⟩
        rw [List.filter_eq_nil_iff.2 hthis, List.nil_append]
        exact honce

/-- A pattern is what its own line gives in its own place. -/
theorem ofLine?_of_mem (h : Accounts first origin lines patterns) {pattern : Pattern}
    (hmem : pattern ∈ patterns) :
    Pattern.ofLine? pattern.source origin pattern.lineNumber = .ok (some pattern) := by
  obtain ⟨_, index, hnumber, hsource⟩ := h.placed pattern hmem
  obtain ⟨pattern?, hread, honce⟩ := h.once index pattern.source hsource
  have hfilter : pattern ∈ patterns.filter fun other =>
      other.lineNumber = some ↑(first + index) :=
    List.mem_filter.2 ⟨hmem, decide_eq_true hnumber⟩
  rw [honce, Option.mem_toList] at hfilter
  rw [hnumber, hread, hfilter]

end Accounts

/-- The patterns of lines account for them. -/
theorem accounts_of_patternsFrom (h : patternsFrom first origin lines = .ok patterns) :
    Accounts first origin lines patterns := by
  induction lines generalizing first patterns with
  | nil =>
      cases h
      exact .nil first origin
  | cons line lines ih =>
      obtain ⟨pattern?, later, hline, hlater, heq⟩ := patternsFrom_cons_eq_ok_iff.1 h
      rw [← heq]
      exact .cons hline (ih hlater)

theorem accounts_of_ofLines {rules : RuleSet} (h : ofLines lines origin = .ok rules) :
    Accounts 1 origin lines rules.patterns :=
  accounts_of_patternsFrom (ofLines_eq_ok_iff.1 h)

end IgnoreRules.RuleSet
