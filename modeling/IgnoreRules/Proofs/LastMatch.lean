import IgnoreRules.RuleSet
import IgnoreRules.Proofs.FullMatch

/-!
# The last match wins

`RuleSet.answer` reads the patterns forwards and carries two things along, the
verdict so far and the pattern behind it; a pattern that is passed over or does not
match leaves both alone. The law is about the way back: what counts is the last
pattern that applies, and nothing before it.

One step of the loop either does nothing or overrules all that was decided before,
and which of the two depends on the pattern and the query alone. So a run of the
loop is one overruling by the last pattern that applies, if there is one. Layering
and the deletion of patterns follow from that without another induction over the
loop: they only move the place where the last such pattern is found.
-/

namespace IgnoreRules

/-- The path with one leading `/` removed. -/
theorem Query.candidate_eq (query : Query) :
    query.candidate = if query.path.head? = some '/' then query.path.tail else query.path := by
  rw [Query.candidate]
  split
  · next rest heq => rw [heq]; rfl
  · next hslash =>
      rw [if_neg]
      intro h
      obtain ⟨rest, heq⟩ := List.head?_eq_some_iff.1 h
      exact hslash rest heq

/-- The pattern applies to the query: it does not speak of directories while the query
is about a file, and it matches the path, less one `/` in front, from end to end. -/
def Pattern.Applies (pattern : Pattern) (query : Query) : Prop :=
  (pattern.directoryOnly = true → query.isDirectory = true) ∧
    pattern.regex.Matches (if query.path.head? = some '/' then query.path.tail else query.path)

theorem Pattern.applies_iff {pattern : Pattern} {query : Query} :
    pattern.Applies query ↔
      ¬ (pattern.directoryOnly && !query.isDirectory) = true ∧
        pattern.accepts query.candidate = true := by
  rw [Pattern.Applies, ← Query.candidate_eq, ← Regex.fullMatch_iff, Pattern.accepts]
  cases pattern.directoryOnly <;> cases query.isDirectory <;> simp

instance (pattern : Pattern) (query : Query) : Decidable (pattern.Applies query) :=
  decidable_of_iff _ Pattern.applies_iff.symm

namespace Decision

/-- The decision when the pattern, if there is one, overrules what was decided. -/
def overruled (decision : Decision) : Option Pattern → Decision
  | none => decision
  | some pattern =>
      { decision with ignored := !pattern.negation, deciding := some pattern }

/-- One step of the loop: a pattern that applies overrules, and no other pattern
leaves a trace. -/
theorem consider_eq (decision : Decision) (pattern : Pattern) :
    decision.consider pattern =
      decision.overruled (if pattern.Applies decision.query then some pattern else none) := by
  unfold consider
  split
  · next hskip =>
      rw [if_neg]
      · rfl
      · intro h
        exact (Pattern.applies_iff.1 h).1 hskip
  · next hskip =>
      split
      · next hmatch =>
          rw [if_pos (Pattern.applies_iff.2 ⟨hskip, hmatch⟩)]
          rfl
      · next hmatch =>
          rw [if_neg]
          · rfl
          · intro h
            exact hmatch (Pattern.applies_iff.1 h).2

theorem overruled_query (decision : Decision) (pattern? : Option Pattern) :
    (decision.overruled pattern?).query = decision.query := by
  cases pattern? <;> rfl

theorem overruled_overruled (decision : Decision) (first second : Option Pattern) :
    (decision.overruled first).overruled second = decision.overruled (second.or first) := by
  cases second with
  | none => rfl
  | some pattern => cases first <;> rfl

end Decision

/-- The last of the patterns that apply to the query. -/
def lastApplying (patterns : List Pattern) (query : Query) : Option Pattern :=
  patterns.reverse.find? fun pattern => decide (pattern.Applies query)

theorem lastApplying_cons (pattern : Pattern) (patterns : List Pattern) (query : Query) :
    lastApplying (pattern :: patterns) query =
      (lastApplying patterns query).or
        (if pattern.Applies query then some pattern else none) := by
  rw [lastApplying, List.reverse_cons, List.find?_append, lastApplying]
  congr 1
  by_cases h : pattern.Applies query <;> simp [h]

theorem lastApplying_singleton (pattern : Pattern) (query : Query) :
    lastApplying [pattern] query = if pattern.Applies query then some pattern else none :=
  lastApplying_cons pattern [] query

theorem lastApplying_append (lower upper : List Pattern) (query : Query) :
    lastApplying (lower ++ upper) query =
      (lastApplying upper query).or (lastApplying lower query) := by
  rw [lastApplying, List.reverse_append, List.find?_append, lastApplying, lastApplying]

/-- A run of the loop is one overruling by the last pattern that applies. -/
theorem foldl_consider (patterns : List Pattern) (decision : Decision) :
    patterns.foldl Decision.consider decision =
      decision.overruled (lastApplying patterns decision.query) := by
  induction patterns generalizing decision with
  | nil => rfl
  | cons pattern patterns ih =>
      rw [List.foldl_cons, ih, Decision.consider_eq, Decision.overruled_query,
        Decision.overruled_overruled, ← lastApplying_cons]

theorem lastApplying_eq_some_iff {patterns : List Pattern} {query : Query}
    {pattern : Pattern} :
    lastApplying patterns query = some pattern ↔
      ∃ before after, patterns = before ++ pattern :: after ∧ pattern.Applies query ∧
        ∀ later ∈ after, ¬ later.Applies query := by
  rw [lastApplying, List.find?_eq_some_iff_append, decide_eq_true_eq]
  constructor
  · intro h
    obtain ⟨happlies, after, before, heq, hafter⟩ := h
    refine ⟨before.reverse, after.reverse, ?_, happlies, fun later hmem => ?_⟩
    · rw [← List.reverse_reverse patterns, heq]
      simp
    · simpa using hafter later (List.mem_reverse.1 hmem)
  · intro h
    obtain ⟨before, after, heq, happlies, hafter⟩ := h
    refine ⟨happlies, after.reverse, before.reverse, ?_, fun later hmem => ?_⟩
    · rw [heq]
      simp
    · simpa using hafter later (List.mem_reverse.1 hmem)

theorem lastApplying_eq_none_iff {patterns : List Pattern} {query : Query} :
    lastApplying patterns query = none ↔ ∀ pattern ∈ patterns, ¬ pattern.Applies query := by
  rw [lastApplying, List.find?_eq_none]
  simp

/-- Patterns that do not apply can be left out. -/
theorem lastApplying_filter {patterns : List Pattern} {query : Query} {keep : Pattern → Bool}
    (hkeep : ∀ pattern ∈ patterns, pattern.Applies query → keep pattern = true) :
    lastApplying (patterns.filter keep) query = lastApplying patterns query := by
  induction patterns with
  | nil => rfl
  | cons pattern patterns ih =>
      obtain ⟨hpattern, hkeep⟩ := List.forall_mem_cons.1 hkeep
      rw [List.filter_cons, lastApplying_cons, ← ih hkeep]
      split
      · rw [lastApplying_cons]
      · next hdrop =>
          rw [if_neg (fun happlies => hdrop (hpattern happlies)), Option.or_none]

/-- Queries that the same patterns apply to have the same last one. -/
theorem lastApplying_congr {patterns : List Pattern} {query other : Query}
    (h : ∀ pattern ∈ patterns, pattern.Applies query ↔ pattern.Applies other) :
    lastApplying patterns query = lastApplying patterns other := by
  induction patterns with
  | nil => rfl
  | cons pattern patterns ih =>
      obtain ⟨hpattern, hpatterns⟩ := List.forall_mem_cons.1 h
      rw [lastApplying_cons, lastApplying_cons, ih hpatterns]
      simp only [hpattern]

/-- Patterns can be changed in what does not count for a query. -/
theorem lastApplying_map (place : Pattern → Pattern)
    (hplace : ∀ pattern query, (place pattern).Applies query ↔ pattern.Applies query)
    (patterns : List Pattern) (query : Query) :
    lastApplying (patterns.map place) query = (lastApplying patterns query).map place := by
  induction patterns with
  | nil => rfl
  | cons pattern patterns ih =>
      rw [List.map_cons, lastApplying_cons, lastApplying_cons, ih]
      by_cases happlies : pattern.Applies query
      · rw [if_pos happlies, if_pos ((hplace pattern query).2 happlies)]
        cases lastApplying patterns query <;> rfl
      · rw [if_neg happlies, if_neg (mt (hplace pattern query).1 happlies)]
        cases lastApplying patterns query <;> rfl

namespace RuleSet

theorem answer_eq (rules : RuleSet) (query : Query) :
    rules.answer query =
      (Decision.initial query).overruled (lastApplying rules.patterns query) :=
  foldl_consider rules.patterns (.initial query)

theorem answer_deciding (rules : RuleSet) (query : Query) :
    (rules.answer query).deciding = lastApplying rules.patterns query := by
  rw [answer_eq]
  cases lastApplying rules.patterns query <;> rfl

/-- The set has the pattern that decides. -/
theorem mem_of_deciding {rules : RuleSet} {query : Query} {pattern : Pattern}
    (h : (rules.answer query).deciding = some pattern) : pattern ∈ rules.patterns := by
  rw [answer_deciding] at h
  exact List.mem_reverse.1 (List.mem_of_find?_eq_some h)

/-- The verdict is kept in step with the deciding pattern. -/
theorem answer_ignored_iff {rules : RuleSet} {query : Query} :
    (rules.answer query).ignored = true ↔
      ∃ pattern, (rules.answer query).deciding = some pattern ∧ pattern.negation = false := by
  rw [answer_deciding, answer_eq]
  cases lastApplying rules.patterns query with
  | none => simp [Decision.overruled, Decision.initial]
  | some pattern => simp [Decision.overruled]

/-- Patterns that are changed in what counts for no query decide as they did. -/
theorem answer_map (change : Pattern → Pattern)
    (happlies : ∀ pattern query, (change pattern).Applies query ↔ pattern.Applies query)
    (hnegation : ∀ pattern, (change pattern).negation = pattern.negation) (rules : RuleSet)
    (query : Query) :
    ((mk (rules.patterns.map change)).answer query).ignored = (rules.answer query).ignored ∧
      ((mk (rules.patterns.map change)).answer query).deciding =
        (rules.answer query).deciding.map change := by
  have hlast := lastApplying_map change happlies rules.patterns query
  rw [answer_deciding, answer_deciding, answer_eq, answer_eq, hlast]
  cases lastApplying rules.patterns query with
  | none => exact ⟨rfl, rfl⟩
  | some pattern => exact ⟨congrArg not (hnegation pattern), rfl⟩

/-- The upper layer overrules the lower one wherever it decides. -/
theorem answer_append (lower upper : RuleSet) (query : Query) :
    (lower ++ upper).answer query =
      (lower.answer query).overruled (upper.answer query).deciding := by
  rw [answer_eq, append_patterns, lastApplying_append, answer_eq lower, answer_deciding,
    Decision.overruled_overruled]

/-- A layer whose patterns all have one sign can turn the verdict in one direction only, and
the layers above it overrule it as they overruled what it lies on. -/
theorem answer_ignored_between {lower middle upper : RuleSet} {negation : Bool} {query : Query}
    (hmiddle : ∀ pattern ∈ middle.patterns, pattern.negation = negation)
    (h : ((lower ++ upper).answer query).ignored = !negation) :
    ((lower ++ middle ++ upper).answer query).ignored = !negation := by
  rw [answer_append] at h
  rw [answer_append (lower ++ middle)]
  cases hupper : (upper.answer query).deciding with
  | some pattern =>
      rw [hupper] at h
      exact h
  | none =>
      rw [hupper] at h
      show ((lower ++ middle).answer query).ignored = !negation
      rw [answer_append]
      cases hdeciding : (middle.answer query).deciding with
      | none => exact h
      | some pattern => exact congrArg not (hmiddle pattern (mem_of_deciding hdeciding))

/-- The answer is that of the upper layer if it decides, and else that of the lower one. -/
theorem answer_append_eq_ite (lower upper : RuleSet) (query : Query) :
    (lower ++ upper).answer query =
      if (upper.answer query).deciding.isSome then upper.answer query
      else lower.answer query := by
  rw [answer_append, answer_deciding, answer_eq upper, answer_eq lower]
  cases lastApplying upper.patterns query with
  | none => rfl
  | some pattern => cases lastApplying lower.patterns query <;> rfl

/-- The last pattern that applies decides alone, so that a set layered over another
has its say wherever one of its patterns applies, and a query about a file is not
touched by patterns for directories. -/
theorem answer_last_match_wins (rules : RuleSet) (query : Query) :
    (∀ pattern, (rules.answer query).deciding = some pattern ↔
      ∃ before after, rules.patterns = before ++ pattern :: after ∧ pattern.Applies query ∧
        ∀ later ∈ after, ¬ later.Applies query) ∧
    ((rules.answer query).deciding = none ↔
      ∀ pattern ∈ rules.patterns, ¬ pattern.Applies query) ∧
    ((rules.answer query).ignored = true ↔
      ∃ pattern, (rules.answer query).deciding = some pattern ∧ pattern.negation = false) ∧
    (∀ upper : RuleSet, (rules ++ upper).answer query =
      if (upper.answer query).deciding.isSome then upper.answer query
      else rules.answer query) ∧
    (query.isDirectory = false → ∀ keep : Pattern → Bool,
      (∀ pattern ∈ rules.patterns, pattern.directoryOnly = false → keep pattern = true) →
        (RuleSet.mk (rules.patterns.filter keep)).answer query = rules.answer query) := by
  refine ⟨fun pattern => ?_, ?_, answer_ignored_iff,
    fun upper => answer_append_eq_ite rules upper query, fun hfile keep hkeep => ?_⟩
  · rw [answer_deciding, lastApplying_eq_some_iff]
  · rw [answer_deciding, lastApplying_eq_none_iff]
  · rw [answer_eq, answer_eq, lastApplying_filter]
    intro pattern hmem happlies
    refine hkeep pattern hmem (Bool.eq_false_iff.2 fun hdirectory => ?_)
    have := happlies.1 hdirectory
    rw [hfile] at this
    cases this

end RuleSet

end IgnoreRules
