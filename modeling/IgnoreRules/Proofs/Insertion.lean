import IgnoreRules.Proofs.Accounting

/-!
# Lines put in between others

What new lines do to the verdicts depends on where they are put, since the lines behind
them can overrule them, and on the lines before them only where nothing else decides.
Two things can be said wherever they are put. Lines of one sign turn a verdict in one
direction only. And lines that give no pattern change nothing but numbers: the lines
behind them are now further down.

So the two sets to be compared have the same patterns from the old lines, but for the
numbers behind the new ones. `Pattern.makeRoom` is this change of numbers. It does not
touch verdicts, and it leaves just one layer to be looked at, that of the new lines.
-/

namespace IgnoreRules

/-- The number of a line after `count` lines have been put in behind the first `place`. -/
def movedNumber (place count : Nat) : Option Int → Option Int :=
  Option.map fun number => if ↑place < number then number + count else number

theorem movedNumber_of_lt {place index : Nat} (count : Nat) (h : index < place) :
    movedNumber place count (some ↑(1 + index)) = some ↑(1 + index) := by
  have hplace : ¬ (place : Int) < ↑(1 + index) := by omega
  rw [movedNumber, Option.map_some, if_neg hplace]

theorem movedNumber_of_le {place index : Nat} (count : Nat) (h : place ≤ index) :
    movedNumber place count (some ↑(1 + index)) = some ↑(1 + index + count) := by
  have hplace : (place : Int) < ↑(1 + index) := by omega
  rw [movedNumber, Option.map_some, if_pos hplace, Int.natCast_add (1 + index)]

/-- The pattern after `count` lines have been put in behind the first `place` lines. -/
def Pattern.makeRoom (place count : Nat) : Pattern → Pattern :=
  relocated id (movedNumber place count)

theorem Pattern.makeRoom_eq {place count index : Nat} {pattern : Pattern}
    (hnumber : pattern.lineNumber = some ↑(1 + index)) :
    pattern.makeRoom place count = { pattern with
      lineNumber := some ↑(if index < place then index + 1 else index + count + 1) } := by
  rw [makeRoom, relocated, hnumber]
  by_cases hindex : index < place
  · rw [movedNumber_of_lt count hindex, if_pos hindex, Nat.add_comm 1]
    rfl
  · rw [movedNumber_of_le count (Nat.le_of_not_lt hindex), if_neg hindex, Nat.add_comm 1,
      Nat.add_right_comm]
    rfl

namespace RuleSet

variable {lines inserted more : List (List Char)} {origin : Option (List Char)}

/-- A pattern of some lines is what its line gives, whatever its place. -/
theorem exists_line_of_mem {number : Nat} {patterns : List Pattern}
    (h : patternsFrom number origin lines = .ok patterns) {pattern : Pattern}
    (hmem : pattern ∈ patterns) :
    pattern.source ∈ lines ∧
      Pattern.ofLine? pattern.source none none = .ok (some pattern.unplaced) := by
  have haccounts := accounts_of_patternsFrom h
  obtain ⟨_, index, _, hsource⟩ := haccounts.placed pattern hmem
  refine ⟨List.mem_of_getElem? hsource, ?_⟩
  rw [← Pattern.ofLine?_unplaced pattern.source origin pattern.lineNumber,
    haccounts.ofLine?_of_mem hmem]
  rfl

/-- Lines in front keep their numbers. -/
theorem map_makeRoom_lines {patterns : List Pattern} (count : Nat)
    (h : patternsFrom 1 origin lines = .ok patterns) :
    patterns.map (Pattern.makeRoom lines.length count) = patterns := by
  have hkept : (patternsFrom 1 origin lines).map
      (List.map (Pattern.makeRoom lines.length count)) = patternsFrom 1 origin lines :=
    patternsFrom_relocated id _ origin fun _ hindex => movedNumber_of_lt count hindex
  rw [h] at hkept
  exact Except.ok.inj hkept

/-- Lines behind have their numbers moved on. -/
theorem patternsFrom_makeRoom {place : Nat} {patterns : List Pattern} (count : Nat)
    (h : patternsFrom (1 + place) origin more = .ok patterns) :
    patternsFrom (1 + place + count) origin more =
      .ok (patterns.map (Pattern.makeRoom place count)) := by
  have hmoved : (patternsFrom (1 + place) origin more).map
      (List.map (Pattern.makeRoom place count)) =
        patternsFrom (1 + place + count) origin more := by
    refine patternsFrom_relocated id _ origin fun index _ => ?_
    have hnumber := movedNumber_of_le count (Nat.le_add_right place index)
    rwa [← Nat.add_assoc, Nat.add_right_comm _ index count] at hnumber
  rw [← hmoved, h]
  rfl

/-- The rules after `count` lines have been put in behind the first `place` lines. -/
def makeRoom (place count : Nat) : RuleSet → RuleSet :=
  relocated id (movedNumber place count)

/-- With lines put in, the patterns of the old lines make room for those of the new, which
comes to nothing for those in front. -/
theorem exists_ofLines_insert {lower middle upper : RuleSet}
    (hlines : ofLines lines origin = .ok lower) (hinserted : ofLines inserted origin = .ok middle)
    (hmore : ofLines more origin = .ok upper) :
    ∃ between top : RuleSet,
      patternsFrom (1 + lines.length) origin inserted = .ok between.patterns ∧
      lower.makeRoom lines.length inserted.length = lower ∧
      ofLines (lines ++ more) origin = .ok (lower ++ top) ∧
      ofLines (lines ++ inserted ++ more) origin =
        .ok (lower ++ between ++ top.makeRoom lines.length inserted.length) := by
  rw [ofLines_eq_ok_iff] at hlines hinserted hmore
  obtain ⟨between, hbetween, _⟩ := exists_patternsFrom_moved hinserted (1 + lines.length) origin
  obtain ⟨top, htop, _⟩ := exists_patternsFrom_moved hmore (1 + lines.length) origin
  have hfurther := patternsFrom_makeRoom inserted.length htop
  rw [Nat.add_assoc, ← List.length_append] at hfurther
  refine ⟨⟨between⟩, ⟨top⟩, hbetween, congrArg mk (map_makeRoom_lines inserted.length hlines),
    ofLines_eq_ok_iff.2 (patternsFrom_append hlines htop), ?_⟩
  exact ofLines_eq_ok_iff.2
    (patternsFrom_append (patternsFrom_append hlines hbetween) hfurther)

section

variable {lower between top : RuleSet} {place count : Nat}
  (hlower : lower.makeRoom place count = lower)

include hlower

theorem makeRoom_append :
    (lower ++ top).makeRoom place count = lower ++ top.makeRoom place count := by
  have happend := relocated_append id (movedNumber place count) lower top
  have hkept : lower.relocated id (movedNumber place count) = lower := hlower
  rwa [hkept] at happend

/-- A layer of one sign, put in between, turns verdicts in one direction only. -/
theorem answer_ignored_insert {negation : Bool} {query : Query}
    (hsign : ∀ pattern ∈ between.patterns, pattern.negation = negation)
    (h : ((lower ++ top).answer query).ignored = !negation) :
    ((lower ++ between ++ top.makeRoom place count).answer query).ignored = !negation := by
  refine answer_ignored_between hsign ?_
  rw [← makeRoom_append hlower]
  exact (answer_relocated id (movedNumber place count) (lower ++ top) query).1.trans h

/-- A layer without patterns changes numbers only. -/
theorem answer_insert_nil (hnil : between.patterns = []) (query : Query) :
    ((lower ++ between ++ top.makeRoom place count).answer query).ignored =
        ((lower ++ top).answer query).ignored ∧
      ((lower ++ between ++ top.makeRoom place count).answer query).deciding =
        ((lower ++ top).answer query).deciding.map (Pattern.makeRoom place count) := by
  have hempty : between = empty := congrArg mk hnil
  rw [hempty, append_empty, ← makeRoom_append hlower]
  exact answer_relocated id (movedNumber place count) (lower ++ top) query

end

/-- Lines put in between others turn verdicts in the direction of their signs only. If they
give no pattern, verdicts and deciding lines stay what they were, and the number of such
a line goes up by the number of new lines exactly when it stands behind them. -/
theorem answer_insert_lines {lower middle upper : RuleSet}
    (hlines : ofLines lines origin = .ok lower) (hinserted : ofLines inserted origin = .ok middle)
    (hmore : ofLines more origin = .ok upper) :
    ∃ shorter longer, ofLines (lines ++ more) origin = .ok shorter ∧
      ofLines (lines ++ inserted ++ more) origin = .ok longer ∧ ∀ query,
      ((∀ line ∈ inserted, ∀ pattern, Pattern.ofLine? line none none = .ok (some pattern) →
          pattern.negation = false) →
        (shorter.answer query).ignored = true → (longer.answer query).ignored = true) ∧
      ((∀ line ∈ inserted, ∀ pattern, Pattern.ofLine? line none none = .ok (some pattern) →
          pattern.negation = true) →
        (shorter.answer query).ignored = false → (longer.answer query).ignored = false) ∧
      ((∀ line ∈ inserted, Pattern.ofLine? line none none = .ok none) →
        (longer.answer query).ignored = (shorter.answer query).ignored ∧
        ((shorter.answer query).deciding = none → (longer.answer query).deciding = none) ∧
        ∀ pattern, (shorter.answer query).deciding = some pattern →
          ∃ index : Nat, pattern.lineNumber = some ↑(index + 1) ∧
            (lines ++ more)[index]? = some pattern.source ∧
            (longer.answer query).deciding = some { pattern with
              lineNumber := some ↑(if index < lines.length then index + 1
                else index + inserted.length + 1) }) := by
  obtain ⟨between, top, hbetween, hlower, hshorter, hlonger⟩ :=
    exists_ofLines_insert hlines hinserted hmore
  have hturn : ∀ negation query,
      (∀ line ∈ inserted, ∀ pattern, Pattern.ofLine? line none none = .ok (some pattern) →
        pattern.negation = negation) →
      ((lower ++ top).answer query).ignored = (!negation) →
      ((lower ++ between ++ top.makeRoom lines.length inserted.length).answer query).ignored =
        !negation := by
    intro negation query hsign
    refine answer_ignored_insert hlower fun pattern hmem => ?_
    obtain ⟨hsource, hline⟩ := exists_line_of_mem hbetween hmem
    exact hsign pattern.source hsource pattern.unplaced hline
  refine ⟨_, _, hshorter, hlonger, fun query => ⟨hturn false query, hturn true query, ?_⟩⟩
  intro hnone
  have hnil : between.patterns = [] := by
    refine List.eq_nil_iff_forall_not_mem.2 fun pattern hmem => ?_
    obtain ⟨hsource, hline⟩ := exists_line_of_mem hbetween hmem
    rw [hnone pattern.source hsource] at hline
    cases hline
  obtain ⟨hignored, hdeciding⟩ := answer_insert_nil hlower hnil query
  rw [hdeciding]
  refine ⟨hignored, fun hundecided => ?_, fun pattern hpattern => ?_⟩
  · rw [hundecided]
    rfl
  · obtain ⟨_, index, hnumber, hsource⟩ :=
      (accounts_of_ofLines hshorter).placed pattern (mem_of_deciding hpattern)
    refine ⟨index, ?_, hsource, ?_⟩
    · rw [hnumber, Nat.add_comm]
    · rw [hpattern, Option.map_some, Pattern.makeRoom_eq hnumber]

/-- A comment and a range out of order, put in between two rules: the second rule takes the
same log back in, and is now found two lines further down. -/
theorem answer_insert_lines_notes :
    ∃ shorter longer, ofLines ["*.log".toList, "!a.log ".toList] (some "r".toList) = .ok shorter ∧
      ofLines ["*.log".toList, "# kept".toList, "[z-a]".toList, "!a.log ".toList]
        (some "r".toList) = .ok longer ∧
      (shorter.answer ⟨"a.log".toList, false⟩).location = "r:2".toList ∧
      (longer.answer ⟨"a.log".toList, false⟩).location = "r:4".toList ∧
      ∀ query, (longer.answer query).ignored = (shorter.answer query).ignored := by
  obtain ⟨lower, hlower⟩ := exists_of_isOk (by decide +kernel :
    (ofLines ["*.log".toList] (some "r".toList)).isOk = true)
  obtain ⟨middle, hmiddle⟩ := exists_of_isOk (by decide +kernel :
    (ofLines ["# kept".toList, "[z-a]".toList] (some "r".toList)).isOk = true)
  obtain ⟨upper, hupper⟩ := exists_of_isOk (by decide +kernel :
    (ofLines ["!a.log ".toList] (some "r".toList)).isOk = true)
  obtain ⟨shorter, longer, hshorter, hlonger, hquery⟩ :=
    answer_insert_lines hlower hmiddle hupper
  have hnone : ∀ line ∈ ["# kept".toList, "[z-a]".toList],
      (Pattern.ofLine? line none none).toOption = some none := by
    decide +kernel
  have hlocations : (ofLines (["*.log".toList] ++ ["!a.log ".toList])
        (some "r".toList)).toOption.map
        (fun rules => (rules.answer ⟨"a.log".toList, false⟩).location) = some "r:2".toList ∧
      (ofLines (["*.log".toList] ++ ["# kept".toList, "[z-a]".toList] ++ ["!a.log ".toList])
        (some "r".toList)).toOption.map
        (fun rules => (rules.answer ⟨"a.log".toList, false⟩).location) = some "r:4".toList := by
    decide +kernel
  rw [hshorter, hlonger] at hlocations
  exact ⟨shorter, longer, hshorter, hlonger, Option.some.inj hlocations.1,
    Option.some.inj hlocations.2, fun query =>
      ((hquery query).2.2 fun line hmem => eq_ok_of_toOption (hnone line hmem)).1⟩

end RuleSet

end IgnoreRules
