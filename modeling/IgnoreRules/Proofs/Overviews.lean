import Mathlib.Algebra.BigOperators.Group.List.Lemmas
import Mathlib.Algebra.GroupWithZero.Nat
import IgnoreRules.Proofs.Cells

/-!
# Overviews count what the tables show

Decisions and patterns are shown in two panels each, an overview and a table, and the two are
worked out apart: the overview counts decisions or patterns, the table writes a row for each of
them. A reader can only compare what is written, so an overview is held against the rows and
cells of its table, and these are found by the headings of the columns.

The verdicts are the one case with more to it than a count. The overview lists only those that
occur and has a word of its own where there are none. `IsTally` says what such a list is, for
the words of any column: each word that occurs once, in alphabetical order, with the number of
times it does. That the numbers add up to the number of rows holds of every tally.
-/

namespace IgnoreRules

namespace Panel

/-- The rows of the table in a panel. A panel without a table has none. -/
def rows (panel : Panel) : List (List (List Char)) :=
  match panel.body with
  | .table _ rows => rows
  | _ => []

/-- The headings of the table in a panel. -/
def headings (panel : Panel) : List (List Char) :=
  match panel.body with
  | .table header _ => header
  | _ => []

/-- The cells under a heading from the top to the bottom, one for each row. -/
def column (panel : Panel) (heading : List Char) : List (List Char) :=
  panel.rows.map fun row => (row[panel.headings.idxOf heading]?).getD []

/-- What a panel says under a name, if it lists facts. -/
def fact? (panel : Panel) (name : List Char) : Option (List Char) :=
  match panel.body with
  | .facts facts => facts.lookup name
  | _ => none

section

variable {title : List Char} {note header : List (List Char)} {rows : List (List (List Char))}
  {empty : Prop} [Decidable empty] (h : empty → rows = [])

include h

/-- A note in place of a table without rows makes no difference to the rows. -/
theorem rows_table :
    Panel.rows ⟨title, if empty then .lines note else .table header rows⟩ = rows := by
  by_cases hempty : empty
  · rw [if_pos hempty, h hempty]
    rfl
  · rw [if_neg hempty]
    rfl

theorem column_table (heading : List Char) :
    Panel.column ⟨title, if empty then .lines note else .table header rows⟩ heading =
      rows.map fun row => (row[header.idxOf heading]?).getD [] := by
  by_cases hempty : empty
  · rw [if_pos hempty, h hempty]
    rfl
  · rw [if_neg hempty]
    rfl

end

end Panel

/-- The tally lists the words that occur, each once and in alphabetical order, with the number of
times that they do. -/
structure IsTally (words : List (List Char)) (tally : List (List Char × Nat)) : Prop where
  sorted : (tally.map Prod.fst).Pairwise (· < ·)
  counted : ∀ word count, (word, count) ∈ tally ↔ word ∈ words ∧ count = words.count word

/-- The words in the given order, as far as they occur, with the number of times they do. -/
def tallyIn (order words : List (List Char)) : List (List Char × Nat) :=
  (order.filter words.contains).map fun word => (word, words.count word)

/-- A word with its number. -/
def tallyEntry (entry : List Char × Nat) : List Char :=
  entry.1 ++ '=' :: Decimal.natural entry.2

/-- A tally in words: the entries side by side, or the word for none. -/
def tallyText (tally : List (List Char × Nat)) : List Char :=
  if tally = [] then "none".toList else "  ".toList.intercalate (tally.map tallyEntry)

/-! ## Tallies -/

section

variable {order words : List (List Char)} {tally : List (List Char × Nat)}

theorem isTally_tallyIn (hsorted : order.Pairwise (· < ·)) (hall : ∀ word ∈ words, word ∈ order) :
    IsTally words (tallyIn order words) := by
  refine ⟨?_, fun word count => ?_⟩
  · rw [tallyIn, List.map_map]
    exact (List.map_id _).symm ▸ hsorted.filter words.contains
  · rw [tallyIn, List.mem_map]
    constructor
    · rintro ⟨_, hmem, heq⟩
      cases heq
      exact ⟨List.contains_iff_mem.1 (List.mem_filter.1 hmem).2, rfl⟩
    · rintro ⟨hmem, rfl⟩
      exact ⟨word, List.mem_filter.2 ⟨hall word hmem, List.contains_iff_mem.2 hmem⟩, rfl⟩

theorem IsTally.mem_map_fst_iff (h : IsTally words tally) {word : List Char} :
    word ∈ tally.map Prod.fst ↔ word ∈ words := by
  rw [List.mem_map]
  constructor
  · rintro ⟨entry, hmem, rfl⟩
    exact ((h.counted entry.1 entry.2).1 hmem).1
  · intro hmem
    exact ⟨(word, words.count word), (h.counted _ _).2 ⟨hmem, rfl⟩, rfl⟩

/-- Every word is counted, and none twice. -/
theorem IsTally.sum_eq (h : IsTally words tally) : (tally.map Prod.snd).sum = words.length := by
  have hcounts : tally.map Prod.snd = (tally.map Prod.fst).map (words.count ·) := by
    rw [List.map_map]
    exact List.map_congr_left fun entry hmem => ((h.counted entry.1 entry.2).1 hmem).2
  have hnodup : (tally.map Prod.fst).Nodup := by
    refine h.sorted.imp fun hlt => ?_
    rintro rfl
    exact List.lt_irrefl _ hlt
  have hperm : (tally.map Prod.fst).Perm words.dedup := by
    refine (List.perm_ext_iff_of_nodup hnodup words.nodup_dedup).2 fun word => ?_
    rw [List.mem_dedup, h.mem_map_fst_iff]
  rw [hcounts, (hperm.map _).sum_eq]
  convert List.sum_map_count_dedup_eq_length words
  rfl

theorem IsTally.eq_nil_iff (h : IsTally words tally) : tally = [] ↔ words = [] := by
  simp only [List.eq_nil_iff_forall_not_mem, ← h.mem_map_fst_iff]
  rw [← List.eq_nil_iff_forall_not_mem, ← List.eq_nil_iff_forall_not_mem, List.map_eq_nil_iff]

/-- Every entry has an equals sign, and so no entries are taken for none. -/
theorem tallyText_eq_none_iff : tallyText tally = "none".toList ↔ tally = [] := by
  refine ⟨fun h => ?_, fun h => if_pos h⟩
  cases tally with
  | nil => rfl
  | cons entry others =>
      have hmem : '=' ∈ tallyText (entry :: others) := by
        rw [tallyText, if_neg (List.cons_ne_nil entry others)]
        cases others <;> simp [tallyEntry]
      rw [h] at hmem
      exact absurd hmem (by decide)

end

namespace Report

/-! ## Decisions -/

/-- The overview says of the table how many rows it has and how many of them show which verdict;
together these are all rows. -/
structure CountsVerdicts (overview table : Panel) : Prop where
  paths : overview.fact? "Paths".toList = some (Decimal.natural table.rows.length)
  verdicts : ∃ tally, IsTally (table.column "Verdict".toList) tally ∧
    overview.fact? "Verdicts".toList = some (tallyText tally) ∧
    (tally.map Prod.snd).sum = table.rows.length

section

variable (decisions : List Decision)

/-- What the column of verdicts is to show. -/
def verdictWords : List (List Char) :=
  decisions.map (verdictWord ·.verdict)

/-- The verdicts that occur, with their counts. -/
def verdictTally : List (List Char × Nat) :=
  tallyIn ([Verdict.ignored, Verdict.included].map verdictWord) (verdictWords decisions)

theorem mem_verdictWords {word : List Char} (h : word ∈ verdictWords decisions) :
    word ∈ [Verdict.ignored, Verdict.included].map verdictWord := by
  obtain ⟨decision, _, rfl⟩ := List.mem_map.1 h
  refine List.mem_map_of_mem ?_
  cases decision.verdict <;> decide

theorem verdictWord_injective : Function.Injective verdictWord := by
  intro verdict other h
  cases verdict <;> cases other
  · rfl
  · cases h
  · cases h
  · rfl

theorem count_verdictWords (verdict : Verdict) :
    (verdictWords decisions).count (verdictWord verdict) =
      decisions.countP (·.verdict = verdict) := by
  rw [verdictWords, List.count, List.countP_map]
  refine List.countP_congr fun decision _ => ?_
  simp [verdictWord_injective.eq_iff]

/-- A verdict is counted by its word. -/
theorem verdictCount_eq (verdict : Verdict) :
    verdictCount decisions verdict =
      if verdictWord verdict ∈ verdictWords decisions then
        some (tallyEntry (verdictWord verdict,
          (verdictWords decisions).count (verdictWord verdict)))
      else none := by
  rw [verdictCount, ← count_verdictWords]
  split
  · next hzero => rw [if_neg (List.count_eq_zero.1 hzero)]
  · next hsome =>
      rw [if_pos (List.count_pos_iff.1 (Nat.pos_of_ne_zero hsome))]
      rfl

theorem filterMap_verdictCount (verdicts : List Verdict) :
    verdicts.filterMap (verdictCount decisions) =
      (tallyIn (verdicts.map verdictWord) (verdictWords decisions)).map tallyEntry := by
  induction verdicts with
  | nil => rfl
  | cons verdict others ih =>
      rw [tallyIn] at ih
      rw [List.filterMap_cons, verdictCount_eq, ih, tallyIn, List.map_cons, List.filter_cons]
      by_cases hmem : verdictWord verdict ∈ verdictWords decisions
      · rw [if_pos hmem, if_pos (List.contains_iff_mem.2 hmem)]
        rfl
      · rw [if_neg hmem, if_neg fun h => hmem (List.contains_iff_mem.1 h)]

/-- The verdicts in the overview are the tally of their words. -/
theorem verdictCounts_eq : verdictCounts decisions = tallyText (verdictTally decisions) := by
  rw [verdictCounts, filterMap_verdictCount, ← verdictTally, tallyText]
  cases verdictTally decisions <;> rfl

theorem isTally_verdictTally : IsTally (verdictWords decisions) (verdictTally decisions) :=
  isTally_tallyIn (by decide) fun _ => mem_verdictWords decisions

end

section

variable [Markup.Display] {verbose : Bool} {decisions : List Decision} {overview table : Panel}
  (h : Report.decisions verbose decisions = [overview, table])

include h

theorem length_rows_decisions : table.rows.length = decisions.length := by
  cases h
  rw [Panel.rows_table fun hnone => by rw [hnone]; rfl, List.length_map]

theorem column_decisions : table.column "Verdict".toList = verdictWords decisions := by
  cases h
  rw [Panel.column_table fun hnone => by rw [hnone]; rfl, List.map_map, verdictWords]
  refine List.map_congr_left fun decision _ => ?_
  cases verbose <;> rfl

theorem fact?_verdicts : overview.fact? "Verdicts".toList = some (verdictCounts decisions) := by
  cases h
  rfl

theorem countsVerdicts : CountsVerdicts overview table := by
  have hlength := length_rows_decisions h
  have htally := isTally_verdictTally decisions
  refine ⟨?_, verdictTally decisions, column_decisions h ▸ htally, ?_, ?_⟩
  · rw [hlength]
    cases h
    rfl
  · rw [fact?_verdicts h, verdictCounts_eq]
  · rw [htally.sum_eq, hlength, verdictWords, List.length_map]

theorem fact?_verdicts_eq_none_iff :
    overview.fact? "Verdicts".toList = some "none".toList ↔ decisions = [] := by
  rw [fact?_verdicts h, Option.some_inj, verdictCounts_eq, tallyText_eq_none_iff,
    (isTally_verdictTally decisions).eq_nil_iff, verdictWords, List.map_eq_nil_iff]

end

/-! ## Patterns -/

/-- The overview says of the table how many rows it has, and how many of them are marked as
negations and as patterns for directories. -/
structure CountsPatterns (overview table : Panel) : Prop where
  patterns : overview.fact? "Patterns".toList = some (Decimal.natural table.rows.length)
  negations : overview.fact? "Negations".toList =
    some (Decimal.natural ((table.column "Neg".toList).count "yes".toList))
  directories : overview.fact? "Directory-only".toList =
    some (Decimal.natural ((table.column "Dir".toList).count "yes".toList))

/-- The table shows the patterns in their order, each with a number, counted from one. The marks
are shown by words of the program, and all else is text of the patterns. -/
structure ListsPatterns [Markup.Display] (table : Panel) (patterns : List Pattern) : Prop where
  numbers : table.column "#".toList =
    (List.range' 1 patterns.length).map Decimal.natural
  sources : List.Forall₂ Shows (table.column "Pattern".toList) (patterns.map (·.source))
  negations : table.column "Neg".toList = patterns.map (flag ·.negation)
  directories : table.column "Dir".toList = patterns.map (flag ·.directoryOnly)
  anchors : table.column "Anchor".toList = patterns.map (flag ·.anchored)
  expressions : List.Forall₂ Shows (table.column "Regex".toList) (patterns.map (·.expression))
  locations : List.Forall₂ Shows (table.column "Source".toList) (patterns.map (·.location))

/-- A column of texts that are shown as they are holds these texts. -/
theorem eq_of_forall₂_shows [Markup.Display] {cells texts : List (List Char)}
    (h : List.Forall₂ Shows cells texts) (hall : ∀ text ∈ texts, AsItIs text) : cells = texts := by
  induction h with
  | nil => rfl
  | cons hshows _ ih =>
      obtain ⟨htext, hall⟩ := List.forall_mem_cons.1 hall
      rw [hshows.asItIs.2 htext, ih hall]

/-- As many cells are marked as have the mark. -/
theorem count_flag (patterns : List Pattern) (mark : Pattern → Bool) :
    (patterns.map (flag <| mark ·)).count "yes".toList = patterns.countP mark := by
  rw [List.count, List.countP_map]
  refine List.countP_congr fun pattern _ => ?_
  rw [Function.comp_apply]
  cases mark pattern <;> decide

section

variable [Markup.Display] {rules : RuleSet} {overview table : Panel}
  (h : Report.patterns rules = [overview, table])

include h

theorem column_patterns (heading : List Char) :
    table.column heading = (rules.patterns.zipIdx 1).map fun (pattern, index) =>
      ((patternRow pattern index)[patternHeader.idxOf heading]?).getD [] := by
  cases h
  rw [Panel.column_table fun hnone => by rw [hnone]; rfl, List.map_map]
  rfl

/-- The number of a row is of no account in the cells that show the pattern. -/
theorem column_patterns_eq_map {heading : List Char} {cell : Pattern → List Char}
    (hcell : ∀ pattern index,
      ((patternRow pattern index)[patternHeader.idxOf heading]?).getD [] = cell pattern) :
    table.column heading = rules.patterns.map cell := by
  conv_rhs => rw [← List.zipIdx_map_fst 1 rules.patterns, List.map_map]
  rw [column_patterns h]
  exact List.map_congr_left fun _ _ => hcell _ _

theorem column_patterns_eq_shown {heading : List Char} {text : Pattern → List Char}
    (hcell : ∀ pattern index,
      ((patternRow pattern index)[patternHeader.idxOf heading]?).getD [] = shown (text pattern)) :
    table.column heading = (rules.patterns.map text).map shown := by
  rw [column_patterns_eq_map h hcell, List.map_map]
  rfl

theorem column_sources :
    table.column "Pattern".toList = (rules.patterns.map (·.source)).map shown :=
  column_patterns_eq_shown h fun _ _ => rfl

theorem forall₂_shows {heading : List Char} {text : Pattern → List Char}
    (hcell : ∀ pattern index,
      ((patternRow pattern index)[patternHeader.idxOf heading]?).getD [] = shown (text pattern)) :
    List.Forall₂ Shows (table.column heading) (rules.patterns.map text) := by
  rw [column_patterns_eq_shown h hcell, List.forall₂_map_left_iff, List.forall₂_same]
  exact fun cell _ => shows_shown cell

theorem listsPatterns : ListsPatterns table rules.patterns where
  numbers := by
    rw [column_patterns h, ← List.zipIdx_map_snd, List.map_map]
    rfl
  sources := forall₂_shows h fun _ _ => rfl
  negations := column_patterns_eq_map h fun _ _ => rfl
  directories := column_patterns_eq_map h fun _ _ => rfl
  anchors := column_patterns_eq_map h fun _ _ => rfl
  expressions := forall₂_shows h fun _ _ => rfl
  locations := forall₂_shows h fun _ _ => rfl

theorem length_rows_patterns : table.rows.length = rules.size := by
  have hlength := congrArg List.length (listsPatterns h).anchors
  rw [Panel.column, List.length_map, List.length_map] at hlength
  exact hlength

theorem countsPatterns : CountsPatterns overview table := by
  have hlists := listsPatterns h
  have hlength := length_rows_patterns h
  cases h
  refine ⟨?_, ?_, ?_⟩
  · rw [hlength]
    rfl
  · rw [hlists.negations, count_flag]
    rfl
  · rw [hlists.directories, count_flag]
    rfl

end

section

variable [Markup.Display]

/-- The overview of a check counts the rows of its table, and the rows with each verdict that
occurs in it, in alphabetical order; that there are none it says just of no decisions at all.
The overview of patterns counts the rows of its table and the marks in two of its columns, and
the table lists the patterns in the order in which they are tried, numbered from one. Their texts
are escaped to be shown as they are, and are so as far as escaping goes. -/
theorem overviews_count_rows (verbose : Bool) (decisions : List Decision) (rules : RuleSet) :
    (∃ overview table, Report.decisions verbose decisions = [overview, table] ∧
      table.rows.length = decisions.length ∧
      table.column "Verdict".toList = decisions.map (verdictWord ·.verdict) ∧
      CountsVerdicts overview table ∧
      (overview.fact? "Verdicts".toList = some "none".toList ↔ decisions = [])) ∧
    (∃ overview table, Report.patterns rules = [overview, table] ∧
      table.rows.length = rules.size ∧
      CountsPatterns overview table ∧ ListsPatterns table rules.patterns) ∧
    ∀ number, Nat.ofDigitChars 10 (Decimal.natural number) 0 = number := by
  refine ⟨?_, ?_, fun number => Nat.ofDigitChars_ten_toDigits⟩
  · have h : Report.decisions verbose decisions = [_, _] := rfl
    exact ⟨_, _, h, length_rows_decisions h, column_decisions h, countsVerdicts h,
      fact?_verdicts_eq_none_iff h⟩
  · have h : Report.patterns rules = [_, _] := rfl
    exact ⟨_, _, h, length_rows_patterns h, countsPatterns h, listsPatterns h⟩

end

/-- A line for files, one for a directory, and one that makes an exception. -/
def plainLines : List (List Char) :=
  ["*.[ch]".toList, "build/".toList, "!a\\\\.c".toList]

/-- A line that ends in a backslash, and one that ends in two. -/
def backslashLines : List (List Char) :=
  ["a\\".toList, "a\\\\".toList]

/-- In these lines there are neither colons nor control characters. -/
theorem shown_of_mem_lines [Markup.Display] {line : List Char}
    (h : line ∈ plainLines ++ backslashLines) : shown line = Markup.afterEscape line := by
  have hall : (plainLines ++ backslashLines).all (fun line =>
      line.all fun c => c ≠ ':' && !Markup.isControl c) = true := by
    decide
  have hline := List.all_eq_true.1 (List.all_eq_true.1 hall line h)
  refine shown_eq_afterEscape (fun hcolon => ?_) fun c hmem => ?_
  · exact absurd (hline ':' hcolon) (by decide)
  · simpa using (Bool.and_eq_true_iff.1 (hline c hmem)).2

theorem overviews_count_rows_plainLines :
    ∃ rules, RuleSet.ofLines plainLines none = .ok rules ∧
      ∀ [Markup.Display], ∃ overview table, Report.patterns rules = [overview, table] ∧
        table.column "Pattern".toList = plainLines ∧
        overview.fact? "Patterns".toList = some "3".toList := by
  obtain ⟨rules, hrules⟩ : ∃ rules, RuleSet.ofLines plainLines none = .ok rules :=
    exists_of_isOk (by decide +kernel)
  have hsources : (RuleSet.ofLines plainLines none).toOption.map (fun rules =>
      rules.patterns.map (·.source)) = some plainLines := by
    decide +kernel
  rw [hrules] at hsources
  have hlines : rules.patterns.map (·.source) = plainLines := Option.some.inj hsources
  refine ⟨rules, hrules, ?_⟩
  intro display
  obtain ⟨_, ⟨overview, table, h, hlength, hcounts, hlists⟩, _⟩ :=
    overviews_count_rows true [] rules
  refine ⟨overview, table, h, ?_, ?_⟩
  · refine eq_of_forall₂_shows (hlines ▸ hlists.sources) fun line hmem => ?_
    rw [← shown_eq_self_iff, shown_of_mem_lines (List.mem_append_left _ hmem)]
    revert line
    decide +kernel
  · rw [hcounts.patterns, hlength, RuleSet.size, ← List.length_map (·.source), hlines]
    rfl

/-- Whatever displays it, the line with one backslash is listed as if it had two, and cannot be
told from the other. -/
theorem single_backslash_listed_as_two :
    ∃ rules, RuleSet.ofLines backslashLines none = .ok rules ∧
      rules.patterns.map (·.source) = backslashLines ∧
      ∀ [Markup.Display], ∃ overview table, Report.patterns rules = [overview, table] ∧
        table.column "Pattern".toList = ["a\\\\".toList, "a\\\\".toList] := by
  obtain ⟨rules, hrules⟩ : ∃ rules, RuleSet.ofLines backslashLines none = .ok rules :=
    exists_of_isOk (by decide +kernel)
  have hsources : (RuleSet.ofLines backslashLines none).toOption.map (fun rules =>
      rules.patterns.map (·.source)) = some backslashLines := by
    decide +kernel
  rw [hrules] at hsources
  have hlines : rules.patterns.map (·.source) = backslashLines := Option.some.inj hsources
  refine ⟨rules, hrules, hlines, ?_⟩
  intro display
  have h : Report.patterns rules = [_, _] := rfl
  refine ⟨_, _, h, ?_⟩
  rw [column_sources h, hlines, List.map_congr_left fun line hmem =>
    shown_of_mem_lines (List.mem_append_right _ hmem)]
  decide +kernel

end Report

end IgnoreRules
