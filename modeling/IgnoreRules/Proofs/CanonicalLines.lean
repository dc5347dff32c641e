import Mathlib.Data.List.Basic
import Mathlib.Data.List.Induction
import IgnoreRules.Proofs.Explanation

/-!
# Which rules have a line

A line is read in steps: blanks go at its end, then a `!` in front, then a `/` at the end,
then a `/` in front. Each step looks at characters that the step before has uncovered, so
many lines denote one rule, and not every rule has a line.

`Rule.toLine` writes the marks of a rule around its body. That is the line to try: if any
line denotes the rule, this one does. It fails only where a character of the body would be
taken for a mark, for a comment or for a blank that does not count, and `Rule.Writable`
lists these cases. All of them are about the two ends of the body. What stands before the
body is no backslash, so the runs of backslashes at its end are counted the same in the
body as in the line.
-/

namespace IgnoreRules

/-! ## Blanks at the end -/

theorem isBlank_iff {c : Char} : isBlank c = true ↔ c = ' ' ∨ c = '\t' := by
  rw [isBlank, Bool.or_eq_true, decide_eq_true_eq, decide_eq_true_eq]

/-- What is left of a line ends in no blank that could still go. -/
theorem stripBlanks_concat_ne {line before : List Char} {c : Char}
    (h : stripBlanks line = before ++ [c]) : (isBlank c && !escapesNext before) = false := by
  induction line using List.reverseRecOn with
  | nil => exact absurd h (List.append_ne_nil_of_right_ne_nil before (List.cons_ne_nil c [])).symm
  | append_singleton line d ih =>
      rw [stripBlanks_concat] at h
      split at h
      · exact ih h
      · next hkept =>
          obtain ⟨hline, hd⟩ := List.append_inj' h rfl
          cases hd
          rw [← hline]
          exact Bool.not_eq_true _ ▸ hkept

theorem stripBlanks_eq_self {before : List Char} {c : Char}
    (h : escapesNext before = false → c ≠ ' ' ∧ c ≠ '\t') :
    stripBlanks (before ++ [c]) = before ++ [c] := by
  rw [stripBlanks_concat, if_neg]
  intro hblank
  rw [Bool.and_eq_true, Bool.not_eq_true', isBlank_iff] at hblank
  exact hblank.1.elim (h hblank.2).1 (h hblank.2).2

namespace Rule

/-- What a rule is like if some line denotes it. -/
structure Writable (rule : Rule) : Prop where
  /-- The body is not empty. -/
  body_ne_nil : rule.body ≠ []
  /-- A slash in the body is an anchor. -/
  not_mem : rule.anchored = false → '/' ∉ rule.body
  /-- A marker behind the body is not escaped. -/
  marked : rule.directoryOnly = true → trailingBackslashes rule.body % 2 = 0
  /-- Without a marker behind it, the body does not end in a slash or blank that is not
  escaped. -/
  unmarked : rule.directoryOnly = false → ∀ before c, rule.body = before ++ [c] →
    trailingBackslashes before % 2 = 0 → c ≠ '/' ∧ c ≠ ' ' ∧ c ≠ '\t'
  /-- Without a mark before it, the body does not start like a comment or a negation. -/
  bare : rule.negation = false → rule.anchored = false →
    rule.body.head? ≠ some '#' ∧ rule.body.head? ≠ some '!'

/-! ## Each mark and its absence -/

theorem splitSign_of_head?_ne {text : List Char} (h : text.head? ≠ some '!') :
    splitSign text = (false, text) := by
  rw [splitSign]
  intro rest htext
  rw [htext] at h
  exact h rfl

theorem splitSign_eq_iff {text rest : List Char} {negation : Bool} :
    splitSign text = (negation, rest) ↔
      text = (if negation then ['!'] else []) ++ rest ∧
        (negation = false → rest.head? ≠ some '!') := by
  by_cases hsign : text.head? = some '!'
  · obtain ⟨after, htext⟩ := List.head?_eq_some_iff.1 hsign
    rw [htext, splitSign]
    constructor
    · intro h
      cases h
      exact ⟨rfl, nofun⟩
    · intro h
      obtain ⟨heq, hunsigned⟩ := h
      cases negation with
      | true => rw [(List.cons.inj heq).2]; rfl
      | false =>
          rw [if_neg Bool.false_ne_true, List.nil_append] at heq
          exact absurd (heq ▸ rfl) (hunsigned rfl)
  · rw [splitSign_of_head?_ne hsign]
    constructor
    · intro h
      cases h
      exact ⟨rfl, fun _ => hsign⟩
    · intro h
      obtain ⟨htext, _⟩ := h
      cases negation with
      | true => exact absurd (htext ▸ rfl) hsign
      | false => rw [htext]; rfl

theorem splitMarker_marked {before : List Char} (h : escapesNext before = false) :
    splitMarker (before ++ ['/']) = (true, before) := by
  rw [splitMarker_concat, if_pos ⟨rfl, h⟩]

theorem splitMarker_unmarked {text : List Char}
    (h : ∀ before, text = before ++ ['/'] → escapesNext before = true) :
    splitMarker text = (false, text) := by
  rw [splitMarker, if_neg]
  intro hmarked
  obtain ⟨before, htext⟩ := List.getLast?_eq_some_iff.1 hmarked.1
  have hescapes := h before htext
  rw [htext, List.dropLast_concat] at hmarked
  rw [hmarked.2] at hescapes
  cases hescapes

theorem splitMarker_eq_iff {text rest : List Char} {directoryOnly : Bool} :
    splitMarker text = (directoryOnly, rest) ↔
      text = rest ++ (if directoryOnly then ['/'] else []) ∧
        (directoryOnly = true → escapesNext rest = false) ∧
        (directoryOnly = false → ∀ before, rest = before ++ ['/'] →
          escapesNext before = true) := by
  by_cases hmarked : ∃ before, text = before ++ ['/'] ∧ escapesNext before = false
  · obtain ⟨before, htext, hescapes⟩ := hmarked
    rw [htext, splitMarker_marked hescapes]
    constructor
    · intro h
      cases h
      exact ⟨rfl, fun _ => hescapes, nofun⟩
    · intro h
      obtain ⟨heq, _, hunmarked⟩ := h
      cases directoryOnly with
      | true => rw [(List.append_inj' heq rfl).1]
      | false =>
          rw [if_neg Bool.false_ne_true, List.append_nil] at heq
          rw [hunmarked rfl before heq.symm] at hescapes
          cases hescapes
  · have hunmarked : ∀ before, text = before ++ ['/'] → escapesNext before = true := by
      intro before htext
      exact (Bool.eq_false_or_eq_true _).resolve_right fun hescapes =>
        hmarked ⟨before, htext, hescapes⟩
    rw [splitMarker_unmarked hunmarked]
    constructor
    · intro h
      cases h
      exact ⟨(List.append_nil text).symm, nofun, fun _ => hunmarked⟩
    · intro h
      obtain ⟨htext, hescapes, _⟩ := h
      cases directoryOnly with
      | true => exact absurd ⟨rest, htext, hescapes rfl⟩ hmarked
      | false =>
          rw [if_neg Bool.false_ne_true, List.append_nil] at htext
          rw [htext]

theorem splitAnchor_eq_iff {text body : List Char} {anchored : Bool} :
    splitAnchor text = (anchored, body) ↔
      text = '/' :: body ∧ anchored = true ∨
        text = body ∧ body.head? ≠ some '/' ∧ (anchored = true ↔ '/' ∈ body) := by
  unfold splitAnchor
  split
  · next rest =>
      constructor
      · intro h
        cases h
        exact .inl ⟨rfl, rfl⟩
      · intro h
        rcases h with ⟨htext, hanchored⟩ | ⟨htext, hhead, _⟩
        · cases htext
          rw [hanchored]
        · exact absurd (htext ▸ rfl) hhead
  · next hslash =>
      constructor
      · intro h
        cases h
        refine .inr ⟨rfl, fun hhead => ?_, List.contains_iff_mem⟩
        obtain ⟨rest, htext⟩ := List.head?_eq_some_iff.1 hhead
        exact hslash rest htext
      · intro h
        rcases h with ⟨htext, _⟩ | ⟨htext, _, hanchored⟩
        · exact absurd htext (hslash body)
        · rw [← List.contains_iff_mem, ← Bool.eq_iff_iff] at hanchored
          rw [hanchored, htext]

/-! ## The line of a rule -/

section

variable {rule : Rule} (h : rule.Writable)

include h

/-- Nothing goes at the end of the line: there is a marker, or the body ends in something
that counts. -/
theorem stripBlanks_behind {front : List Char} (hfront : escapesNext front = false) :
    stripBlanks (front ++ rule.body ++ (if rule.directoryOnly then ['/'] else [])) =
      front ++ rule.body ++ (if rule.directoryOnly then ['/'] else []) := by
  cases hdirectory : rule.directoryOnly with
  | true => exact stripBlanks_eq_self fun _ => by decide
  | false =>
      obtain ⟨before, c, hbody⟩ := (List.eq_nil_or_concat' rule.body).resolve_left h.body_ne_nil
      rw [if_neg Bool.false_ne_true, List.append_nil, hbody, ← List.append_assoc]
      refine stripBlanks_eq_self fun hescapes => ?_
      rw [escapesNext_append hfront, escapesNext_eq_false_iff] at hescapes
      exact (h.unmarked hdirectory before c hbody hescapes).2

/-- The marker is found behind the body, and only there. -/
theorem splitMarker_behind {front : List Char} (hfront : escapesNext front = false) :
    splitMarker (front ++ rule.body ++ (if rule.directoryOnly then ['/'] else [])) =
      (rule.directoryOnly, front ++ rule.body) := by
  refine splitMarker_eq_iff.2 ⟨rfl, fun hdirectory => ?_, fun hdirectory before hpath => ?_⟩
  · rw [escapesNext_append hfront, escapesNext_eq_false_iff]
    exact h.marked hdirectory
  · obtain ⟨path, c, hbody⟩ := (List.eq_nil_or_concat' rule.body).resolve_left h.body_ne_nil
    rw [hbody, ← List.append_assoc] at hpath
    obtain ⟨hbefore, hc⟩ := List.append_inj' hpath rfl
    cases hc
    rw [← hbefore, escapesNext_append hfront]
    refine (Bool.eq_false_or_eq_true _).resolve_right fun hescapes => ?_
    exact (h.unmarked hdirectory path '/' hbody (escapesNext_eq_false_iff.1 hescapes)).1 rfl

theorem stripBlanks_toLine : stripBlanks rule.toLine = rule.toLine := by
  refine stripBlanks_behind h ?_
  cases rule.negation <;> cases rule.anchored <;> decide

/-- What stands behind the sign starts with the anchor or with the body. -/
theorem head?_unsigned (tail : List Char) :
    ((if rule.anchored then ['/'] else []) ++ rule.body ++ tail).head? =
      if rule.anchored then some '/' else rule.body.head? := by
  obtain ⟨c, rest, hbody⟩ := List.exists_cons_of_ne_nil h.body_ne_nil
  rw [hbody]
  cases rule.anchored <;> rfl

theorem splitSign_toLine :
    splitSign rule.toLine = (rule.negation, (if rule.anchored then ['/'] else []) ++ rule.body ++
      (if rule.directoryOnly then ['/'] else [])) := by
  refine splitSign_eq_iff.2 ⟨?_, fun hnegation => ?_⟩
  · rw [toLine]
    simp only [List.append_assoc]
  · rw [head?_unsigned h]
    cases hanchored : rule.anchored with
    | true => simp
    | false => exact (h.bare hnegation hanchored).2

theorem splitMarker_toLine :
    splitMarker ((if rule.anchored then ['/'] else []) ++ rule.body ++
      (if rule.directoryOnly then ['/'] else [])) =
        (rule.directoryOnly, (if rule.anchored then ['/'] else []) ++ rule.body) := by
  refine splitMarker_behind h ?_
  cases rule.anchored <;> decide

theorem splitAnchor_toLine :
    splitAnchor ((if rule.anchored then ['/'] else []) ++ rule.body) =
      (rule.anchored, rule.body) := by
  refine splitAnchor_eq_iff.2 ?_
  cases hanchored : rule.anchored with
  | true => exact .inl ⟨rfl, rfl⟩
  | false =>
      have hslash := h.not_mem hanchored
      exact .inr ⟨rfl, fun hhead => hslash (List.mem_of_head? hhead), by simpa using hslash⟩

theorem head?_toLine_ne : rule.toLine.head? ≠ some '#' := by
  rw [toLine]
  cases hnegation : rule.negation with
  | true => simp
  | false =>
      rw [if_neg Bool.false_ne_true, List.nil_append, head?_unsigned h]
      cases hanchored : rule.anchored with
      | true => simp
      | false => exact (h.bare hnegation hanchored).1

/-- The marks of a rule are read back from where they are written. -/
theorem ofLine?_toLine : ofLine? rule.toLine = some rule := by
  refine ofLine?_eq_some_iff.2 ⟨head?_toLine_ne h, _, _, ?_, splitMarker_toLine h,
    splitAnchor_toLine h, h.body_ne_nil⟩
  rw [stripBlanks_toLine h]
  exact splitSign_toLine h

end

/-! ## The rules that lines denote -/

/-- The body stands at the end of a path without its marker, behind an anchor or nothing. -/
theorem exists_front_of_splitAnchor {path body : List Char} {anchored : Bool}
    (h : splitAnchor path = (anchored, body)) :
    ∃ front, escapesNext front = false ∧ path = front ++ body := by
  rcases splitAnchor_eq_iff.1 h with ⟨hpath, _⟩ | ⟨hpath, _⟩
  · exact ⟨['/'], rfl, hpath⟩
  · exact ⟨[], rfl, hpath⟩

theorem writable_of_ofLine? {line : List Char} {rule : Rule} (h : ofLine? line = some rule) :
    rule.Writable := by
  obtain ⟨hcomment, unsigned, path, hsign, hmarker, hanchor, hbody⟩ := ofLine?_eq_some_iff.1 h
  obtain ⟨hstripped, hunsigned⟩ := splitSign_eq_iff.1 hsign
  obtain ⟨hpath, hmarked, hunmarked⟩ := splitMarker_eq_iff.1 hmarker
  obtain ⟨front, hfront, hbehind⟩ := exists_front_of_splitAnchor hanchor
  have hbare : rule.anchored = false → path = rule.body ∧ '/' ∉ rule.body := by
    intro hanchored
    rw [hanchored] at hanchor
    rcases splitAnchor_eq_iff.1 hanchor with ⟨_, htop⟩ | ⟨hpath, _, hslash⟩
    · cases htop
    · exact ⟨hpath, fun hmem => Bool.false_ne_true (hslash.2 hmem)⟩
  refine ⟨hbody, fun hanchored => (hbare hanchored).2, fun hdirectory => ?_,
    fun hdirectory before c hlast hparity => ?_, fun hnegation hanchored => ?_⟩
  · rw [← escapesNext_eq_false_iff, ← escapesNext_append hfront, ← hbehind]
    exact hmarked hdirectory
  · -- The last character of the body is that of the line, and what escapes it is in the body.
    have hescapes : escapesNext (front ++ before) = false := by
      rw [escapesNext_append hfront, escapesNext_eq_false_iff]
      exact hparity
    rw [hlast, ← List.append_assoc] at hbehind
    rw [hpath, hdirectory, if_neg Bool.false_ne_true, List.append_nil, hbehind,
      ← List.append_assoc] at hstripped
    have hsigned : escapesNext (if rule.negation then ['!'] else []) = false := by
      cases rule.negation <;> decide
    have hblank := stripBlanks_concat_ne hstripped
    rw [escapesNext_append hsigned, hescapes, Bool.not_false, Bool.and_true,
      ← Bool.not_eq_true, isBlank_iff, not_or] at hblank
    refine ⟨fun hslash => ?_, hblank⟩
    rw [hunmarked hdirectory (front ++ before) (hslash ▸ hbehind)] at hescapes
    cases hescapes
  · -- With no mark in front, the line starts with the body.
    rw [hnegation, if_neg Bool.false_ne_true, List.nil_append] at hstripped
    obtain ⟨c, rest, hfirst⟩ := List.exists_cons_of_ne_nil hbody
    have hhead : unsigned.head? = rule.body.head? := by
      rw [hpath, (hbare hanchored).1, hfirst]
      rfl
    rw [← hhead]
    refine ⟨?_, hunsigned hnegation⟩
    rw [← hstripped, head?_stripBlanks (stripBlanks_ne_nil h)]
    exact hcomment

/-- A rule has a line exactly when its body cannot be mistaken for a mark, a comment or a
blank, and if it has one, it has the line that writes its marks around its body. -/
theorem canonical_line (rule : Rule) :
    ((∃ line, ofLine? line = some rule) ↔ rule.Writable) ∧
      ∀ line, ofLine? line = some rule → ofLine? rule.toLine = some rule := by
  refine ⟨⟨fun h => ?_, fun h => ⟨rule.toLine, ofLine?_toLine h⟩⟩, fun line h => ?_⟩
  · obtain ⟨line, h⟩ := h
    exact writable_of_ofLine? h
  · exact ofLine?_toLine (writable_of_ofLine? h)

/-- A blank between two slashes: the first is an anchor, the second a marker, and so the
blank, which would go at the end of a line, is a body. -/
theorem canonical_line_of_blank :
    ofLine? "/ /\t".toList = some ⟨[' '], false, true, true⟩ ∧
      toLine ⟨[' '], false, true, true⟩ = "/ /".toList ∧
      ofLine? (toLine ⟨[' '], false, true, true⟩) = some ⟨[' '], false, true, true⟩ := by
  have hline : ofLine? "/ /\t".toList = some ⟨[' '], false, true, true⟩ := by decide
  exact ⟨hline, by decide, (canonical_line _).2 _ hline⟩

end Rule

end IgnoreRules
