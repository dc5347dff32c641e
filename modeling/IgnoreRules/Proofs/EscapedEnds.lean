import IgnoreRules.Proofs.Tokenization
import IgnoreRules.Proofs.TrailingBlanks

/-!
# What is escaped at the end

The end of a line is read twice. The line counts the backslashes before its last character to
see whether a blank or a slash there can go. The glob takes its body apart from the front: there
a backslash takes the next character with it, unless it stands in a class, where it is content.

Both come to the same answer, and the last token decides why. No token escapes what comes
behind it, so the run of backslashes that is counted starts in the last token, whatever classes
and brackets stand before it. Of all tokens only an escaped character has a backslash before its
last character, except for a class; but a class ends in a bracket, which is no end to ask about.

From a line to its body only marks are taken away in front. They are no backslashes, and so what
the line says of its end holds of the end of the body.
-/

namespace IgnoreRules

namespace Glob

/-- The last token of the body is an escaped character. -/
def EndsEscaped (body : List Char) : Prop :=
  ∃ c, (tokens body).getLast? = some (.escaped c)

/-! ## The last token -/

/-- What is read in front of a token escapes nothing in it. -/
theorem Reads.escapesNext_front {body : List Char} {front back : List Token}
    (h : Reads body (front ++ back)) : escapesNext (front.flatMap Token.write) = false := by
  induction front generalizing body with
  | nil => rfl
  | cons token front ih =>
      cases h with
      | cons _ hfits hrest =>
          rw [List.flatMap_cons, escapesNext_append (Token.escapesNext_write hfits)]
          exact ih hrest

/-- Unless it ends in a bracket, only an escaped character has its last character escaped. -/
theorem Token.escapesNext_dropLast_iff {token : Token} {c : Char}
    (hlast : token.write.getLast? = some c) (hclose : c ≠ ']') :
    escapesNext token.write.dropLast = true ↔ token = .escaped c := by
  cases token with
  | escaped d =>
      cases hlast
      exact iff_of_true rfl rfl
  | charClass content negated =>
      rw [write, ← List.cons_append, List.getLast?_concat] at hlast
      exact absurd (Option.some.inj hlast).symm hclose
  | _ => exact iff_of_false Bool.false_ne_true fun h => Token.noConfusion h

section

variable {text : List Char} {c : Char} (hc : c ≠ '\\')

include hc

/-- A body that does not end in a backslash ends where its last token does. -/
theorem exists_getLast?_tokens :
    ∃ token, (tokens (text ++ [c])).getLast? = some token ∧ token.write.getLast? = some c ∧
      escapesNext text = escapesNext token.write.dropLast := by
  have hreads := reads_tokens (text ++ [c])
  have hwrite : (tokens (text ++ [c])).flatMap Token.write = text ++ [c] := by
    rw [hreads.flatMap_write, escapesNext_concat, decide_eq_false hc, Bool.false_and, if_pos rfl]
  rcases List.eq_nil_or_concat' (tokens (text ++ [c])) with hnil | ⟨front, token, htokens⟩
  · rw [hnil] at hwrite
    exact absurd hwrite.symm (List.append_ne_nil_of_right_ne_nil text (List.cons_ne_nil c []))
  · rw [htokens] at hreads hwrite
    obtain ⟨before, d, hlast⟩ := (List.eq_nil_or_concat' token.write).resolve_left
      (List.ne_nil_of_length_pos token.write_length_pos)
    rw [List.flatMap_append, List.flatMap_singleton, hlast, ← List.append_assoc] at hwrite
    obtain ⟨htext, hd⟩ := List.append_inj' hwrite rfl
    cases hd
    refine ⟨token, ?_, ?_, ?_⟩
    · rw [htokens, List.getLast?_concat]
    · rw [hlast, List.getLast?_concat]
    · rw [← htext, escapesNext_append hreads.escapesNext_front, hlast, List.dropLast_concat]

variable (hclose : c ≠ ']')

include hclose

theorem getLast?_tokens_iff :
    (tokens (text ++ [c])).getLast? = some (.escaped c) ↔ escapesNext text = true := by
  obtain ⟨token, htoken, hlast, hescapes⟩ := @exists_getLast?_tokens text c hc
  rw [htoken, Option.some.injEq, hescapes, Token.escapesNext_dropLast_iff hlast hclose]

/-- If the last token is an escaped character, it is the last character that is escaped. -/
theorem endsEscaped_iff :
    EndsEscaped (text ++ [c]) ↔ (tokens (text ++ [c])).getLast? = some (.escaped c) := by
  refine ⟨fun h => ?_, fun h => ⟨c, h⟩⟩
  obtain ⟨d, hd⟩ := h
  obtain ⟨token, htoken, hlast, _⟩ := @exists_getLast?_tokens text c hc
  rw [hd] at htoken
  cases htoken
  cases hlast
  exact hd

end

end Glob

/-- No blank behind the cut is escaped. -/
theorem CutsBlanks.escapesNext_eq {kept between rest : List Char} {c : Char}
    (h : CutsBlanks kept (between ++ c :: rest)) : escapesNext (kept ++ between) = false := by
  rcases List.eq_nil_or_concat' between with rfl | ⟨others, d, rfl⟩
  · rw [List.append_nil, escapesNext_eq_false_iff]
    exact h.unescaped (List.cons_ne_nil c rest)
  · have hd : d = ' ' ∨ d = '\t' := h.blank d (by simp)
    rw [← List.append_assoc]
    exact escapesNext_concat_blank hd (kept ++ others)

namespace Rule

/-- The body that a text has if nothing is taken off its end. -/
def wholeBody (text : List Char) : List Char :=
  (splitAnchor (splitSign text).2).2

/-- The reading of a line leaves `c` at the end, behind `before`, though it is a character that
may go there: a blank, or a slash that is not taken for a marker. -/
inductive KeepsEnd (line before : List Char) : Char → Prop where
  | blank {c : Char} : stripBlanks line = before ++ [c] → isBlank c = true → KeepsEnd line before c
  | slash : stripBlanks line = before ++ ['/'] →
      (splitMarker (splitSign (stripBlanks line)).2).1 = false → KeepsEnd line before '/'

/-- The reading of a line drops `c`, which stands behind `before`, from the end: it is one of the
characters that stripping the line takes off, or the slash that marks directories. -/
inductive DropsEnd (line before : List Char) : Char → Prop where
  | blank {c : Char} : stripBlanks line <+: before → before ++ [c] <+: line → DropsEnd line before c
  | slash : stripBlanks line = before ++ ['/'] →
      (splitMarker (splitSign (stripBlanks line)).2).1 = true → DropsEnd line before '/'

/-! ## From the line to the body -/

/-- The marks in front of a body are no backslashes. -/
theorem exists_front_of_wholeBody (text : List Char) :
    ∃ front, '\\' ∉ front ∧ text = front ++ wholeBody text := by
  obtain ⟨hsign, _⟩ := splitSign_eq_iff.1 (Prod.eta (splitSign text)).symm
  obtain ⟨front, hfront, hanchor⟩ : ∃ front, '\\' ∉ front ∧
      (splitSign text).2 = front ++ wholeBody text := by
    rcases splitAnchor_eq_iff.1 (Prod.eta (splitAnchor (splitSign text).2)).symm with
      ⟨hpath, _⟩ | ⟨hpath, _⟩
    · exact ⟨['/'], by decide, hpath⟩
    · exact ⟨[], List.not_mem_nil, hpath⟩
  refine ⟨(if (splitSign text).1 then ['!'] else []) ++ front, ?_, ?_⟩
  · rw [List.mem_append, not_or]
    refine ⟨?_, hfront⟩
    cases (splitSign text).1 <;> decide
  · rw [List.append_assoc, ← hanchor]
    exact hsign

/-- The body ends like the text, and what is escaped there is the same, unless the text is all
marks. -/
theorem wholeBody_concat (before : List Char) (c : Char) :
    wholeBody (before ++ [c]) = [] ∧ escapesNext before = false ∨
      ∃ path, wholeBody (before ++ [c]) = path ++ [c] ∧ escapesNext path = escapesNext before := by
  obtain ⟨front, hfront, htext⟩ := exists_front_of_wholeBody (before ++ [c])
  rcases List.eq_nil_or_concat' (wholeBody (before ++ [c])) with hnil | ⟨path, d, hbody⟩
  · rw [hnil, List.append_nil] at htext
    have hbefore : '\\' ∉ before := fun h => hfront (htext ▸ List.mem_append_left [c] h)
    exact .inl ⟨hnil, escapesNext_of_not_mem hbefore⟩
  · rw [hbody, ← List.append_assoc] at htext
    obtain ⟨hbefore, hd⟩ := List.append_inj' htext rfl
    cases hd
    refine .inr ⟨path, hbody, ?_⟩
    rw [hbefore, escapesNext_append (escapesNext_of_not_mem hfront)]

/-- The body of a text ends in an escaped character if the end of the text is escaped. -/
theorem endsEscaped_wholeBody_iff {before : List Char} {c : Char} (hc : c ≠ '\\')
    (hclose : c ≠ ']') :
    Glob.EndsEscaped (wholeBody (before ++ [c])) ↔ escapesNext before = true := by
  rcases wholeBody_concat before c with ⟨hnil, hescapes⟩ | ⟨path, hpath, hescapes⟩
  · rw [hnil, hescapes]
    refine iff_of_false (fun h => ?_) Bool.false_ne_true
    obtain ⟨d, hd⟩ := h
    rw [Glob.tokens] at hd
    cases hd
  · rw [hpath, ← hescapes, Glob.endsEscaped_iff hc hclose, Glob.getLast?_tokens_iff hc hclose]

/-- A text has a marker if it ends in a slash that is not escaped, whatever its sign. -/
theorem splitMarker_splitSign_concat (before : List Char) (c : Char) :
    (splitMarker (splitSign (before ++ [c])).2).1 = (decide (c = '/') && !escapesNext before) := by
  have hmarker : ∀ path,
      (splitMarker (path ++ [c])).1 = (decide (c = '/') && !escapesNext path) := by
    intro path
    rw [splitMarker_concat]
    by_cases hc : c = '/' <;> cases hescapes : escapesNext path <;> simp [hc]
  by_cases hsign : (before ++ [c]).head? = some '!'
  · obtain ⟨rest, hrest⟩ := List.head?_eq_some_iff.1 hsign
    cases before with
    | nil =>
        cases hrest
        rfl
    | cons d path =>
        cases hrest
        rw [escapesNext_cons (by decide)]
        exact hmarker path
  · rw [splitSign_of_head?_ne hsign]
    exact hmarker before

theorem splitMarker_splitSign_slash (before : List Char) :
    (splitMarker (splitSign (before ++ ['/'])).2).1 = !escapesNext before := by
  rw [splitMarker_splitSign_concat, decide_eq_true rfl, Bool.true_and]

/-! ## What is kept and what is dropped -/

section

variable {line before : List Char} {c : Char}

theorem KeepsEnd.stripBlanks_eq (h : KeepsEnd line before c) :
    stripBlanks line = before ++ [c] := by
  cases h with
  | blank hstripped _ => exact hstripped
  | slash hstripped _ => exact hstripped

/-- What is kept is escaped. -/
theorem KeepsEnd.escapesNext_eq (h : KeepsEnd line before c) :
    (isBlank c = true ∨ c = '/') ∧ escapesNext before = true := by
  cases h with
  | blank hstripped hblank =>
      have hstays := stripBlanks_concat_ne hstripped
      rw [hblank, Bool.true_and, Bool.not_eq_false'] at hstays
      exact ⟨.inl hblank, hstays⟩
  | slash hstripped hunmarked =>
      rw [hstripped, splitMarker_splitSign_slash, Bool.not_eq_false'] at hunmarked
      exact ⟨.inr rfl, hunmarked⟩

/-- What is dropped is not escaped. -/
theorem DropsEnd.escapesNext_eq (h : DropsEnd line before c) :
    (isBlank c = true ∨ c = '/') ∧ escapesNext before = false := by
  cases h with
  | blank hkept hline =>
      obtain ⟨between, rfl⟩ := hkept
      obtain ⟨rest, hline⟩ := hline
      obtain ⟨blanks, hcut, hblanks⟩ := exists_cutsBlanks line
      have hrest : between ++ c :: rest = blanks := by
        have hsplit := hline.trans hcut
        rwa [List.append_assoc, List.append_assoc, List.append_cancel_left_eq] at hsplit
      rw [← hrest] at hblanks
      exact ⟨.inl (isBlank_iff.2 (hblanks.blank c (by simp))), hblanks.escapesNext_eq⟩
  | slash hstripped hmarked =>
      rw [hstripped, splitMarker_splitSign_slash, Bool.not_eq_true'] at hmarked
      exact ⟨.inr rfl, hmarked⟩

/-- A line that keeps its end denotes a rule, unless it is a comment, and the body of the rule
has the same end. -/
theorem KeepsEnd.exists_ofLine? (h : KeepsEnd line before c) (hcomment : line.head? ≠ some '#') :
    ∃ rule path, ofLine? line = some rule ∧ rule.body = path ++ [c] ∧
      escapesNext path = true := by
  obtain ⟨_, hescapes⟩ := h.escapesNext_eq
  have hunmarked : (splitMarker (splitSign (stripBlanks line)).2).1 = false := by
    rw [h.stripBlanks_eq, splitMarker_splitSign_concat, hescapes]
    exact Bool.and_false _
  have hmarker : splitMarker (splitSign (stripBlanks line)).2 =
      (false, (splitSign (stripBlanks line)).2) := by
    rw [splitMarker] at hunmarked ⊢
    split at hunmarked
    · cases hunmarked
    · next hnone => exact if_neg hnone
  have hbody := wholeBody_concat before c
  rw [hescapes] at hbody
  obtain ⟨path, hpath, hbefore⟩ := hbody.resolve_left fun hmarks => Bool.noConfusion hmarks.2
  rw [← h.stripBlanks_eq] at hpath
  refine ⟨⟨path ++ [c], (splitSign (stripBlanks line)).1, false,
    (splitAnchor (splitSign (stripBlanks line)).2).1⟩, path, ?_, rfl, hbefore⟩
  exact ofLine?_eq_some_iff.2 ⟨hcomment, _, _, rfl, hmarker, Prod.ext rfl hpath,
    List.append_ne_nil_of_right_ne_nil path (List.cons_ne_nil c [])⟩

end

/-- The two readings agree on what is escaped. At the end of a text, unless that is a backslash or
the bracket of a class, counting the backslashes says the same as the last token does, and if
that is an escaped character, it is the one at the end. So what a line keeps at its end as
escaped is an escaped character at the end of its rule, and what it drops would not have been
one. -/
theorem escaped_ends_agree :
    (∀ text c, c ≠ '\\' → c ≠ ']' →
      (escapesNext text = true ↔ Glob.EndsEscaped (text ++ [c])) ∧
      (Glob.EndsEscaped (text ++ [c]) →
        (Glob.tokens (text ++ [c])).getLast? = some (.escaped c))) ∧
    (∀ line before c, KeepsEnd line before c → line.head? ≠ some '#' →
      ∃ rule, ofLine? line = some rule ∧
        (Glob.tokens rule.body).getLast? = some (.escaped c)) ∧
    ∀ line before c, DropsEnd line before c →
      ¬ Glob.EndsEscaped (wholeBody (before ++ [c])) := by
  have hend : ∀ {c}, isBlank c = true ∨ c = '/' → c ≠ '\\' ∧ c ≠ ']' := by
    intro c hc
    rw [isBlank_iff] at hc
    rcases hc with (rfl | rfl) | rfl <;> decide
  refine ⟨fun text c hc hclose => ⟨?_, ?_⟩, fun line before c h hcomment => ?_,
    fun line before c h hescaped => ?_⟩
  · rw [Glob.endsEscaped_iff hc hclose, Glob.getLast?_tokens_iff hc hclose]
  · exact (Glob.endsEscaped_iff hc hclose).1
  · obtain ⟨hgoes, hescapes⟩ := h.escapesNext_eq
    obtain ⟨hc, hclose⟩ := hend hgoes
    obtain ⟨rule, path, hrule, hbody, hpath⟩ := h.exists_ofLine? hcomment
    refine ⟨rule, hrule, ?_⟩
    rw [hbody, Glob.getLast?_tokens_iff hc hclose, hpath]
  · obtain ⟨hgoes, hescapes⟩ := h.escapesNext_eq
    obtain ⟨hc, hclose⟩ := hend hgoes
    rw [endsEscaped_wholeBody_iff hc hclose, hescapes] at hescaped
    cases hescaped

/-- A class whose content is a backslash, and behind it a blank that is escaped and a tab that is
not. -/
theorem escaped_ends_agree_behind_class :
    (escapesNext "[\\]\\".toList = true ∧ Glob.EndsEscaped ("[\\]\\".toList ++ [' '])) ∧
    (KeepsEnd "!/[\\]\\ \t".toList "!/[\\]\\".toList ' ' ∧
      ∃ rule, ofLine? "!/[\\]\\ \t".toList = some rule ∧
        (Glob.tokens rule.body).getLast? = some (.escaped ' ')) ∧
    DropsEnd "!/[\\]\\ \t".toList "!/[\\]\\ ".toList '\t' ∧
      ¬ Glob.EndsEscaped (wholeBody ("!/[\\]\\ ".toList ++ ['\t'])) := by
  have hescapes : escapesNext "[\\]\\".toList = true := by decide
  have hkeeps : KeepsEnd "!/[\\]\\ \t".toList "!/[\\]\\".toList ' ' :=
    .blank (by decide) (by decide)
  have hdrops : DropsEnd "!/[\\]\\ \t".toList "!/[\\]\\ ".toList '\t' :=
    .blank (by decide) (by decide)
  obtain ⟨hends, hkept, hdropped⟩ := escaped_ends_agree
  exact ⟨⟨hescapes, (hends _ ' ' (by decide) (by decide)).1.1 hescapes⟩,
    ⟨hkeeps, hkept _ _ _ hkeeps (by decide)⟩, hdrops, hdropped _ _ _ hdrops⟩

end Rule

end IgnoreRules
