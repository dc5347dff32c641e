import IgnoreRules.Pattern

/-!
# Long escapes come from the line

The reader of regular expressions knows escapes with eight digits, `\U` and the digits
behind it. An expression has a `U` behind a backslash only where the line has one: a
character that stands for itself is escaped only if it is no letter, the fixed parts of
an expression have no backslash, and a class content is passed on as the line has it.

Two characters that stand side by side in the expression may come from two tokens, and
then the line has them side by side as well: a token that ends in a backslash stands
for an escaped backslash, and the `U` behind it is written as such or escaped itself.
-/

namespace IgnoreRules

/-- A `U` stands directly behind a backslash somewhere in the text. -/
def HasLongEscape (text : List Char) : Prop :=
  ['\\', 'U'] <:+: text

instance (text : List Char) : Decidable (HasLongEscape text) :=
  inferInstanceAs (Decidable (['\\', 'U'] <:+: text))

namespace HasLongEscape

theorem mono {text whole : List Char} (h : HasLongEscape text) (hsub : text <:+: whole) :
    HasLongEscape whole :=
  List.IsInfix.trans h hsub

/-- What two texts have together one of them has alone, or it lies across. -/
theorem of_append {text rest : List Char} (h : HasLongEscape (text ++ rest)) :
    HasLongEscape text ∨ HasLongEscape rest ∨
      (text.getLast? = some '\\' ∧ rest.head? = some 'U') := by
  rw [HasLongEscape, List.infix_append_iff_ne_nil] at h
  rcases h with h | h | ⟨first, second, hfirst, hsecond, heq, hsuffix, hprefix⟩
  · exact .inl h
  · exact .inr (.inl h)
  · cases first with
    | nil => exact absurd rfl hfirst
    | cons a first =>
        cases first with
        | nil =>
            cases heq
            exact .inr (.inr ⟨List.singleton_suffix_iff_getLast?_eq_some.1 hsuffix,
              List.singleton_prefix_iff_head?_eq_some.1 hprefix⟩)
        | cons b first =>
            have hnil := (List.append_eq_nil_iff.1 (List.cons.inj (List.cons.inj heq).2).2.symm).2
            exact absurd hnil hsecond

theorem not_nil : ¬ HasLongEscape [] := by
  decide

theorem mem {text : List Char} (h : HasLongEscape text) : '\\' ∈ text :=
  h.subset List.mem_cons_self

/-- A text without a backslash has no part in it. -/
theorem of_append_of_not_mem {text rest : List Char} (htext : '\\' ∉ text)
    (h : HasLongEscape (text ++ rest)) : HasLongEscape rest := by
  rcases h.of_append with h | h | ⟨hlast, _⟩
  · exact absurd h.mem htext
  · exact h
  · exact absurd (List.mem_of_getLast? hlast) htext

end HasLongEscape

namespace Glob

/-! ## Bodies -/

theorem splitContent?_eq {text content rest : List Char}
    (h : splitContent? text = some (content, rest)) : content ++ ']' :: rest = text := by
  have htext := List.takeWhile_append_dropWhile (p := (· != ']')) (l := text)
  unfold splitContent? at h
  split at h
  · cases h
  · next c after heq =>
      have hc : (c != ']') = false := by
        have := List.head?_dropWhile_not (· != ']') text
        rw [heq] at this
        simpa using this
      dsimp only at h
      split at h
      · cases h
      · cases h
        rw [heq, bne_eq_false_iff_eq.1 hc] at htext
        exact htext

theorem splitClass?_write {text rest : List Char} {token : Token}
    (h : splitClass? text = some (token, rest)) : token.write ++ rest = '[' :: text := by
  unfold splitClass? at h
  split at h
  all_goals
    obtain ⟨⟨content, after⟩, hcontent, heq⟩ := Option.map_eq_some_iff.1 h
    cases heq
    rw [← splitContent?_eq hcontent]
    simp [Token.write]

theorem Token.write_length_pos (token : Token) : 0 < token.write.length := by
  cases token <;> exact Nat.zero_lt_succ _

/-- A body has no tokens, or its first token as it is written and the tokens of what
stands behind it. No token is a backslash that stands for itself. -/
theorem tokens_cases (body : List Char) :
    tokens body = [] ∨ ∃ token rest, token ≠ .literal '\\' ∧ token.write ++ rest = body ∧
      tokens body = token :: tokens rest := by
  fun_cases tokens body with
  | case1 => exact .inl rfl
  | case2 rest => exact .inr ⟨.doubleStarSlash, rest, by simp, rfl, rfl⟩
  | case3 rest => exact .inr ⟨.doubleStar, rest, by simp, rfl, rfl⟩
  | case4 rest => exact .inr ⟨.star, rest, by simp, rfl, rfl⟩
  | case5 rest => exact .inr ⟨.question, rest, by simp, rfl, rfl⟩
  | case6 text token rest hclass =>
      have hwrite := splitClass?_write hclass
      refine .inr ⟨token, rest, fun htoken => ?_, hwrite, rfl⟩
      rw [htoken] at hwrite
      cases hwrite
  | case7 rest => exact .inr ⟨.literal '[', rest, by simp, rfl, rfl⟩
  | case8 => exact .inl rfl
  | case9 c rest => exact .inr ⟨.escaped c, rest, by simp, rfl, rfl⟩
  | case10 c rest _ _ _ _ _ hend hescape =>
      refine .inr ⟨.literal c, rest, fun htoken => ?_, rfl, rfl⟩
      cases htoken
      cases rest with
      | nil => exact hend rfl rfl
      | cons d rest => exact hescape d rest rfl rfl

/-! ## Where escapes are written -/

theorem quote_getLast? (c : Char) : (quote c).getLast? = some c := by
  unfold quote
  split <;> rfl

/-- Letters are not escaped. -/
theorem not_hasLongEscape_quote (c : Char) : ¬ HasLongEscape (quote c) := by
  intro h
  unfold quote at h
  split at h
  · next hspecial =>
      have heq : ['\\', 'U'] = ['\\', c] := h.eq_of_length rfl
      cases heq
      exact absurd hspecial (by decide)
  · have := h.length_le
    simp at this

theorem of_head?_quote {c : Char} {rest : List Char} (h : (quote c ++ rest).head? = some 'U') :
    c = 'U' := by
  unfold quote at h
  split at h
  · cases h
  · cases h
    rfl

/-- The first character of an expression is a letter only if it stands for itself. -/
theorem of_head?_expression {body : List Char} (h : (expression body).head? = some 'U') :
    body.head? = some 'U' ∨ HasLongEscape body := by
  rcases tokens_cases body with hnil | ⟨token, rest, _, hbody, htokens⟩
  · rw [expression, hnil] at h
    cases h
  · rw [expression, htokens, List.flatMap_cons] at h
    subst hbody
    cases token with
    | literal c =>
        rw [of_head?_quote h]
        exact .inl rfl
    | escaped c =>
        rw [of_head?_quote h]
        exact .inr (List.prefix_append ['\\', 'U'] rest).isInfix
    | _ => cases h

/-- The text of a token has such an escape only if the token is written with it. -/
theorem Token.hasLongEscape_of_expression {token : Token} (h : HasLongEscape token.expression) :
    HasLongEscape token.write := by
  cases token with
  | literal c => exact absurd h (not_hasLongEscape_quote c)
  | escaped c => exact absurd h (not_hasLongEscape_quote c)
  | star => exact absurd h.mem (by decide)
  | doubleStar => exact absurd h.mem (by decide)
  | doubleStarSlash => exact absurd h.mem (by decide)
  | question => exact absurd h.mem (by decide)
  | charClass content negated =>
      have hopen : '\\' ∉ '[' :: (if negated then ['^'] else []) := by
        cases negated <;> decide
      have hsplit : (charClass content negated).expression =
          ('[' :: (if negated then ['^'] else [])) ++ (content ++ [']']) := by
        simp [expression]
      rw [hsplit] at h
      rcases (h.of_append_of_not_mem hopen).of_append with h | h | ⟨_, hhead⟩
      · refine h.mono ⟨'[' :: (if negated then ['!'] else []), [']'], ?_⟩
        simp [write]
      · exact absurd h.mem (by decide)
      · cases hhead

/-- Only an escaped backslash can end in one. -/
theorem Token.eq_escaped_of_getLast? {token : Token} (hself : token ≠ .literal '\\')
    (h : token.expression.getLast? = some '\\') : token = .escaped '\\' := by
  cases token with
  | literal c =>
      rw [expression, quote_getLast?] at h
      cases h
      exact absurd rfl hself
  | escaped c =>
      rw [expression, quote_getLast?] at h
      cases h
      rfl
  | charClass content negated =>
      rw [expression, ← List.cons_append, List.getLast?_concat] at h
      cases h
  | _ => cases h

/-- An expression has no such escape that its body has not. -/
theorem hasLongEscape_of_expression {body : List Char} (h : HasLongEscape (expression body)) :
    HasLongEscape body := by
  induction hlength : body.length using Nat.strongRecOn generalizing body with
  | _ length ih =>
      subst hlength
      rcases tokens_cases body with hnil | ⟨token, rest, hself, hbody, htokens⟩
      · rw [expression, hnil] at h
        exact absurd h HasLongEscape.not_nil
      · rw [expression, htokens, List.flatMap_cons] at h
        subst hbody
        rcases h.of_append with h | h | ⟨hlast, hhead⟩
        · exact (Token.hasLongEscape_of_expression h).mono
            (List.prefix_append token.write rest).isInfix
        · have hshort : rest.length < (token.write ++ rest).length := by
            have := token.write_length_pos
            rw [List.length_append]
            omega
          exact (ih rest.length hshort h rfl).mono (List.suffix_append token.write rest).isInfix
        · rw [Token.eq_escaped_of_getLast? hself hlast]
          rcases of_head?_expression hhead with hhead | h
          · obtain ⟨after, hrest⟩ := List.head?_eq_some_iff.1 hhead
            rw [hrest]
            exact ⟨['\\'], after, rfl⟩
          · exact h.mono (List.suffix_append _ rest).isInfix

theorem hasLongEscape_of_anchoredExpression {body : List Char} {anchored : Bool}
    (h : HasLongEscape (anchoredExpression body anchored)) : HasLongEscape body := by
  cases anchored with
  | true => exact hasLongEscape_of_expression h
  | false => exact hasLongEscape_of_expression (h.of_append_of_not_mem (by decide))

end Glob

/-! ## Lines -/

theorem dropBlanksReversed_suffix (line : List Char) : dropBlanksReversed line <:+ line := by
  induction line with
  | nil => exact List.suffix_refl []
  | cons c before ih =>
      rw [dropBlanksReversed]
      split
      · exact ih.trans (List.suffix_cons c before)
      · exact List.suffix_refl _

theorem stripBlanks_isPrefix (line : List Char) : stripBlanks line <+: line := by
  have h := dropBlanksReversed_suffix line.reverse
  rwa [← List.reverse_prefix, List.reverse_reverse] at h

namespace Rule

theorem splitSign_suffix (text : List Char) : (splitSign text).2 <:+ text := by
  unfold splitSign
  split
  · exact List.suffix_cons '!' _
  · exact List.suffix_refl _

theorem splitMarker_isPrefix (text : List Char) : (splitMarker text).2 <+: text := by
  unfold splitMarker
  split
  · exact List.dropLast_prefix text
  · exact List.prefix_refl _

theorem splitAnchor_suffix (text : List Char) : (splitAnchor text).2 <:+ text := by
  unfold splitAnchor
  split
  · exact List.suffix_cons '/' _
  · exact List.suffix_refl _

/-- The body of a rule stands in its line as it is. -/
theorem body_isInfix {line : List Char} {rule : Rule} (h : ofLine? line = some rule) :
    rule.body <:+: line := by
  obtain ⟨_, unsigned, path, hsign, hmarker, hanchor, _⟩ := ofLine?_eq_some_iff.1 h
  have hunsigned := splitSign_suffix (stripBlanks line)
  have hpath := splitMarker_isPrefix unsigned
  have hbody := splitAnchor_suffix path
  rw [hsign] at hunsigned
  rw [hmarker] at hpath
  rw [hanchor] at hbody
  exact ((hbody.isInfix.trans hpath.isInfix).trans hunsigned.isInfix).trans
    (stripBlanks_isPrefix line).isInfix

end Rule

end IgnoreRules
