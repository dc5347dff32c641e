import IgnoreRules.Proofs.LongEscapes

/-!
# Tokens are what the body says

The tokens of a body are found by a scanner that looks at most three characters ahead,
except in search of the bracket that ends a class. `Glob.Reads` says the same without a
scanner: the tokens as they are written, one after the other, make up the body, and each
of them is the longest that could have been read there, given what comes behind it. Only
a backslash at the very end can be left over.

All that is known of the tokens of a body is read off this relation: that nothing is lost
on the way, which tokens can be neighbours, and which brackets are plain characters. What
is left over depends on the run of backslashes at the end, and that is a matter of parity,
since no token but the last leaves the next character escaped.
-/

namespace IgnoreRules.Glob

/-- The text behind an optional `!`, where the content of a class starts. -/
def afterMark : List Char → List Char
  | '!' :: text => text
  | text => text

/-- The token is the longest that can be read in front of the text. -/
def Token.Fits : Token → List Char → Prop
  | .literal c, rest =>
      c ≠ '*' ∧ c ≠ '?' ∧ c ≠ '\\' ∧
        (c = '[' → (afterMark rest).head? = some ']' ∨ ']' ∉ afterMark rest)
  | .star, rest => rest.head? ≠ some '*'
  | .doubleStar, rest => rest.head? ≠ some '/'
  | .charClass content negated, _ =>
      content ≠ [] ∧ ']' ∉ content ∧ (negated = false → content.head? ≠ some '!')
  | _, _ => True

/-- The tokens are those of the body: they are written one after the other, each as long
as can be, and no more than a backslash is left at the end. -/
inductive Reads : List Char → List Token → Prop where
  | nil : Reads [] []
  | dangling : Reads ['\\'] []
  | cons (token : Token) {rest : List Char} {units : List Token} :
      token.Fits rest → Reads rest units → Reads (token.write ++ rest) (token :: units)

/-! ## The scanner -/

theorem splitContent?_append {content : List Char} (hne : content ≠ []) (hclose : ']' ∉ content)
    (rest : List Char) : splitContent? (content ++ ']' :: rest) = some (content, rest) := by
  have hcontent : ∀ c ∈ content, (c != ']') = true := by
    intro c hmem
    exact bne_iff_ne.2 fun hc => hclose (hc ▸ hmem)
  have hbracket : ((']' : Char) != ']') = false := by decide
  rw [splitContent?, List.dropWhile_append_of_pos hcontent, List.takeWhile_append_of_pos hcontent,
    List.dropWhile_cons, List.takeWhile_cons, hbracket, if_neg Bool.false_ne_true,
    if_neg Bool.false_ne_true, List.append_nil]
  exact if_neg hne

/-- A text has no content in front if a bracket comes at once, or none at all. -/
theorem splitContent?_eq_none_iff {text : List Char} :
    splitContent? text = none ↔ text.head? = some ']' ∨ ']' ∉ text := by
  constructor
  · intro h
    by_cases hmem : ']' ∈ text
    · obtain ⟨content, rest, htext, hclose⟩ := List.eq_append_cons_of_mem hmem
      refine .inl ?_
      cases content with
      | nil => rw [htext, List.nil_append, List.head?_cons]
      | cons c content =>
          rw [htext, splitContent?_append (List.cons_ne_nil c content) hclose] at h
          cases h
    · exact .inr hmem
  · intro h
    cases hsplit : splitContent? text with
    | none => rfl
    | some parts =>
        obtain ⟨content, rest⟩ := parts
        obtain ⟨hne, hclose⟩ := splitContent?_content hsplit
        obtain ⟨c, more, hcontent⟩ := List.exists_cons_of_ne_nil hne
        rw [← splitContent?_eq hsplit] at h
        rcases h with hhead | hnone
        · rw [hcontent] at hhead hclose
          exact absurd (Option.some.inj hhead ▸ List.mem_cons_self) hclose
        · exact absurd (List.mem_append_right content List.mem_cons_self) hnone

theorem afterMark_of_head?_ne {text : List Char} (h : text.head? ≠ some '!') :
    afterMark text = text := by
  rw [afterMark]
  intro after htext
  rw [htext] at h
  exact h rfl

/-- The content of a class stands behind its mark, if it has one. -/
theorem splitClass?_eq (text : List Char) :
    splitClass? text = (splitContent? (afterMark text)).map fun (content, rest) =>
      (.charClass content (text.head? == some '!'), rest) := by
  by_cases hmark : text.head? = some '!'
  · obtain ⟨after, htext⟩ := List.head?_eq_some_iff.1 hmark
    rw [htext]
    rfl
  · rw [afterMark_of_head?_ne hmark, beq_eq_false_iff_ne.2 hmark, splitClass?]
    intro after htext
    rw [htext] at hmark
    exact hmark rfl

theorem splitClass?_fits {text rest : List Char} {token : Token}
    (h : splitClass? text = some (token, rest)) : token.Fits rest := by
  rw [splitClass?_eq, Option.map_eq_some_iff] at h
  obtain ⟨⟨content, after⟩, hsplit, htoken⟩ := h
  cases htoken
  obtain ⟨hne, hclose⟩ := splitContent?_content hsplit
  refine ⟨hne, hclose, fun hnegated => ?_⟩
  -- Without a mark the content is what the text starts with.
  rw [beq_eq_false_iff_ne] at hnegated
  rw [afterMark_of_head?_ne hnegated] at hsplit
  rw [← splitContent?_eq hsplit] at hnegated
  obtain ⟨c, more, hcontent⟩ := List.exists_cons_of_ne_nil hne
  rw [hcontent] at hnegated ⊢
  exact hnegated

/-- The scanner reads the tokens of the body. -/
theorem reads_tokens (body : List Char) : Reads body (tokens body) := by
  fun_induction tokens body with
  | case1 => exact .nil
  | case2 rest ih => exact .cons .doubleStarSlash trivial ih
  | case3 rest hslash ih =>
      refine .cons .doubleStar (fun hhead => ?_) ih
      obtain ⟨after, hrest⟩ := List.head?_eq_some_iff.1 hhead
      exact hslash after hrest
  | case4 rest hslash hstar ih =>
      refine .cons .star (fun hhead => ?_) ih
      obtain ⟨after, hrest⟩ := List.head?_eq_some_iff.1 hhead
      exact hstar after hrest
  | case5 rest ih => exact .cons .question trivial ih
  | case6 text token rest hclass _ ih =>
      rw [← splitClass?_write hclass]
      exact .cons token (splitClass?_fits hclass) ih
  | case7 text hclass ih =>
      rw [splitClass?_eq, Option.map_eq_none_iff, splitContent?_eq_none_iff] at hclass
      exact .cons (.literal '[') ⟨by decide, by decide, by decide, fun _ => hclass⟩ ih
  | case8 => exact .dangling
  | case9 c rest ih => exact .cons (.escaped c) trivial ih
  | case10 c rest hds hd hstar hquestion hopen hend hescape ih =>
      refine .cons (.literal c) ⟨hstar, hquestion, fun hc => ?_, fun hc => absurd hc hopen⟩ ih
      subst hc
      cases rest with
      | nil => exact hend rfl rfl
      | cons d rest => exact hescape d rest rfl rfl

/-! ## What the tokens say together -/

/-- No token escapes what comes behind it. -/
theorem Token.escapesNext_write {token : Token} {rest : List Char} (h : token.Fits rest) :
    escapesNext token.write = false := by
  cases token with
  | literal c =>
      obtain ⟨_, _, hc, _⟩ := h
      exact escapesNext_cons hc []
  | escaped c => exact escapesNext_escaped c []
  | charClass content negated =>
      rw [write, ← List.cons_append, escapesNext_concat]
      rfl
  | _ => rfl

/-- The tokens make up the body again, but for a backslash that escapes nothing. -/
theorem Reads.flatMap_write {body : List Char} {units : List Token} (h : Reads body units) :
    units.flatMap Token.write = if escapesNext body = false then body else body.dropLast := by
  induction h with
  | nil => rfl
  | dangling => rfl
  | @cons token rest units hfits _ ih =>
      rw [List.flatMap_cons, ih, escapesNext_append (Token.escapesNext_write hfits)]
      split
      · rfl
      · next hescapes =>
          have hne : rest ≠ [] := by
            intro hnil
            rw [hnil] at hescapes
            exact hescapes rfl
          rw [List.dropLast_append_of_ne_nil hne]

/-- The tokens can be parted anywhere, and then so can the body. -/
theorem Reads.exists_rest {body : List Char} {front back : List Token}
    (h : Reads body (front ++ back)) :
    ∃ rest, front.flatMap Token.write ++ rest = body ∧ Reads rest back := by
  induction front generalizing body with
  | nil => exact ⟨body, rfl, h⟩
  | cons token front ih =>
      cases h with
      | cons _ _ hrest =>
          obtain ⟨rest, hbody, hback⟩ := ih hrest
          refine ⟨rest, ?_, hback⟩
          rw [List.flatMap_cons, List.append_assoc, hbody]

/-- Each token fits in front of what the tokens behind it are read from. -/
theorem Reads.fits {body : List Char} {front back : List Token} {token : Token}
    (h : Reads body (front ++ token :: back)) :
    ∃ rest, front.flatMap Token.write ++ token.write ++ rest = body ∧ token.Fits rest ∧
      Reads rest back := by
  obtain ⟨text, hbody, htoken⟩ := h.exists_rest
  cases htoken with
  | @cons _ rest _ hfits hback =>
      exact ⟨rest, by rw [List.append_assoc, hbody], hfits, hback⟩

theorem Reads.head?_eq {body : List Char} {token : Token} {units : List Token}
    (h : Reads body (token :: units)) : body.head? = token.write.head? := by
  cases h with
  | @cons _ rest _ _ _ =>
      obtain ⟨c, more, hwrite⟩ := List.exists_cons_of_length_pos token.write_length_pos
      rw [hwrite]
      rfl

/-- Neighbours could not have been read as one longer token. -/
theorem Reads.neighbours {body : List Char} {front back : List Token} {token next : Token}
    (h : Reads body (front ++ token :: next :: back)) :
    (token = .star → next.write.head? ≠ some '*') ∧
      (token = .doubleStar → next ≠ .literal '/') := by
  obtain ⟨rest, _, hfits, hnext⟩ := h.fits
  have hhead := hnext.head?_eq
  refine ⟨fun htoken => ?_, fun htoken hslash => ?_⟩
  · have hstar : rest.head? ≠ some '*' := by
      rw [htoken] at hfits
      exact hfits
    rw [hhead] at hstar
    exact hstar
  · have hrest : rest.head? ≠ some '/' := by
      rw [htoken] at hfits
      exact hfits
    rw [hhead, hslash] at hrest
    exact hrest rfl

/-- What stands behind the bracket of a class has the content in front, and so there is a
bracket to end it. -/
theorem afterMark_charClass {content rest : List Char} {negated : Bool}
    (h : (Token.charClass content negated).Fits rest) :
    ¬ ((afterMark ((if negated then ['!'] else []) ++ content ++ ']' :: rest)).head? = some ']' ∨
      ']' ∉ afterMark ((if negated then ['!'] else []) ++ content ++ ']' :: rest)) := by
  obtain ⟨hne, hclose, hmark⟩ := h
  have hafter : afterMark ((if negated then ['!'] else []) ++ content ++ ']' :: rest) =
      content ++ ']' :: rest := by
    cases negated with
    | true => rfl
    | false =>
        refine afterMark_of_head?_ne ?_
        obtain ⟨c, more, hcontent⟩ := List.exists_cons_of_ne_nil hne
        rw [hcontent] at hmark ⊢
        exact hmark rfl
  rw [hafter, ← splitContent?_eq_none_iff, splitContent?_append hne hclose]
  exact Option.some_ne_none _

/-- A bracket is a plain character just where no class can be read. -/
theorem Reads.literal_bracket_iff {body rest : List Char} {front back : List Token}
    {token : Token} (h : Reads body (front ++ token :: back))
    (hbody : body = front.flatMap Token.write ++ '[' :: rest) :
    token = .literal '[' ↔ (afterMark rest).head? = some ']' ∨ ']' ∉ afterMark rest := by
  obtain ⟨after, hwrite, hfits, _⟩ := h.fits
  rw [hbody, List.append_assoc, List.append_cancel_left_eq] at hwrite
  cases token with
  | literal c =>
      cases hwrite
      exact iff_of_true rfl (hfits.2.2.2 rfl)
  | charClass content negated =>
      rw [Token.write, List.cons_append, List.append_assoc, List.singleton_append] at hwrite
      cases hwrite
      refine iff_of_false (fun htoken => ?_) (afterMark_charClass hfits)
      cases htoken
  | _ => cases hwrite

/-- The tokens are the body cut into pieces, each as long as can be: written one after the
other they give the body again, except that a backslash is dropped if it stands at the end
with nothing to escape, and no piece could have been read together with the next. -/
theorem tokens_lossless (body : List Char) :
    (tokens body).flatMap Token.write =
        (if trailingBackslashes body % 2 = 0 then body else body.dropLast) ∧
      (∀ front token next back, tokens body = front ++ token :: next :: back →
        (token = .star → next.write.head? ≠ some '*') ∧
          (token = .doubleStar → next ≠ .literal '/')) ∧
      (∀ c, .literal c ∈ tokens body → c ≠ '*' ∧ c ≠ '?' ∧ c ≠ '\\') ∧
      (∀ content negated, .charClass content negated ∈ tokens body →
        content ≠ [] ∧ ']' ∉ content) ∧
      ∀ front token back rest, tokens body = front ++ token :: back →
        body = front.flatMap Token.write ++ '[' :: rest →
          (token = .literal '[' ↔
            (afterMark rest).head? = some ']' ∨ ']' ∉ afterMark rest) := by
  have hreads := reads_tokens body
  refine ⟨?_, fun front token next back htokens => ?_, fun c hmem => ?_,
    fun content negated hmem => isWellFormed_of_mem_tokens hmem,
    fun front token back rest htokens hbody => ?_⟩
  · simp only [hreads.flatMap_write, escapesNext_eq_false_iff]
  · rw [htokens] at hreads
    exact hreads.neighbours
  · obtain ⟨front, back, htokens⟩ := List.append_of_mem hmem
    rw [htokens] at hreads
    obtain ⟨_, _, ⟨hstar, hquestion, hescape, _⟩, _⟩ := hreads.fits
    exact ⟨hstar, hquestion, hescape⟩
  · rw [htokens] at hreads
    exact hreads.literal_bracket_iff hbody

end IgnoreRules.Glob
