import IgnoreRules.Proofs.FullMatch
import IgnoreRules.Proofs.TokenReading

/-!
# Bodies and their expressions mean the same

A glob body has a meaning of its own, `MatchesFrom`: the path is cut into pieces,
one for each token. The regular expression has another, which it gets only after
its text has been read back by a grammar that knows nothing of tokens.

The items that were read stand in the order of the tokens, so all that is left is
to compare them one by one: each item takes the pieces that its token takes. A cut
into the pieces of the items is then a cut into the pieces of the tokens, and
`fullMatch` looks for such a cut. Leading segments are one more item in front, the
one that `**/` turns into.
-/

namespace IgnoreRules.Glob

/-! ## Cuts of items and cuts of tokens -/

theorem cut_congr {α β : Type} {takes : α → List Char → Prop} {takes' : β → List Char → Prop}
    {R : α → β → Prop} (hR : ∀ unit other, R unit other →
      ∀ piece, takes unit piece ↔ takes' other piece)
    {units : List α} {others : List β} (h : List.Forall₂ R units others) {text : List Char} :
    Cut takes units text ↔ Cut takes' others text := by
  induction h generalizing text with
  | nil => rw [cut_nil_iff, cut_nil_iff]
  | cons hunit _ ih =>
      rw [cut_cons_iff, cut_cons_iff]
      simp only [hR _ _ hunit, ih]

theorem inSegment_holds_iff {c : Char} : inSegment.holds c = true ↔ c ≠ '/' := by
  rw [inSegment, CharClass.holds, List.any_cons, code_holds]
  simp only [List.any_nil, Bool.or_false, bne_iff_ne, ne_eq, decide_eq_true_eq]
  exact not_congr eq_comm

theorem single_holds_iff {c d : Char} : (CharClass.single c).holds d = true ↔ c = d := by
  rw [CharClass.single, CharClass.holds, List.any_cons, code_holds]
  simp

theorem one_single_takes_iff {c : Char} {piece : List Char} :
    (RegexStep.one (.single c)).Takes piece ↔ piece = [c] := by
  simp only [RegexStep.Takes, single_holds_iff]
  constructor
  · intro h
    obtain ⟨d, rfl, rfl⟩ := h
    rfl
  · intro h
    subst h
    exact ⟨c, rfl, rfl⟩

theorem many_any_takes (piece : List Char) : (RegexStep.many .any).Takes piece := by
  intro c _
  rfl

/-- Any text and a `/` behind it. -/
theorem leadingSegments_takes_iff {piece : List Char} :
    (RegexItem.optional [.many .any, .one (.single '/')]).Takes piece ↔
      piece = [] ∨ piece.getLast? = some '/' := by
  simp only [RegexItem.Takes, cut_cons_iff, cut_nil_iff, one_single_takes_iff]
  refine or_congr_right ⟨?_, fun h => ?_⟩
  · intro h
    obtain ⟨lead, _, -, ⟨_, _, rfl, rfl, rfl⟩, rfl⟩ := h
    simp
  · obtain ⟨lead, rfl⟩ := List.getLast?_eq_some_iff.1 h
    exact ⟨lead, ['/'], many_any_takes lead, ⟨['/'], [], rfl, rfl, rfl⟩, rfl⟩

theorem members_holds {content : List Char} {negated : Bool} {cls : CharClass}
    (h : (Regex.contentMembers true content).map (CharClass.mk negated) = .ok cls) (c : Char) :
    cls.holds c = (lists content c != negated) := by
  cases hmembers : Regex.contentMembers true content with
  | error fault => rw [hmembers] at h; cases h
  | ok members =>
      rw [hmembers] at h
      cases h
      rw [CharClass.holds, any_holds_contentMembers hmembers]

/-- The class that a token reads as holds what the token's class holds. -/
theorem classOf_holds {content : List Char} {negated : Bool} {cls : CharClass}
    (h : classOf content negated = .ok cls) (c : Char) :
    cls.holds c = classHolds content negated c := by
  unfold classOf at h
  split at h
  · rw [members_holds h c, Bool.bne_true, classHolds]
  · cases h
  · rw [members_holds h c, Bool.bne_true, classHolds]
  · next hcaret =>
      rw [members_holds h c, Bool.bne_false, classHolds]
      exact hcaret

/-- An item takes the pieces that its token takes. -/
theorem takes_iff {token : Token} {item : RegexItem} (h : token.ReadsAs item)
    (piece : List Char) : token.Takes piece ↔ item.Takes piece := by
  cases token with
  | literal c => cases h; exact one_single_takes_iff.symm
  | escaped c => cases h; exact one_single_takes_iff.symm
  | star =>
      cases h
      simp only [Token.Takes, RegexItem.Takes, RegexStep.Takes, inSegment_holds_iff]
      exact ⟨fun h c hc heq => h (heq ▸ hc), fun h hc => h _ hc rfl⟩
  | doubleStar => cases h; exact iff_of_true trivial (many_any_takes piece)
  | doubleStarSlash => cases h; exact leadingSegments_takes_iff.symm
  | question =>
      cases h
      simp only [Token.Takes, RegexItem.Takes, RegexStep.Takes, inSegment_holds_iff]
  | charClass content negated =>
      rw [Token.ReadsAs, Token.item] at h
      cases hcls : classOf content negated with
      | error fault => rw [hcls] at h; cases h
      | ok cls =>
          rw [hcls] at h
          cases h
          simp only [Token.Takes, RegexItem.Takes, RegexStep.Takes, classOf_holds hcls]

/-! ## Bodies -/

/-- The tokens of a body, behind any leading segments if it has no anchor. -/
def anchoredTokens (body : List Char) (anchored : Bool) : List Token :=
  if anchored then tokens body else .doubleStarSlash :: tokens body

theorem anchoredExpression_eq (body : List Char) (anchored : Bool) :
    anchoredExpression body anchored =
      (anchoredTokens body anchored).flatMap Token.expression := by
  cases anchored <;> rfl

theorem forall_mem_anchoredTokens_iff {body : List Char} (anchored : Bool)
    {p : Token → Prop} (hp : p .doubleStarSlash) :
    (∀ token ∈ anchoredTokens body anchored, p token) ↔ ∀ token ∈ tokens body, p token := by
  cases anchored with
  | true => rfl
  | false =>
      rw [anchoredTokens, if_neg Bool.false_ne_true, List.forall_mem_cons]
      exact and_iff_right hp

/-- The pieces of the tokens, with the leading segments as one more piece. -/
theorem cut_anchoredTokens_iff {body path : List Char} {anchored : Bool} :
    Cut Token.Takes (anchoredTokens body anchored) path ↔ MatchesFrom anchored body path := by
  cases anchored with
  | true =>
      constructor
      · intro h
        exact ⟨[], path, rfl, Or.inl rfl, h⟩
      · intro h
        obtain ⟨lead, rest, rfl, rfl | ⟨⟨⟩, -⟩, h⟩ := h
        exact h
  | false =>
      rw [anchoredTokens, if_neg Bool.false_ne_true, cut_cons_iff]
      constructor
      · intro h
        obtain ⟨lead, rest, hlead, h, rfl⟩ := h
        exact ⟨lead, rest, rfl, hlead.imp_right fun h => ⟨rfl, h⟩, h⟩
      · intro h
        obtain ⟨lead, rest, rfl, hlead, h⟩ := h
        exact ⟨lead, rest, hlead.imp_right And.right, h, rfl⟩

section

variable {body : List Char} (hplain : ∀ token ∈ tokens body, token.IsPlain)

include hplain

theorem exists_regex_iff (anchored : Bool) :
    (∃ regex, Glob.regex body anchored = .ok regex) ↔
      ∀ token ∈ tokens body, token.IsClass →
        ∃ regex, Regex.read token.expression = .ok regex := by
  have hplain' := (forall_mem_anchoredTokens_iff anchored trivial).2 hplain
  have hwf : ∀ token ∈ anchoredTokens body anchored, token.IsWellFormed :=
    (forall_mem_anchoredTokens_iff anchored trivial).2 fun _ => isWellFormed_of_mem_tokens
  rw [Glob.regex, anchoredExpression_eq, exists_read_iff hplain' hwf,
    forall_mem_anchoredTokens_iff anchored ⟨_, rfl⟩]
  refine forall₂_congr fun token hmem => ?_
  have htoken := exists_readsAs_iff (hplain token hmem) (isWellFormed_of_mem_tokens hmem)
  constructor
  · intro h _
    exact htoken.1 h
  · intro h
    by_cases hclass : token.IsClass
    · exact htoken.2 (h hclass)
    · exact exists_readsAs_of_not_isClass hclass

theorem fullMatch_iff_matchesFrom {anchored : Bool} {regex : Regex}
    (h : Glob.regex body anchored = .ok regex) (path : List Char) :
    regex.fullMatch path = true ↔ MatchesFrom anchored body path := by
  have hplain' := (forall_mem_anchoredTokens_iff anchored trivial).2 hplain
  have hwf : ∀ token ∈ anchoredTokens body anchored, token.IsWellFormed :=
    (forall_mem_anchoredTokens_iff anchored trivial).2 fun _ => isWellFormed_of_mem_tokens
  rw [Glob.regex, anchoredExpression_eq, Regex.read_eq_ok_iff, readItems_eq_ok_iff hplain' hwf] at h
  rw [Regex.fullMatch_iff, ← cut_anchoredTokens_iff, Regex.Matches]
  exact (cut_congr (R := Token.ReadsAs) (fun _ _ => takes_iff) h).symm

/-- The expression of a body without escapes in its classes says what the body says.
It reads unless a class of the body is refused, and it matches a path from end to end
exactly when the tokens cut the path. -/
theorem translation_preserves_meaning :
    (∀ anchored, (∃ regex, Glob.regex body anchored = .ok regex) ↔
      ∀ token ∈ tokens body, token.IsClass →
        ∃ regex, Regex.read token.expression = .ok regex) ∧
    ((∀ token ∈ tokens body, ¬ token.IsClass) →
      ∀ anchored, ∃ regex, Glob.regex body anchored = .ok regex) ∧
    ∀ anchored regex, Glob.regex body anchored = .ok regex →
      ∀ path, regex.fullMatch path = true ↔ MatchesFrom anchored body path := by
  refine ⟨exists_regex_iff hplain, fun hnone anchored => ?_, fun anchored regex h path => ?_⟩
  · exact (exists_regex_iff hplain anchored).2 fun token hmem hclass =>
      absurd hclass (hnone token hmem)
  · exact fullMatch_iff_matchesFrom hplain h path

end

/-- A negated class and a star, behind any leading segments. -/
theorem translation_preserves_meaning_of_class_star :
    (∀ token ∈ tokens "[!a-c]*".toList, token.IsPlain) ∧
      ∃ regex, Glob.regex "[!a-c]*".toList false = .ok regex ∧
        ∀ path, regex.fullMatch path = true ↔ MatchesFrom false "[!a-c]*".toList path := by
  have hplain : ∀ token ∈ tokens "[!a-c]*".toList, token.IsPlain := by decide +kernel
  obtain ⟨hreads, -, hmatch⟩ := translation_preserves_meaning hplain
  have htokens : tokens "[!a-c]*".toList = [.charClass ['a', '-', 'c'] true, .star] := by cbv
  obtain ⟨regex, h⟩ := (hreads false).2 fun token hmem hclass => by
    rw [htokens] at hmem
    rcases List.mem_cons.1 hmem with rfl | hmem
    · exact ⟨⟨[.step (.one ⟨true, [.range 97 99]⟩)]⟩, by decide +kernel⟩
    · cases List.mem_singleton.1 hmem
      exact absurd hclass id
  exact ⟨hplain, regex, h, hmatch false regex h⟩
end IgnoreRules.Glob
