import Mathlib.Data.List.Forall2
import IgnoreRules.Pattern
import IgnoreRules.Proofs.ClassContent

/-!
# Reading the text of tokens

Every token has a text of its own in the regular expression of a body, and the
reader of regular expressions gets these texts one behind the other, with nothing
to mark where one ends. This file shows that it finds the ends all the same, as
long as the class contents have no escapes.

What it reads is `Token.item`, the one item that a token turns into. Reading takes
the text of a token off the front of any text and makes that item of it, unless a
`*` follows that would repeat it; and no token's text starts with a `*`. So a body
reads as the items of its tokens, one after the other, and it is refused exactly
when the class of some token is.
-/

namespace IgnoreRules.Glob

/-- The regular expression reader takes the class of the token as the glob does: it
meets no escape, and no bracket that counts as a member. -/
def Token.IsPlain : Token → Prop
  | .charClass content negated => '\\' ∉ content ∧ (negated = false → content ≠ ['^'])
  | _ => True

instance : DecidablePred Token.IsPlain
  | .charClass content negated =>
      inferInstanceAs (Decidable ('\\' ∉ content ∧ (negated = false → content ≠ ['^'])))
  | .literal _ | .escaped _ | .star | .doubleStar | .doubleStarSlash | .question =>
      inferInstanceAs (Decidable True)

/-- The token is a class. -/
def Token.IsClass : Token → Prop
  | .charClass _ _ => True
  | _ => False

instance : DecidablePred Token.IsClass
  | .charClass _ _ => inferInstanceAs (Decidable True)
  | .literal _ | .escaped _ | .star | .doubleStar | .doubleStarSlash | .question =>
      inferInstanceAs (Decidable False)

/-- The characters within a segment. -/
def inSegment : CharClass :=
  ⟨true, [.code '/'.toNat]⟩

/-- The class that a content without escapes reads as. -/
def classOf (content : List Char) (negated : Bool) : Except RegexFault CharClass :=
  match negated, content with
  | true, content => (Regex.contentMembers true content).map (⟨true, ·⟩)
  | false, '[' :: _ => .error .ambiguous
  | false, '^' :: content => (Regex.contentMembers true content).map (⟨true, ·⟩)
  | false, content => (Regex.contentMembers true content).map (⟨false, ·⟩)

/-- The item that the text of a token reads as. -/
def Token.item : Token → Except RegexFault RegexItem
  | .literal c => .ok (.step (.one (.single c)))
  | .escaped c => .ok (.step (.one (.single c)))
  | .star => .ok (.step (.many inSegment))
  | .doubleStar => .ok (.step (.many .any))
  | .doubleStarSlash => .ok (.optional [.many .any, .one (.single '/')])
  | .question => .ok (.step (.one inSegment))
  | .charClass content negated => (classOf content negated).map (.step <| .one ·)

/-! ## Reading one atom -/

theorem not_isAlphanum_of_isSpecial {c : Char} (h : isSpecial c = true) :
    c.isAlphanum = false := by
  have hall : ("()[]\x7b\x7d?*+-|^$\\.&~# \t\n\r\x0b\x0c".toList.all
      fun c => !c.isAlphanum) = true := by decide
  have := List.all_eq_true.1 hall c (List.contains_iff_mem.1 h)
  simpa using this

theorem isSpecial_of_isMeta {c : Char} (h : Regex.isMeta c = true) : isSpecial c = true := by
  have hall : ("\\.^$*+?|()[]\x7b\x7d".toList.all isSpecial) = true := by decide
  exact List.all_eq_true.1 hall c (List.contains_iff_mem.1 h)

/-- A quoted character reads as itself, whatever follows. -/
theorem readAtom_quote (c : Char) (rest : List Char) :
    Regex.readAtom (quote c ++ rest) = .ok (.single c, rest) := by
  unfold quote
  split
  · next h =>
      rw [List.cons_append, List.cons_append, List.nil_append, Regex.readAtom,
        if_neg (by simp [not_isAlphanum_of_isSpecial h])]
  · next h =>
      have hmeta : Regex.isMeta c = false := by
        by_contra hc
        exact h (isSpecial_of_isMeta (by simpa using hc))
      rw [List.singleton_append, Regex.readAtom]
      · rw [if_neg (by simp [hmeta])]
      · intro h
        subst h
        exact h (by decide)
      · intro h
        subst h
        exact h (by decide)
      · intro d after h
        subst h
        exact absurd (by decide) h

theorem classOf_plain {content : List Char} (hopen : content.head? ≠ some '[')
    (hcaret : content.head? ≠ some '^') :
    classOf content false = (Regex.contentMembers true content).map (⟨false, ·⟩) := by
  rw [classOf]
  · intro after hcontent
    rw [hcontent] at hopen
    exact hopen rfl
  · intro after hcontent
    rw [hcontent] at hcaret
    exact hcaret rfl

/-- The class of a plain token ends at the token's own bracket. -/
theorem readClass_content {content rest : List Char} {negated : Bool}
    (hplain : (Token.charClass content negated).IsPlain)
    (hwf : (Token.charClass content negated).IsWellFormed) :
    Regex.readClass ((if negated then ['^'] else []) ++ content ++ ']' :: rest) =
      (classOf content negated).map fun cls => (cls, rest) := by
  obtain ⟨hescape, hcaret⟩ := hplain
  obtain ⟨hne, hclose⟩ := hwf
  cases negated with
  | true =>
      rw [if_pos rfl, List.singleton_append, List.cons_append, Regex.readClass_negated,
        Regex.readMembers_nil_content hne hescape hclose, classOf]
      cases Regex.contentMembers true content <;> rfl
  | false =>
      rw [if_neg Bool.false_ne_true, List.nil_append]
      by_cases hopen : content.head? = some '['
      · obtain ⟨after, hcontent⟩ := List.head?_eq_some_iff.1 hopen
        subst hcontent
        rfl
      · by_cases hneg : content.head? = some '^'
        · obtain ⟨after, hcontent⟩ := List.head?_eq_some_iff.1 hneg
          subst hcontent
          have hne' : after ≠ [] := by
            intro h
            subst h
            exact hcaret rfl rfl
          rw [List.cons_append, Regex.readClass_negated, Regex.readMembers_nil_content hne'
            (List.not_mem_of_not_mem_cons hescape)
            (List.not_mem_of_not_mem_cons hclose), classOf]
          cases Regex.contentMembers true after <;> rfl
        · rw [classOf_plain hopen hneg,
            Regex.readClass_plain (mt (Regex.head?_append_close (by decide)).1 hopen)
              (mt (Regex.head?_append_close (by decide)).1 hneg),
            Regex.readMembers_nil_content hne hescape hclose]
          cases Regex.contentMembers true content <;> rfl

/-! ## Reading one token -/

theorem readAtom_charClass {content : List Char} {negated : Bool} (rest : List Char)
    (hplain : (Token.charClass content negated).IsPlain)
    (hwf : (Token.charClass content negated).IsWellFormed) :
    Regex.readAtom ((Token.charClass content negated).expression ++ rest) =
      (classOf content negated).map fun cls => (cls, rest) := by
  rw [← readClass_content hplain hwf, Token.expression, List.cons_append,
    List.append_assoc, List.singleton_append, Regex.readAtom]

theorem readAtom_inSegment (rest : List Char) :
    Regex.readAtom ("[^/]".toList ++ rest) = .ok (inSegment, rest) := by
  have hplain : (Token.charClass ['/'] true).IsPlain :=
    ⟨by decide, fun h => by cases h⟩
  have hwf : (Token.charClass ['/'] true).IsWellFormed := ⟨by decide, by decide⟩
  exact readAtom_charClass rest hplain hwf

theorem readGroup_leadingSegments (rest : List Char) :
    Regex.readGroup (".*/)?".toList ++ rest) = .ok ([.many .any, .one (.single '/')], rest) := by
  show Regex.readGroup ('.' :: '*' :: '/' :: ')' :: '?' :: rest) = _
  have hany : Regex.readStep ('.' :: '*' :: '/' :: ')' :: '?' :: rest) =
      .ok (.many .any, '/' :: ')' :: '?' :: rest) := Regex.readStep_many rfl
  have hslash : Regex.readStep ('/' :: ')' :: '?' :: rest) =
      .ok (.one (.single '/'), ')' :: '?' :: rest) := Regex.readStep_one rfl (by simp)
  rw [Regex.readGroup_step hany, Regex.readGroup_step hslash, Regex.readGroup_close]
  rfl

/-- The optional group in front of a body reads as one item, whatever the body is. -/
theorem readItems_leadingSegments (rest : List Char) :
    Regex.readItems (leadingSegments ++ rest) =
      (Regex.readItems rest).map (.optional [.many .any, .one (.single '/')] :: ·) := by
  show Regex.readItems ('(' :: '?' :: ':' :: (".*/)?".toList ++ rest)) = _
  rw [Regex.readItems_group, readGroup_leadingSegments]
  rfl

/-- Reading takes the text of a token off the front and makes the token's item of
it, unless a `*` behind it would repeat the item. -/
theorem readItems_expression {token : Token} {rest : List Char} (hplain : token.IsPlain)
    (hwf : token.IsWellFormed) (hstar : rest.head? ≠ some '*') :
    Regex.readItems (token.expression ++ rest) =
      token.item.bind fun item => (Regex.readItems rest).map (item :: ·) := by
  cases token with
  | literal c => exact Regex.readItems_step (Regex.readStep_one (readAtom_quote c rest) hstar)
  | escaped c => exact Regex.readItems_step (Regex.readStep_one (readAtom_quote c rest) hstar)
  | star => exact Regex.readItems_step (Regex.readStep_many (readAtom_inSegment ('*' :: rest)))
  | doubleStar =>
      have hread : Regex.readAtom ('.' :: '*' :: rest) = .ok (.any, '*' :: rest) := by
        rw [Regex.readAtom]
      exact Regex.readItems_step (Regex.readStep_many hread)
  | doubleStarSlash => exact readItems_leadingSegments rest
  | question => exact Regex.readItems_step (Regex.readStep_one (readAtom_inSegment rest) hstar)
  | charClass content negated =>
      have hread := readAtom_charClass rest hplain hwf
      rw [Token.item]
      cases hcls : classOf content negated with
      | error fault =>
          rw [hcls] at hread
          have hempty : (Token.charClass content negated).expression ++ rest ≠ [] := by
            intro h
            cases h
          have hgroup : ∀ tail, (Token.charClass content negated).expression ++ rest ≠
              '(' :: '?' :: ':' :: tail := by
            intro tail h
            cases h
          exact Regex.readItems_fault hempty hgroup (Regex.readStep_eq_error_iff.2 hread)
      | ok cls =>
          rw [hcls] at hread
          exact Regex.readItems_step (Regex.readStep_one hread hstar)

/-! ## Reading a body -/

theorem quote_head_ne_star (c : Char) (rest : List Char) :
    (quote c ++ rest).head? ≠ some '*' := by
  unfold quote
  split
  · simp
  · next h =>
      intro h
      cases h
      exact absurd (by decide) h

theorem expression_head_ne_star (units : List Token) :
    (units.flatMap Token.expression).head? ≠ some '*' := by
  cases units with
  | nil => decide
  | cons token units =>
      rw [List.flatMap_cons]
      cases token with
      | literal c => exact quote_head_ne_star c _
      | escaped c => exact quote_head_ne_star c _
      | star | doubleStar | doubleStarSlash | question | charClass =>
          intro h
          cases h

/-- The item is the one that the token turns into. -/
def Token.ReadsAs (token : Token) (item : RegexItem) : Prop :=
  token.item = .ok item

/-- A body reads as the items of its tokens, one after the other. -/
theorem readItems_eq_ok_iff {units : List Token} {items : List RegexItem}
    (hplain : ∀ token ∈ units, token.IsPlain) (hwf : ∀ token ∈ units, token.IsWellFormed) :
    Regex.readItems (units.flatMap Token.expression) = .ok items ↔
      List.Forall₂ Token.ReadsAs units items := by
  induction units generalizing items with
  | nil =>
      rw [List.flatMap_nil, Regex.readItems, List.forall₂_nil_left_iff]
      exact ⟨fun h => (Except.ok.inj h).symm, fun h => congrArg Except.ok h.symm⟩
  | cons token units ih =>
      obtain ⟨ht, hplain⟩ := List.forall_mem_cons.1 hplain
      obtain ⟨htw, hwf⟩ := List.forall_mem_cons.1 hwf
      rw [List.flatMap_cons, readItems_expression ht htw (expression_head_ne_star units),
        List.forall₂_cons_left_iff]
      simp only [← ih hplain hwf, Token.ReadsAs]
      cases token.item with
      | error fault =>
          constructor
          · intro h
            cases h
          · intro h
            obtain ⟨_, _, ⟨⟩, _⟩ := h
      | ok item =>
          cases Regex.readItems (units.flatMap Token.expression) with
          | error fault =>
              constructor
              · intro h
                cases h
              · intro h
                obtain ⟨_, _, _, ⟨⟩, _⟩ := h
          | ok rest =>
              constructor
              · intro h
                cases h
                exact ⟨item, rest, rfl, rfl, rfl⟩
              · intro h
                obtain ⟨_, _, ⟨⟩, ⟨⟩, rfl⟩ := h
                rfl

/-- Every unit has its counterpart as soon as each can be given one. -/
theorem exists_forall₂_iff {α β : Type} {R : α → β → Prop} {units : List α} :
    (∃ others, List.Forall₂ R units others) ↔ ∀ unit ∈ units, ∃ other, R unit other := by
  induction units with
  | nil => simp
  | cons unit units ih =>
      rw [List.forall_mem_cons, ← ih]
      constructor
      · intro h
        obtain ⟨_, h⟩ := h
        cases h with
        | cons h hs => exact ⟨⟨_, h⟩, ⟨_, hs⟩⟩
      · intro h
        obtain ⟨⟨other, h⟩, ⟨others, hs⟩⟩ := h
        exact ⟨other :: others, .cons h hs⟩

/-- Tokens read one after the other exactly when each has an item. -/
theorem exists_read_iff {units : List Token} (hplain : ∀ token ∈ units, token.IsPlain)
    (hwf : ∀ token ∈ units, token.IsWellFormed) :
    (∃ regex, Regex.read (units.flatMap Token.expression) = .ok regex) ↔
      ∀ token ∈ units, ∃ item, token.ReadsAs item := by
  rw [← exists_forall₂_iff]
  simp only [Regex.read_eq_ok_iff, readItems_eq_ok_iff hplain hwf]
  constructor
  · intro h
    obtain ⟨regex, h⟩ := h
    exact ⟨regex.items, h⟩
  · intro h
    obtain ⟨items, h⟩ := h
    exact ⟨⟨items⟩, h⟩

theorem exists_readsAs_iff {token : Token} (hplain : token.IsPlain) (hwf : token.IsWellFormed) :
    (∃ item, token.ReadsAs item) ↔ ∃ regex, Regex.read token.expression = .ok regex := by
  have hiff := exists_read_iff (List.forall_mem_singleton.2 hplain)
    (List.forall_mem_singleton.2 hwf)
  rw [List.forall_mem_singleton, List.flatMap_singleton] at hiff
  exact hiff.symm

theorem exists_readsAs_of_not_isClass {token : Token} (h : ¬ token.IsClass) :
    ∃ item, token.ReadsAs item := by
  cases token with
  | charClass content negated => exact absurd trivial h
  | _ => exact ⟨_, rfl⟩

end IgnoreRules.Glob
