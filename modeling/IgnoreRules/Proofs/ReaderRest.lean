import IgnoreRules.Proofs.ClassEnds

/-!
# What the reader leaves

Every part of the expression reader leaves the end of the text that it was given: it
takes characters off the front and makes up none. With the lengths beside the
definitions this says that the text is used up from left to right.
-/

namespace IgnoreRules.Regex

theorem readRange_suffix {low member : ClassMember} {text rest : List Char}
    (h : readRange low text = .ok (member, rest)) : rest <:+ text := by
  unfold readRange at h
  split at h
  · next d text =>
      split at h
      · cases h
        exact List.suffix_refl _
      · split at h
        · cases h
        · split at h
          · cases h
          · next high span _ =>
              split at h
              · cases h
              · cases h
                exact (List.drop_suffix span text).trans
                  ((List.suffix_cons d text).trans (List.suffix_cons '-' (d :: text)))
  · cases h
    exact List.suffix_refl _

theorem readMember_suffix {isFirst : Bool} {member : ClassMember} {text rest : List Char}
    (h : readMember isFirst text = .ok (member, rest)) : rest <:+ text := by
  unfold readMember at h
  split at h
  · cases h
  · next c text =>
      split at h
      · cases h
      · split at h
        · cases h
        · next low reach _ =>
            exact (readRange_suffix h).trans
              ((List.drop_suffix reach text).trans (List.suffix_cons c text))

theorem readClass_suffix {text rest : List Char} {cls : CharClass}
    (h : readClass text = .ok (cls, rest)) : rest <:+ text := by
  obtain ⟨front, htext, _⟩ := readClass_front h
  rw [htext]
  exact (List.suffix_cons ']' rest).trans (List.suffix_append front (']' :: rest))

theorem readAtom_suffix {text rest : List Char} {cls : CharClass}
    (h : readAtom text = .ok (cls, rest)) : rest <:+ text := by
  unfold readAtom at h
  split at h
  · cases h
    exact List.suffix_cons '.' _
  · exact (readClass_suffix h).trans (List.suffix_cons '[' _)
  · next c after =>
      split at h
      · cases h
      · cases h
        exact (List.suffix_cons c _).trans (List.suffix_cons '\\' _)
  · next c after _ _ _ =>
      split at h
      · cases h
      · cases h
        exact List.suffix_cons c _
  · cases h

theorem readStep_suffix {text rest : List Char} {step : RegexStep}
    (h : readStep text = .ok (step, rest)) : rest <:+ text := by
  unfold readStep at h
  split at h
  · cases h
  · next hatom =>
      cases h
      exact (List.suffix_cons '*' _).trans (readAtom_suffix hatom)
  · next hatom =>
      cases h
      exact readAtom_suffix hatom

end IgnoreRules.Regex
