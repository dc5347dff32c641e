import IgnoreRules.Proofs.Results
import IgnoreRules.Regex.Reader

/-!
# The reader, one step at a time

The loops of the expression reader carry proofs that the text gets shorter, which are
in the way when a loop is to be taken one step further. This file says for each loop
what its next step makes of the text: it ends, it goes on behind what has been read,
or it has the fault of what it could not read.
-/

namespace IgnoreRules.Regex

/-! ## Members of a class -/

theorem readRange_of_head_ne {low : ClassMember} {text : List Char}
    (hdash : text.head? ≠ some '-') : readRange low text = .ok (low, text) := by
  rw [readRange]
  intro d rest htext
  rw [htext] at hdash
  exact hdash rfl

/-- A `-` that the bracket follows is left for the next member. -/
theorem readRange_dash_close {low : ClassMember} {text : List Char}
    (h : text.head? = some ']') : readRange low ('-' :: text) = .ok (low, '-' :: text) := by
  obtain ⟨rest, htext⟩ := List.head?_eq_some_iff.1 h
  rw [htext, readRange, if_pos rfl]

theorem readRange_pair {low member : ClassMember} {d : Char} {text rest : List Char}
    (hclose : d ≠ ']') (h : readRange low ('-' :: d :: text) = .ok (member, rest)) :
    ∃ high span, d ≠ '-' ∧ memberAt d text = .ok (high, span) ∧
      rangeOf? low high = some member ∧ rest = text.drop span := by
  rw [readRange, if_neg hclose] at h
  split at h
  · cases h
  · next hdash =>
      split at h
      · cases h
      · next high span hhigh =>
          split at h
          · cases h
          · next range hrange =>
              cases h
              exact ⟨high, span, hdash, hhigh, hrange, rfl⟩

theorem readMembers_close {seen : List ClassMember} {rest : List Char} (hs : seen ≠ []) :
    readMembers seen (']' :: rest) = .ok (seen, rest) := by
  rw [readMembers, if_pos ⟨rfl, hs⟩]

theorem readMembers_member {seen : List ClassMember} {member : ClassMember} {c : Char}
    {text rest : List Char} (hc : ¬ (c = ']' ∧ seen ≠ []))
    (h : readMember seen.isEmpty (c :: text) = .ok (member, rest)) :
    readMembers seen (c :: text) = readMembers (seen ++ [member]) rest := by
  rw [readMembers, if_neg hc]
  split
  · next heq =>
      rw [h] at heq
      cases heq
  · next heq =>
      rw [h] at heq
      cases heq
      rfl

theorem readMembers_fault {seen : List ClassMember} {fault : RegexFault} {c : Char}
    {text : List Char} (hc : ¬ (c = ']' ∧ seen ≠ []))
    (h : readMember seen.isEmpty (c :: text) = .error fault) :
    readMembers seen (c :: text) = .error fault := by
  rw [readMembers, if_neg hc]
  split
  · next heq =>
      rw [h] at heq
      cases heq
      rfl
  · next heq =>
      rw [h] at heq
      cases heq

/-! ## Classes -/

theorem readClass_negated (text : List Char) :
    readClass ('^' :: text) =
      (readMembers [] text).map fun (members, rest) => (⟨true, members⟩, rest) := by
  rw [readClass]

theorem readClass_plain {text : List Char} (hopen : text.head? ≠ some '[')
    (hcaret : text.head? ≠ some '^') :
    readClass text =
      (readMembers [] text).map fun (members, rest) => (⟨false, members⟩, rest) := by
  rw [readClass]
  · intro rest htext
    rw [htext] at hopen
    exact hopen rfl
  · intro rest htext
    rw [htext] at hcaret
    exact hcaret rfl

/-! ## Steps

A `*` behind an atom repeats it, so an atom is a step of its own only where no `*`
follows. -/

theorem readStep_one {text rest : List Char} {cls : CharClass}
    (h : readAtom text = .ok (cls, rest)) (hstar : rest.head? ≠ some '*') :
    readStep text = .ok (.one cls, rest) := by
  rw [readStep, h]
  cases rest with
  | nil => rfl
  | cons c rest =>
      have hc : c ≠ '*' := fun heq => hstar (by rw [heq]; rfl)
      split
      · next heq => cases heq
      · next heq =>
          cases heq
          exact absurd rfl hc
      · next heq =>
          cases heq
          rfl

theorem readStep_many {text rest : List Char} {cls : CharClass}
    (h : readAtom text = .ok (cls, '*' :: rest)) :
    readStep text = .ok (.many cls, rest) := by
  rw [readStep, h]
  rfl

theorem readStep_eq_error_iff {text : List Char} {fault : RegexFault} :
    readStep text = .error fault ↔ readAtom text = .error fault := by
  constructor
  · intro h
    rw [readStep] at h
    split at h
    · next heq =>
        cases h
        exact heq
    · cases h
    · cases h
  · intro h
    rw [readStep, h]

/-! ## Groups -/

theorem readGroup_close (rest : List Char) :
    readGroup (')' :: '?' :: rest) = .ok ([], rest) := by
  rw [readGroup]

/-- No step starts with the bracket that ends a group. -/
theorem readGroup_step {text rest : List Char} {step : RegexStep}
    (h : readStep text = .ok (step, rest)) :
    readGroup text = (readGroup rest).map fun (steps, after) => (step :: steps, after) := by
  rw [readGroup]
  · split
    · next heq =>
        rw [h] at heq
        cases heq
    · next heq =>
        rw [h] at heq
        cases heq
        cases readGroup rest <;> rfl
  · intro tail htext
    rw [htext] at h
    cases h

theorem readGroup_fault {text : List Char} {fault : RegexFault}
    (hend : ∀ tail, text ≠ ')' :: '?' :: tail) (h : readStep text = .error fault) :
    readGroup text = .error fault := by
  rw [readGroup]
  · split
    · next heq =>
        rw [h] at heq
        cases heq
        rfl
    · next heq =>
        rw [h] at heq
        cases heq
  · exact hend

/-! ## Items -/

/-- No step starts with a bracket, so a step that reads is not mistaken for a group. -/
theorem readItems_step {text rest : List Char} {step : RegexStep}
    (h : readStep text = .ok (step, rest)) :
    readItems text = (readItems rest).map (.step step :: ·) := by
  rw [readItems]
  · split
    · next heq =>
        rw [h] at heq
        cases heq
    · next heq =>
        rw [h] at heq
        cases heq
        rfl
  · intro htext
    rw [htext] at h
    cases h
  · intro tail htext
    rw [htext] at h
    cases h

theorem readItems_fault {text : List Char} {fault : RegexFault} (hend : text ≠ [])
    (hgroup : ∀ tail, text ≠ '(' :: '?' :: ':' :: tail)
    (h : readStep text = .error fault) : readItems text = .error fault := by
  rw [readItems]
  · split
    · next heq =>
        rw [h] at heq
        cases heq
        rfl
    · next heq =>
        rw [h] at heq
        cases heq
  · exact hend
  · exact hgroup

theorem readItems_class_one {text rest : List Char} {cls : CharClass}
    (h : readClass text = .ok (cls, rest)) (hstar : rest.head? ≠ some '*') :
    readItems ('[' :: text) = (readItems rest).map (.step (.one cls) :: ·) := by
  have hatom : readAtom ('[' :: text) = .ok (cls, rest) := by
    rw [readAtom, h]
  exact readItems_step (readStep_one hatom hstar)

theorem readItems_class_many {text rest : List Char} {cls : CharClass}
    (h : readClass text = .ok (cls, '*' :: rest)) :
    readItems ('[' :: text) = (readItems rest).map (.step (.many cls) :: ·) := by
  have hatom : readAtom ('[' :: text) = .ok (cls, '*' :: rest) := by
    rw [readAtom, h]
  exact readItems_step (readStep_many hatom)

/-- An expression that starts with a class has the class for its first item, repeated or
not. -/
theorem exists_of_readItems_class {text : List Char} {items : List RegexItem}
    (h : readItems ('[' :: text) = .ok items) :
    ∃ cls rest, readClass text = .ok (cls, rest) ∧
      ((rest.head? ≠ some '*' ∧ ∃ others, readItems rest = .ok others ∧
          items = .step (.one cls) :: others) ∨
        ∃ behind others, rest = '*' :: behind ∧ readItems behind = .ok others ∧
          items = .step (.many cls) :: others) := by
  cases hclass : readClass text with
  | error fault =>
      have hatom : readAtom ('[' :: text) = .error fault := by
        rw [readAtom, hclass]
      rw [readItems_fault (List.cons_ne_nil _ _) (fun tail h => by cases h)
        (readStep_eq_error_iff.2 hatom)] at h
      cases h
  | ok result =>
      obtain ⟨cls, rest⟩ := result
      refine ⟨cls, rest, rfl, ?_⟩
      by_cases hstar : rest.head? = some '*'
      · obtain ⟨behind, rfl⟩ := List.head?_eq_some_iff.1 hstar
        rw [readItems_class_many hclass] at h
        obtain ⟨others, hothers, hitems⟩ := map_eq_ok_iff.1 h
        exact .inr ⟨behind, others, rfl, hothers, hitems.symm⟩
      · rw [readItems_class_one hclass hstar] at h
        obtain ⟨others, hothers, hitems⟩ := map_eq_ok_iff.1 h
        exact .inl ⟨hstar, others, hothers, hitems.symm⟩

theorem readItems_group (text : List Char) :
    readItems ('(' :: '?' :: ':' :: text) =
      readGroup text >>= fun result => (readItems result.2).map (.optional result.1 :: ·) := by
  rw [readItems]
  split
  · next heq =>
      simp only [heq]
      rfl
  · next heq =>
      simp only [heq]
      rfl

theorem read_eq_ok_iff {text : List Char} {regex : Regex} :
    read text = .ok regex ↔ readItems text = .ok regex.items := by
  rw [read, map_eq_ok_iff]
  constructor
  · intro h
    obtain ⟨items, h, heq⟩ := h
    rw [h, ← heq]
  · intro h
    exact ⟨regex.items, h, rfl⟩

theorem read_eq_error_iff {text : List Char} {fault : RegexFault} :
    read text = .error fault ↔ readItems text = .error fault := by
  rw [read, map_eq_error_iff]

end IgnoreRules.Regex
