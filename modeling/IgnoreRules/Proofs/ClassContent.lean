import IgnoreRules.Glob.Match
import IgnoreRules.Proofs.ReaderSteps

/-!
# Class contents without escapes

The content of a glob class is handed to the regular expression reader as it is
written. A content without a backslash cannot reach beyond its own bracket: the
reader looks two characters ahead at most, and all it can find there is the closing
bracket. So the members can be read off the content alone, which is what
`contentMembers` does, and the reader returns just those and stops behind the
bracket.

What the members hold is then what the content lists, character by character and
range by range.
-/

namespace IgnoreRules.Regex

/-- The members that a content without escapes consists of. -/
def contentMembers (isFirst : Bool) : List Char → Except RegexFault (List ClassMember)
  | [] => .ok []
  | c :: content =>
      if !isFirst ∧ isSetOperator c ∧ content.head? = some c then .error .ambiguous
      else
        match content with
        | '-' :: d :: rest =>
            if d = '-' then .error .ambiguous
            else
              match rangeOf? (.code c.toNat) (.code d.toNat) with
              | none => .error .invalid
              | some range => (contentMembers false rest).map (range :: ·)
        | content => (contentMembers false content).map (.code c.toNat :: ·)

/-! ## One member at a time -/

theorem memberAt_of_ne {c : Char} (hc : c ≠ '\\') (text : List Char) :
    memberAt c text = .ok (.code c.toNat, 0) := by
  rw [memberAt, if_neg hc]

theorem readMember_doubled {isFirst : Bool} {c : Char} {text : List Char}
    (h : !isFirst ∧ isSetOperator c ∧ text.head? = some c) :
    readMember isFirst (c :: text) = .error .ambiguous := by
  rw [readMember, if_pos h]

/-- A `-` between two characters asks for a range of them. -/
theorem readMember_range {isFirst : Bool} {c d : Char} {rest : List Char} (hc : c ≠ '\\')
    (hd : d ≠ '\\') (hend : d ≠ ']')
    (hop : ¬ (!isFirst ∧ isSetOperator c ∧ some '-' = some c)) :
    readMember isFirst (c :: '-' :: d :: rest) =
      if d = '-' then .error .ambiguous
      else match rangeOf? (.code c.toNat) (.code d.toNat) with
        | none => .error .invalid
        | some range => .ok (range, rest) := by
  rw [readMember, List.head?_cons, if_neg hop, memberAt_of_ne hc]
  show readRange (.code c.toNat) ('-' :: d :: rest) = _
  rw [readRange, if_neg hend, memberAt_of_ne hd]
  rfl

theorem head?_append_close {content rest : List Char} {c : Char} (hc : c ≠ ']') :
    (content ++ ']' :: rest).head? = some c ↔ content.head? = some c := by
  cases content with
  | nil => simp [hc.symm]
  | cons d content => simp

/-- A character is a member of its own when no `-` follows, or one that ends the class. -/
theorem readMember_single {isFirst : Bool} {c : Char} {content rest : List Char}
    (hc : c ≠ '\\') (hclose : c ≠ ']')
    (hop : ¬ (!isFirst ∧ isSetOperator c ∧ content.head? = some c))
    (hdash : ∀ d after, content ≠ '-' :: d :: after) :
    readMember isFirst (c :: (content ++ ']' :: rest)) =
      .ok (.code c.toNat, content ++ ']' :: rest) := by
  have hhead : (content ++ ']' :: rest).head? = some c ↔ content.head? = some c :=
    head?_append_close hclose
  rw [← hhead] at hop
  rw [readMember, if_neg hop, memberAt_of_ne hc]
  show readRange (.code c.toNat) (content ++ ']' :: rest) = _
  by_cases hnext : content.head? = some '-'
  · obtain ⟨after, hcontent⟩ := List.head?_eq_some_iff.1 hnext
    cases after with
    | nil =>
        rw [hcontent]
        rfl
    | cons d after => exact absurd hcontent (hdash d after)
  · exact readRange_of_head_ne (mt (head?_append_close (by decide)).1 hnext)

/-- The members seen so far stand before the others. -/
theorem map_snoc {seen : List ClassMember} {member : ClassMember} {rest : List Char}
    (others : Except RegexFault (List ClassMember)) :
    (others.map fun members => (seen ++ [member] ++ members, rest)) =
      (others.map (member :: ·)).map fun members => (seen ++ members, rest) := by
  cases others with
  | error fault => rfl
  | ok members => simp [Except.map]

/-- A class whose content has no escapes is read off its content, and reading stops
behind its bracket. -/
theorem readMembers_content {isFirst : Bool} {seen : List ClassMember}
    {content rest : List Char} (hfirst : seen.isEmpty = isFirst)
    (hne : isFirst = true → content ≠ []) (hescape : '\\' ∉ content)
    (hclose : ']' ∉ content) :
    readMembers seen (content ++ ']' :: rest) =
      (contentMembers isFirst content).map fun members => (seen ++ members, rest) := by
  fun_induction contentMembers isFirst content generalizing seen with
  | case1 isFirst =>
      have hs : seen ≠ [] := by
        intro h
        subst h
        exact hne hfirst.symm rfl
      rw [List.nil_append, readMembers_close hs]
      simp [Except.map]
  | case2 isFirst c content hop =>
      subst hfirst
      obtain ⟨hc, -⟩ := List.ne_and_not_mem_of_not_mem_cons hclose
      refine readMembers_fault (fun h => hc h.1.symm) (readMember_doubled ?_)
      exact ⟨hop.1, hop.2.1, (head?_append_close hc.symm).2 hop.2.2⟩
  | case3 isFirst c content hop =>
      subst hfirst
      simp only [List.mem_cons, not_or] at hescape hclose
      have hmember : readMember seen.isEmpty (c :: '-' :: '-' :: (content ++ ']' :: rest)) =
          .error .ambiguous := by
        rw [readMember_range (Ne.symm hescape.1) (by decide) (by decide) hop, if_pos rfl]
      exact readMembers_fault (fun h => hclose.1 h.1.symm) hmember
  | case4 isFirst c d content hd hrange hop =>
      subst hfirst
      simp only [List.mem_cons, not_or] at hescape hclose
      have hmember : readMember seen.isEmpty (c :: '-' :: d :: (content ++ ']' :: rest)) =
          .error .invalid := by
        rw [readMember_range (Ne.symm hescape.1) (Ne.symm hescape.2.2.1)
          (Ne.symm hclose.2.2.1) hop, if_neg hd, hrange]
      exact readMembers_fault (fun h => hclose.1 h.1.symm) hmember
  | case5 isFirst c d content hd range hrange hop ih =>
      subst hfirst
      simp only [List.mem_cons, not_or] at hescape hclose
      have hmember : readMember seen.isEmpty (c :: '-' :: d :: (content ++ ']' :: rest)) =
          .ok (range, content ++ ']' :: rest) := by
        rw [readMember_range (Ne.symm hescape.1) (Ne.symm hescape.2.2.1)
          (Ne.symm hclose.2.2.1) hop, if_neg hd, hrange]
      refine (readMembers_member (fun h => hclose.1 h.1.symm) hmember).trans ?_
      rw [ih (by simp) (by simp) hescape.2.2.2 hclose.2.2.2, map_snoc]
  | case6 isFirst c content hcontent hop ih =>
      subst hfirst
      simp only [List.mem_cons, not_or] at hescape hclose
      have hmember : readMember seen.isEmpty (c :: (content ++ ']' :: rest)) =
          .ok (.code c.toNat, content ++ ']' :: rest) :=
        readMember_single (Ne.symm hescape.1) (Ne.symm hclose.1) hop hcontent
      refine (readMembers_member (fun h => hclose.1 h.1.symm) hmember).trans ?_
      rw [ih (by simp) (by simp) hescape.2 hclose.2, map_snoc]

theorem readMembers_nil_content {content rest : List Char} (hne : content ≠ [])
    (hescape : '\\' ∉ content) (hclose : ']' ∉ content) :
    readMembers [] (content ++ ']' :: rest) =
      (contentMembers true content).map fun members => (members, rest) :=
  readMembers_content rfl (fun _ => hne) hescape hclose

end IgnoreRules.Regex

namespace IgnoreRules.Glob

/-! ## What the members hold -/

theorem code_holds (d c : Char) : (ClassMember.code d.toNat).holds c = decide (d = c) := by
  rw [ClassMember.code, ClassMember.holds, ← Bool.decide_and]
  refine decide_eq_decide.2 ⟨fun h => ?_, ?_⟩
  · exact Char.toNat_inj.1 (Nat.le_antisymm h.1 h.2)
  · intro h
    subst h
    exact ⟨Nat.le_refl _, Nat.le_refl _⟩

theorem range_holds (low high c : Char) :
    (ClassMember.range low.toNat high.toNat).holds c = (low ≤ c && c ≤ high : Bool) := by
  rfl

theorem rangeOf?_eq_some {low high : Nat} {range : ClassMember}
    (h : Regex.rangeOf? (.code low) (.code high) = some range) : range = .range low high := by
  rw [ClassMember.code, ClassMember.code, Regex.rangeOf?] at h
  split at h
  · cases h; rfl
  · cases h

/-- The members of a content hold the characters that the content lists. -/
theorem any_holds_contentMembers {isFirst : Bool} {content : List Char}
    {members : List ClassMember} (h : Regex.contentMembers isFirst content = .ok members)
    (c : Char) : members.any (·.holds c) = lists content c := by
  fun_induction Regex.contentMembers isFirst content generalizing members with
  | case1 => cases h; rfl
  | case2 => cases h
  | case3 => cases h
  | case4 => cases h
  | case5 isFirst low high content hdash range hrange hop ih =>
      cases hrest : Regex.contentMembers false content with
      | error fault => rw [hrest] at h; cases h
      | ok rest =>
          rw [hrest] at h
          cases h
          rw [List.any_cons, ih hrest, rangeOf?_eq_some hrange, range_holds, lists]
  | case6 isFirst d content hcontent hop ih =>
      cases hrest : Regex.contentMembers false content with
      | error fault => rw [hrest] at h; cases h
      | ok rest =>
          rw [hrest] at h
          cases h
          rw [List.any_cons, ih hrest, code_holds, lists]
          exact hcontent

end IgnoreRules.Glob
