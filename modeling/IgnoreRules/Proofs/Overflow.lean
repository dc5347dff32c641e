import IgnoreRules.Proofs.LineByLine
import IgnoreRules.Proofs.LongEscapes
import IgnoreRules.Proofs.ReaderRest
import IgnoreRules.Proofs.TokenReading

/-!
# Lines that stop the others

A line whose expression is invalid or ambiguous is dropped, and the lines after it are
read all the same. One fault is not treated so: an escape for a code point that is too
large to be represented. This file says which lines have that fault.

It is the fault of a line if reading the expression from left to right comes to such an
escape before it comes to any other fault. What reading comes to is a relation between
texts. It goes over whole members and steps that are read without a fault, into the
group, and into classes, and it may stop wherever the next member of a class is read or
the second end of a range. The relation has one constructor for each way of going on,
and each of them leaves the fault that is found later as it is.

It follows that the escape is one that somebody wrote: a line without a `U` behind a
backslash never stops the others.
-/

namespace IgnoreRules

/-- The text starts with an escape for a code point that cannot be represented. -/
def WritesOverlarge (text : List Char) : Prop :=
  ∃ digits code, text = '\\' :: 'U' :: digits ∧ Numeral.hex? 8 digits = some code ∧
    Regex.overflowLimit ≤ code

namespace Regex

/-- While one member is read, what comes next as a character or escape is a place: the
start of the member, or what stands behind the `-` of a range. -/
inductive MemberReaches (isFirst : Bool) : List Char → List Char → Prop
  | start (text : List Char) : MemberReaches isFirst text text
  | rangeEnd {c : Char} {text rest : List Char} {low : ClassMember} {reach : Nat}
      (hop : ¬ (!isFirst ∧ isSetOperator c ∧ text.head? = some c))
      (hlow : memberAt c text = .ok (low, reach)) (hdash : text.drop reach = '-' :: rest) :
      MemberReaches isFirst (c :: text) rest

/-- The same while the members of a class are read, up to its end. -/
inductive ClassReaches : Bool → List Char → List Char → Prop
  | inMember {isFirst : Bool} {text place : List Char}
      (hgo : ¬ (isFirst = false ∧ text.head? = some ']'))
      (hplace : MemberReaches isFirst text place) : ClassReaches isFirst text place
  | next {isFirst : Bool} {text rest place : List Char} {member : ClassMember}
      (hgo : ¬ (isFirst = false ∧ text.head? = some ']'))
      (hmember : readMember isFirst text = .ok (member, rest))
      (hplace : ClassReaches false rest place) : ClassReaches isFirst text place

/-- The text starts with a class whose members start at the body. -/
inductive ClassBody : List Char → List Char → Prop
  | plain {body : List Char} (hopen : body.head? ≠ some '[') (hcaret : body.head? ≠ some '^') :
      ClassBody ('[' :: body) body
  | negated (body : List Char) : ClassBody ('[' :: '^' :: body) body

/-- The same while an expression is read, in a group or outside. -/
inductive Reaches : Bool → List Char → List Char → Prop
  | inClass {inGroup : Bool} {text body place : List Char} (hbody : ClassBody text body)
      (hplace : ClassReaches true body place) : Reaches inGroup text place
  | step {inGroup : Bool} {text rest place : List Char} {step : RegexStep}
      (hstep : readStep text = .ok (step, rest)) (hplace : Reaches inGroup rest place) :
      Reaches inGroup text place
  | openGroup {text place : List Char} (hplace : Reaches true text place) :
      Reaches false ('(' :: '?' :: ':' :: text) place
  | closeGroup {text place : List Char} (hplace : Reaches false text place) :
      Reaches true (')' :: '?' :: text) place

/-! ## Escapes and members -/

theorem hexEscape_ne_overflow (width : Nat) (text : List Char) :
    hexEscape width text ≠ .error .overflow := by
  rw [hexEscape]
  split
  · intro h
    cases h
  · intro h
    cases h

theorem octalEscape_ne_overflow (text : List Char) :
    octalEscape text ≠ .error .overflow := by
  intro h
  simp only [octalEscape] at h
  split at h <;> cases h

theorem namedEscape_ne_overflow (text : List Char) :
    namedEscape text ≠ .error .overflow := by
  intro h
  unfold namedEscape at h
  split at h
  · dsimp only at h
    split at h
    · cases h
    · split at h <;> cases h
  · cases h

theorem hexEscape_eq_ok_iff {width : Nat} {text : List Char} {code : Nat} :
    hexEscape width text = .ok code ↔ Numeral.hex? width text = some code := by
  rw [hexEscape]
  split
  · next heq => simp [heq]
  · next heq => simp [heq]

/-- Of all escapes only one has the fault. -/
theorem escapeAt_eq_overflow_iff {text : List Char} :
    escapeAt text = .error .overflow ↔ WritesOverlarge ('\\' :: text) := by
  constructor
  · intro h
    unfold escapeAt at h
    split at h
    case h_17 digits =>
      rcases bind_eq_error_iff.1 h with h | ⟨code, hcode, h⟩
      · exact absurd h (hexEscape_ne_overflow 8 digits)
      · split at h
        · cases h
        · split at h
          · cases h
          · next hlimit =>
              exact ⟨digits, code, rfl, hexEscape_eq_ok_iff.1 hcode, Nat.le_of_not_lt hlimit⟩
    case h_15 digits =>
      rcases bind_eq_error_iff.1 h with h | ⟨_, _, h⟩
      · exact absurd h (hexEscape_ne_overflow 2 digits)
      · cases h
    case h_16 digits =>
      rcases bind_eq_error_iff.1 h with h | ⟨_, _, h⟩
      · exact absurd h (hexEscape_ne_overflow 4 digits)
      · cases h
    case h_18 name =>
      rcases bind_eq_error_iff.1 h with h | ⟨_, _, h⟩
      · exact absurd h (namedEscape_ne_overflow name)
      · cases h
    case h_19 =>
      split at h
      · rcases bind_eq_error_iff.1 h with h | ⟨_, _, h⟩
        · exact absurd h (octalEscape_ne_overflow _)
        · cases h
      · split at h <;> cases h
    all_goals cases h
  · intro h
    obtain ⟨digits, code, htext, hcode, hlimit⟩ := h
    cases htext
    rw [escapeAt]
    refine bind_eq_error_iff.2 (.inr ⟨code, hexEscape_eq_ok_iff.2 hcode, ?_⟩)
    have hcodeLimit : ¬ code < codeLimit := by
      have : codeLimit ≤ overflowLimit := by decide
      omega
    rw [if_neg hcodeLimit, if_neg (Nat.not_lt_of_le hlimit)]
    rfl

theorem memberAt_eq_overflow_iff {c : Char} {text : List Char} :
    memberAt c text = .error .overflow ↔ WritesOverlarge (c :: text) := by
  rw [memberAt]
  split
  · next hc => rw [hc, escapeAt_eq_overflow_iff]
  · next hc =>
      constructor
      · intro h
        cases h
      · intro h
        obtain ⟨digits, code, htext, _⟩ := h
        cases htext
        exact absurd rfl hc

/-- The second end of a range has the fault if it has it alone: the escape starts with a
backslash, which neither ends a class nor repeats the `-`. -/
theorem readRange_eq_overflow_iff {low : ClassMember} {text : List Char} :
    readRange low text = .error .overflow ↔ ∃ rest, text = '-' :: rest ∧ WritesOverlarge rest := by
  constructor
  · intro h
    unfold readRange at h
    split at h
    · next d rest =>
        split at h
        · cases h
        · split at h
          · cases h
          · cases hhigh : memberAt d rest with
            | error fault =>
                rw [hhigh] at h
                cases h
                exact ⟨d :: rest, rfl, memberAt_eq_overflow_iff.1 hhigh⟩
            | ok result =>
                rw [hhigh] at h
                dsimp only at h
                split at h <;> cases h
    · cases h
  · intro h
    obtain ⟨rest, htext, hwrites⟩ := h
    have hhigh := hwrites
    obtain ⟨digits, code, hrest, _⟩ := hwrites
    subst htext hrest
    rw [readRange, if_neg (by decide), if_neg (by decide), memberAt_eq_overflow_iff.2 hhigh]

/-- Neither does a backslash double a set operator. -/
theorem readMember_of_writesOverlarge {isFirst : Bool} {text : List Char}
    (h : WritesOverlarge text) : readMember isFirst text = .error .overflow := by
  have hmember := h
  obtain ⟨digits, code, htext, _⟩ := h
  subst htext
  have hop : ¬ (!isFirst ∧ isSetOperator '\\' ∧ ('U' :: digits).head? = some '\\') := by
    intro h
    cases h.2.1
  rw [readMember, if_neg hop, memberAt_eq_overflow_iff.2 hmember]

theorem readMember_eq_overflow_iff {isFirst : Bool} {text : List Char} :
    readMember isFirst text = .error .overflow ↔
      ∃ place, MemberReaches isFirst text place ∧ WritesOverlarge place := by
  constructor
  · intro h
    cases text with
    | nil => cases h
    | cons c text =>
        rw [readMember] at h
        split at h
        · cases h
        · next hop =>
            split at h
            · next fault hlow =>
                cases h
                exact ⟨c :: text, .start _, memberAt_eq_overflow_iff.1 hlow⟩
            · next low reach hlow =>
                obtain ⟨rest, hdash, hwrites⟩ := readRange_eq_overflow_iff.1 h
                exact ⟨rest, .rangeEnd hop hlow hdash, hwrites⟩
  · intro h
    obtain ⟨place, hplace, hwrites⟩ := h
    cases hplace with
    | start => exact readMember_of_writesOverlarge hwrites
    | rangeEnd hop hlow hdash =>
        rw [readMember, if_neg hop, hlow]
        exact readRange_eq_overflow_iff.2 ⟨place, hdash, hwrites⟩

theorem not_close_iff {seen : List ClassMember} {c : Char} {text : List Char} :
    ¬ (seen.isEmpty = false ∧ (c :: text).head? = some ']') ↔ ¬ (c = ']' ∧ seen ≠ []) := by
  cases seen <;> simp

theorem isEmpty_snoc (seen : List ClassMember) (member : ClassMember) :
    (seen ++ [member]).isEmpty = false := by
  simp

theorem readMembers_eq_overflow_iff {seen : List ClassMember} {text : List Char} :
    readMembers seen text = .error .overflow ↔
      ∃ place, ClassReaches seen.isEmpty text place ∧ WritesOverlarge place := by
  constructor
  · intro h
    fun_induction readMembers seen text with
    | case1 => cases h
    | case2 => cases h
    | case3 seen c text hend fault hmember =>
        cases h
        obtain ⟨place, hplace, hwrites⟩ := readMember_eq_overflow_iff.1 hmember
        exact ⟨place, .inMember (not_close_iff.2 hend) hplace, hwrites⟩
    | case4 seen c text hend member rest hmember hlt ih =>
        obtain ⟨place, hplace, hwrites⟩ := ih h
        rw [isEmpty_snoc] at hplace
        exact ⟨place, .next (not_close_iff.2 hend) hmember hplace, hwrites⟩
  · intro h
    obtain ⟨place, hplace, hwrites⟩ := h
    generalize hfirst : seen.isEmpty = isFirst at hplace
    induction hplace generalizing seen with
    | @inMember isFirst text place hgo hplace =>
        subst hfirst
        have hmember := readMember_eq_overflow_iff.2 ⟨place, hplace, hwrites⟩
        cases text with
        | nil => cases hmember
        | cons c text => exact readMembers_fault (not_close_iff.1 hgo) hmember
    | @next isFirst text rest place member hgo hmember hplace ih =>
        subst hfirst
        cases text with
        | nil => cases hmember
        | cons c text =>
            rw [readMembers_member (not_close_iff.1 hgo) hmember]
            exact ih hwrites (isEmpty_snoc seen member)

/-! ## Steps, groups and items -/

theorem readClass_eq_overflow_iff {text : List Char} :
    readClass text = .error .overflow ↔
      ∃ body, ClassBody ('[' :: text) body ∧ readMembers [] body = .error .overflow := by
  constructor
  · intro h
    by_cases hopen : text.head? = some '['
    · obtain ⟨rest, htext⟩ := List.head?_eq_some_iff.1 hopen
      rw [htext] at h
      cases h
    · by_cases hcaret : text.head? = some '^'
      · obtain ⟨body, htext⟩ := List.head?_eq_some_iff.1 hcaret
        subst htext
        rw [readClass_negated, map_eq_error_iff] at h
        exact ⟨body, .negated body, h⟩
      · rw [readClass_plain hopen hcaret, map_eq_error_iff] at h
        exact ⟨text, .plain hopen hcaret, h⟩
  · intro h
    obtain ⟨body, hbody, h⟩ := h
    cases hbody with
    | plain hopen hcaret =>
        rw [readClass_plain hopen hcaret, h]
        rfl
    | negated =>
        rw [readClass_negated, h]
        rfl

theorem readAtom_eq_overflow_iff {text : List Char} :
    readAtom text = .error .overflow ↔
      ∃ body, ClassBody text body ∧ readMembers [] body = .error .overflow := by
  constructor
  · intro h
    unfold readAtom at h
    split at h
    · cases h
    · exact readClass_eq_overflow_iff.1 h
    · split at h <;> cases h
    · split at h <;> cases h
    · cases h
  · intro h
    obtain ⟨body, hbody, h⟩ := h
    have hclass : ∃ rest, text = '[' :: rest := by
      cases hbody with
      | plain => exact ⟨_, rfl⟩
      | negated => exact ⟨_, rfl⟩
    obtain ⟨rest, htext⟩ := hclass
    subst htext
    rw [readAtom]
    exact readClass_eq_overflow_iff.2 ⟨body, hbody, h⟩

theorem readStep_eq_overflow_iff {text : List Char} :
    readStep text = .error .overflow ↔
      ∃ body place, ClassBody text body ∧ ClassReaches true body place ∧
        WritesOverlarge place := by
  rw [readStep_eq_error_iff, readAtom_eq_overflow_iff]
  constructor
  · intro h
    obtain ⟨body, hbody, h⟩ := h
    obtain ⟨place, hplace, hwrites⟩ := readMembers_eq_overflow_iff.1 h
    exact ⟨body, place, hbody, hplace, hwrites⟩
  · intro h
    obtain ⟨body, place, hbody, hplace, hwrites⟩ := h
    exact ⟨body, hbody, readMembers_eq_overflow_iff.2 ⟨place, hplace, hwrites⟩⟩

/-- Reading what is left of an expression has the fault, be it in the group that is open
or behind it. -/
def Overflows (inGroup : Bool) (text : List Char) : Prop :=
  if inGroup then
    readGroup text = .error .overflow ∨
      ∃ group rest, readGroup text = .ok (group, rest) ∧ readItems rest = .error .overflow
  else readItems text = .error .overflow

theorem overflows_openGroup {text : List Char} :
    Overflows false ('(' :: '?' :: ':' :: text) ↔ Overflows true text := by
  show readItems _ = _ ↔ (readGroup text = _ ∨ _)
  rw [readItems_group, bind_eq_error_iff]
  simp only [map_eq_error_iff, Prod.exists]

theorem overflows_closeGroup {text : List Char} :
    Overflows true (')' :: '?' :: text) ↔ Overflows false text := by
  show (readGroup _ = _ ∨ _) ↔ readItems text = _
  rw [readGroup_close]
  constructor
  · intro h
    rcases h with h | ⟨_, _, hgroup, h⟩
    · cases h
    · cases hgroup
      exact h
  · intro h
    exact .inr ⟨[], text, rfl, h⟩

/-- What has been read without a fault does not matter. -/
theorem overflows_step {inGroup : Bool} {text rest : List Char} {step : RegexStep}
    (h : readStep text = .ok (step, rest)) : Overflows inGroup text ↔ Overflows inGroup rest := by
  cases inGroup with
  | false =>
      show readItems text = _ ↔ readItems rest = _
      rw [readItems_step h, map_eq_error_iff]
  | true =>
      show (readGroup text = _ ∨ _) ↔ (readGroup rest = _ ∨ _)
      rw [readGroup_step h, map_eq_error_iff]
      constructor
      · intro hover
        rcases hover with hover | ⟨group, after, hgroup, hover⟩
        · exact .inl hover
        · obtain ⟨⟨steps, tail⟩, hsteps, heq⟩ := map_eq_ok_iff.1 hgroup
          cases heq
          exact .inr ⟨steps, after, hsteps, hover⟩
      · intro hover
        rcases hover with hover | ⟨group, after, hgroup, hover⟩
        · exact .inl hover
        · exact .inr ⟨step :: group, after, map_eq_ok_iff.2 ⟨_, hgroup, rfl⟩, hover⟩

/-- A step that has the fault gives it to the whole: it is no bracket of a group. -/
theorem overflows_of_readStep {inGroup : Bool} {text : List Char}
    (h : readStep text = .error .overflow) : Overflows inGroup text := by
  cases inGroup with
  | false =>
      refine readItems_fault (fun htext => ?_) (fun tail htext => ?_) h
      · rw [htext] at h
        cases h
      · rw [htext] at h
        cases h
  | true =>
      refine .inl (readGroup_fault (fun tail htext => ?_) h)
      rw [htext] at h
      cases h

/-- Where no step can be read, a group begins or ends, or the fault is the one of that
step. -/
theorem overflows_of_fault {inGroup : Bool} {text : List Char} {fault : RegexFault}
    (hstep : readStep text = .error fault) (h : Overflows inGroup text) :
    fault = .overflow ∨ (∃ rest, inGroup = false ∧ text = '(' :: '?' :: ':' :: rest) ∨
      ∃ rest, inGroup = true ∧ text = ')' :: '?' :: rest := by
  cases inGroup with
  | false =>
      by_cases hgroup : ∃ rest, text = '(' :: '?' :: ':' :: rest
      · obtain ⟨rest, htext⟩ := hgroup
        exact .inr (.inl ⟨rest, rfl, htext⟩)
      · have hend : text ≠ [] := by
          intro htext
          rw [htext] at h
          have hempty : readItems [] = .error .overflow := h
          rw [readItems] at hempty
          cases hempty
        have hfault := readItems_fault hend (fun rest htext => hgroup ⟨rest, htext⟩) hstep
        have hover : readItems text = .error .overflow := h
        rw [hfault] at hover
        cases hover
        exact .inl rfl
  | true =>
      by_cases hclose : ∃ rest, text = ')' :: '?' :: rest
      · obtain ⟨rest, htext⟩ := hclose
        exact .inr (.inr ⟨rest, rfl, htext⟩)
      · have hfault := readGroup_fault (fun rest htext => hclose ⟨rest, htext⟩) hstep
        rcases h with hover | ⟨group, rest, hover, _⟩
        · rw [hfault] at hover
          cases hover
          exact .inl rfl
        · rw [hfault] at hover
          cases hover

/-- The first fault of an expression is such an escape exactly when reading comes to
one. -/
theorem overflows_iff {inGroup : Bool} {text : List Char} :
    Overflows inGroup text ↔ ∃ place, Reaches inGroup text place ∧ WritesOverlarge place := by
  constructor
  · intro h
    induction hlength : text.length using Nat.strongRecOn generalizing inGroup text with
    | _ length ih =>
        subst hlength
        cases hstep : readStep text with
        | ok result =>
            obtain ⟨place, hplace, hwrites⟩ :=
              ih result.2.length (readStep_length hstep) ((overflows_step hstep).1 h) rfl
            exact ⟨place, .step hstep hplace, hwrites⟩
        | error fault =>
            rcases overflows_of_fault hstep h with hfault | ⟨rest, hout, htext⟩ | ⟨rest, hin, htext⟩
            · rw [hfault] at hstep
              obtain ⟨body, place, hbody, hplace, hwrites⟩ := readStep_eq_overflow_iff.1 hstep
              exact ⟨place, .inClass hbody hplace, hwrites⟩
            · subst hout htext
              obtain ⟨place, hplace, hwrites⟩ :=
                ih rest.length (by simp only [List.length_cons]; omega)
                  (overflows_openGroup.1 h) rfl
              exact ⟨place, .openGroup hplace, hwrites⟩
            · subst hin htext
              obtain ⟨place, hplace, hwrites⟩ :=
                ih rest.length (by simp only [List.length_cons]; omega)
                  (overflows_closeGroup.1 h) rfl
              exact ⟨place, .closeGroup hplace, hwrites⟩
  · intro h
    obtain ⟨place, hplace, hwrites⟩ := h
    induction hplace with
    | inClass hbody hplace =>
        exact overflows_of_readStep (readStep_eq_overflow_iff.2 ⟨_, _, hbody, hplace, hwrites⟩)
    | step hstep hplace ih => exact (overflows_step hstep).2 (ih hwrites)
    | openGroup hplace ih => exact overflows_openGroup.2 (ih hwrites)
    | closeGroup hplace ih => exact overflows_closeGroup.2 (ih hwrites)

theorem read_eq_overflow_iff {text : List Char} :
    read text = .error .overflow ↔ ∃ place, Reaches false text place ∧ WritesOverlarge place := by
  rw [read_eq_error_iff, ← overflows_iff]
  rfl

/-! ## Where reading comes to -/

theorem MemberReaches.suffix {isFirst : Bool} {text place : List Char}
    (h : MemberReaches isFirst text place) : place <:+ text := by
  cases h with
  | start => exact List.suffix_refl _
  | @rangeEnd c text rest low reach hop hlow hdash =>
      have hdrop := List.drop_suffix reach text
      rw [hdash] at hdrop
      exact ((List.suffix_cons '-' place).trans hdrop).trans (List.suffix_cons c text)

theorem ClassReaches.suffix {isFirst : Bool} {text place : List Char}
    (h : ClassReaches isFirst text place) : place <:+ text := by
  induction h with
  | inMember _ hplace => exact hplace.suffix
  | next _ hmember _ ih => exact ih.trans (readMember_suffix hmember)

theorem ClassBody.suffix {text body : List Char} (h : ClassBody text body) : body <:+ text := by
  cases h with
  | plain => exact List.suffix_cons '[' body
  | negated => exact (List.suffix_cons '^' body).trans (List.suffix_cons '[' _)

theorem Reaches.suffix {inGroup : Bool} {text place : List Char}
    (h : Reaches inGroup text place) : place <:+ text := by
  induction h with
  | inClass hbody hplace => exact hplace.suffix.trans hbody.suffix
  | step hstep _ ih => exact ih.trans (readStep_suffix hstep)
  | openGroup _ ih => exact ih.trans (List.suffix_append ['(', '?', ':'] _)
  | closeGroup _ ih => exact ih.trans (List.suffix_append [')', '?'] _)

end Regex

/-- Reading the expression of the line comes to an escape for a code point that cannot
be represented, and to no other fault before. -/
def LineOverflows (line : List Char) : Prop :=
  ∃ rule place, Rule.ofLine? line = some rule ∧
    Regex.Reaches false (Glob.anchoredExpression rule.body rule.anchored) place ∧
    WritesOverlarge place

theorem WritesOverlarge.hasLongEscape {text : List Char} (h : WritesOverlarge text) :
    HasLongEscape text := by
  obtain ⟨digits, code, htext, _⟩ := h
  rw [htext]
  exact (List.prefix_append ['\\', 'U'] digits).isInfix

/-- The escape stands in the line itself, for an expression has none of its own. -/
theorem LineOverflows.hasLongEscape {line : List Char} (h : LineOverflows line) :
    HasLongEscape line := by
  obtain ⟨rule, place, hrule, hplace, hwrites⟩ := h
  have hexpression := hwrites.hasLongEscape.mono hplace.suffix.isInfix
  exact (Glob.hasLongEscape_of_anchoredExpression hexpression).mono (Rule.body_isInfix hrule)

/-- A line that is not dropped and gives no pattern either has this fault and no other. -/
theorem Pattern.ofLine?_eq_error_iff {line : List Char} {origin : Option (List Char)}
    {lineNumber : Option Int} {fault : RegexFault} :
    ofLine? line origin lineNumber = .error fault ↔ fault = .overflow ∧ LineOverflows line := by
  have hread : ∀ rule : Rule, Glob.regex rule.body rule.anchored = .error .overflow ↔
      ∃ place, Regex.Reaches false (Glob.anchoredExpression rule.body rule.anchored) place ∧
        WritesOverlarge place :=
    fun rule => Regex.read_eq_overflow_iff
  constructor
  · intro h
    rw [ofLine?] at h
    split at h
    · cases h
    · next rule hrule =>
        split at h
        · cases h
        · next other hother =>
            cases other with
            | invalid => cases h
            | ambiguous => cases h
            | overflow =>
                cases h
                obtain ⟨place, hplace, hwrites⟩ := (hread rule).1 hother
                exact ⟨rfl, rule, place, hrule, hplace, hwrites⟩
  · intro h
    obtain ⟨hfault, rule, place, hrule, hplace, hwrites⟩ := h
    have hother := (hread rule).2 ⟨place, hplace, hwrites⟩
    rw [hfault, ofLine?_of_fault hrule hother]
    rfl

theorem Pattern.exists_ofLine?_iff {line : List Char} {origin : Option (List Char)}
    {lineNumber : Option Int} :
    (∃ pattern?, ofLine? line origin lineNumber = .ok pattern?) ↔ ¬ LineOverflows line := by
  constructor
  · intro h hover
    obtain ⟨pattern?, hpattern⟩ := h
    rw [ofLine?_eq_error_iff.2 ⟨rfl, hover⟩] at hpattern
    cases hpattern
  · intro hover
    cases hpattern : ofLine? line origin lineNumber with
    | ok pattern? => exact ⟨pattern?, rfl⟩
    | error fault => exact absurd (ofLine?_eq_error_iff.1 hpattern).2 hover

namespace RuleSet

theorem patternsFrom_eq_error_iff {number : Nat} {origin : Option (List Char)}
    {lines : List (List Char)} {fault : RegexFault} :
    patternsFrom number origin lines = .error fault ↔
      fault = .overflow ∧ ∃ line ∈ lines, LineOverflows line := by
  induction lines generalizing number with
  | nil =>
      constructor
      · intro h
        cases h
      · intro h
        obtain ⟨_, line, hmem, _⟩ := h
        cases hmem
  | cons line lines ih =>
      rw [patternsFrom, bind_eq_error_iff, Pattern.ofLine?_eq_error_iff]
      constructor
      · intro h
        rcases h with ⟨hfault, hover⟩ | ⟨pattern?, _, h⟩
        · exact ⟨hfault, line, List.mem_cons_self, hover⟩
        · rcases bind_eq_error_iff.1 h with h | ⟨_, _, h⟩
          · obtain ⟨hfault, other, hmem, hover⟩ := ih.1 h
            exact ⟨hfault, other, List.mem_cons_of_mem line hmem, hover⟩
          · cases h
      · intro h
        obtain ⟨hfault, other, hmem, hover⟩ := h
        by_cases hline : LineOverflows line
        · exact .inl ⟨hfault, hline⟩
        · obtain ⟨pattern?, hpattern⟩ := Pattern.exists_ofLine?_iff.2 hline
          have hlater : ∃ line ∈ lines, LineOverflows line := by
            rcases List.mem_cons.1 hmem with heq | hmem
            · rw [heq] at hover
              exact absurd hover hline
            · exact ⟨other, hmem, hover⟩
          exact .inr ⟨pattern?, hpattern, bind_eq_error_iff.2 (.inl (ih.2 ⟨hfault, hlater⟩))⟩

/-- A line gives a pattern or is dropped unless it has the fault, and a list of lines
gives a rule set unless one of them has it. There is no other way to fail, and a line
without a `U` behind a backslash cannot have the fault. -/
theorem exists_ofLines_iff (lines : List (List Char)) (origin : Option (List Char)) :
    (∀ line lineNumber, (∃ pattern?, Pattern.ofLine? line origin lineNumber = .ok pattern?) ↔
      ¬ LineOverflows line) ∧
    ((∃ rules, ofLines lines origin = .ok rules) ↔ ∀ line ∈ lines, ¬ LineOverflows line) ∧
    (∀ fault, ofLines lines origin = .error fault → fault = .overflow) ∧
    ∀ line, LineOverflows line → HasLongEscape line := by
  have hfail : ∀ fault, ofLines lines origin = .error fault ↔
      fault = .overflow ∧ ∃ line ∈ lines, LineOverflows line := by
    intro fault
    rw [ofLines, map_eq_error_iff, patternsFrom_eq_error_iff]
  refine ⟨fun line lineNumber => Pattern.exists_ofLine?_iff, ?_,
    fun fault h => ((hfail fault).1 h).1, fun _ h => h.hasLongEscape⟩
  constructor
  · intro h line hmem hover
    obtain ⟨rules, hrules⟩ := h
    rw [(hfail .overflow).2 ⟨rfl, line, hmem, hover⟩] at hrules
    cases hrules
  · intro hlines
    cases hrules : ofLines lines origin with
    | ok rules => exact ⟨rules, rfl⟩
    | error fault =>
        obtain ⟨_, line, hmem, hover⟩ := (hfail fault).1 hrules
        exact absurd hover (hlines line hmem)

/-- Nothing comes of the lines around such a line. -/
theorem ofLines_overlarge :
    ofLines ["*.log".toList, "[\\U80000000]".toList, "*.tmp".toList] none = .error .overflow := by
  decide +kernel

end RuleSet

end IgnoreRules
