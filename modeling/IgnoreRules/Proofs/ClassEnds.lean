import Mathlib.Data.List.TakeWhile
import IgnoreRules.Proofs.ReaderSteps
import IgnoreRules.Rule

/-!
# Where classes end

The reader finds the end of a class while it reads the members, so what comes behind
the class might seem to have a say in it. It has none: the reader looks ahead past a
member by two characters at most, and past the closing bracket not at all. So whatever
was read up to the bracket is read in front of any other text as well.

One thing is known of that bracket whatever the members are. Every member is read to its
end, and no member ends between a backslash and the character that it escapes; so the
backslashes in front of the bracket are even.
-/

namespace IgnoreRules.Regex

/-! ## Escapes

An escape takes as many characters as its letter says, and an octal one at most three
digits. Only the character behind it can tell that the digits are at their end. -/

theorem hexEscape_front {width code : Nat} {text : List Char}
    (h : hexEscape width text = .ok code) :
    ∃ front rest, text = front ++ rest ∧ front.length = width ∧ '\\' ∉ front ∧ ']' ∉ front ∧
      ∀ other, hexEscape width (front ++ other) = .ok code := by
  have hdigits : ((text.take width).filterMap Numeral.hexDigit?).length = width := by
    by_contra hne
    rw [hexEscape, Numeral.hex?, if_neg hne] at h
    cases h
  have hwidth : (text.take width).length = width := by
    refine Nat.le_antisymm (List.length_take_le width text) ?_
    have hle := List.length_filterMap_le Numeral.hexDigit? (text.take width)
    rwa [hdigits] at hle
  have hall := List.filterMap_length_eq_length.1 (hdigits.trans hwidth.symm)
  refine ⟨text.take width, text.drop width, (List.take_append_drop width text).symm, hwidth,
    fun hmem => absurd (hall _ hmem) (by decide), fun hmem => absurd (hall _ hmem) (by decide),
    fun other => ?_⟩
  rw [← h, hexEscape, hexEscape, Numeral.hex?, Numeral.hex?, List.take_left' hwidth]

/-- The character is an octal digit. -/
def isOctal (c : Char) : Bool :=
  (Numeral.octalDigit? c).isSome

/-- As many octal digits are read as there may be, fewer only if something else comes
behind them. -/
theorem octalDigits_front (width : Nat) (text : List Char) :
    ∃ front rest, text = front ++ rest ∧ (∀ c ∈ front, isOctal c = true) ∧
      ∀ other : List Char, other.head? = rest.head? →
        ((front ++ other).take width).takeWhile isOctal = front := by
  have hrun : ∀ c ∈ text.takeWhile isOctal, isOctal c = true :=
    List.all_eq_true.1 List.all_takeWhile
  have htext : text.takeWhile isOctal ++ text.dropWhile isOctal = text :=
    List.takeWhile_append_dropWhile
  rcases Nat.lt_or_ge (text.takeWhile isOctal).length width with hshort | hlong
  · refine ⟨_, _, htext.symm, hrun, fun other hhead => ?_⟩
    have hstop : other.takeWhile isOctal = [] := by
      have hnot := List.head?_dropWhile_not isOctal text
      rw [← hhead] at hnot
      cases other with
      | nil => rfl
      | cons c other => rw [List.takeWhile_cons, if_neg (by simpa using hnot)]
    rw [← List.take_takeWhile, List.takeWhile_append_of_pos hrun, hstop, List.append_nil,
      List.take_of_length_le (Nat.le_of_lt hshort)]
  · have hwidth : ((text.takeWhile isOctal).take width).length = width :=
      List.length_take_of_le hlong
    refine ⟨(text.takeWhile isOctal).take width,
      (text.takeWhile isOctal).drop width ++ text.dropWhile isOctal, ?_,
      fun c hmem => hrun c (List.mem_of_mem_take hmem), fun other _ => ?_⟩
    · rw [← List.append_assoc, List.take_append_drop, htext]
    · rw [List.take_left' hwidth, List.takeWhile_eq_self_iff]
      exact fun c hmem => hrun c (List.mem_of_mem_take hmem)

theorem octalEscape_cons {c : Char} (hc : isOctal c = true) (text : List Char) :
    octalEscape (c :: text) =
      let values := (c :: (text.take 2).takeWhile isOctal).filterMap Numeral.octalDigit?
      if Numeral.ofDigits 8 values ≤ 255 then .ok (Numeral.ofDigits 8 values, values.length)
      else .error .invalid := by
  have htake : ((c :: text).take 3).takeWhile isOctal = c :: (text.take 2).takeWhile isOctal := by
    rw [List.take_succ_cons, List.takeWhile_cons, if_pos hc]
  rw [← htake]
  rfl

theorem octalEscape_front {c : Char} {text : List Char} {code span : Nat}
    (hc : isOctal c = true) (h : octalEscape (c :: text) = .ok (code, span)) :
    ∃ front rest, text = front ++ rest ∧ front.length + 1 = span ∧ '\\' ∉ front ∧ ']' ∉ front ∧
      ∀ other : List Char, other.head? = rest.head? →
        octalEscape (c :: (front ++ other)) = .ok (code, span) := by
  obtain ⟨front, rest, rfl, hall, hfront⟩ := octalDigits_front 2 text
  refine ⟨front, rest, rfl, ?_, fun hmem => absurd (hall _ hmem) (by decide),
    fun hmem => absurd (hall _ hmem) (by decide), fun other hhead => ?_⟩
  · rw [octalEscape_cons hc, hfront rest rfl] at h
    have hdigits : ∀ d ∈ c :: front, (Numeral.octalDigit? d).isSome = true :=
      List.forall_mem_cons.2 ⟨hc, hall⟩
    dsimp only at h
    split at h
    · cases h
      exact (List.filterMap_length_eq_length.2 hdigits).symm
    · cases h
  · rw [← h, octalEscape_cons hc, octalEscape_cons hc, hfront other hhead, hfront rest rfl]

theorem takeWhile_bne {name rest : List Char} {c : Char} (h : c ∉ name) :
    (name ++ c :: rest).takeWhile (· != c) = name := by
  have hname : ∀ d ∈ name, (d != c) = true := fun d hmem => bne_iff_ne.2 fun hd => h (hd ▸ hmem)
  rw [List.takeWhile_append_of_pos hname, List.takeWhile_cons, if_neg (by simp), List.append_nil]

theorem namedEscape_front {text : List Char} {code span : Nat}
    (h : namedEscape text = .ok (code, span)) :
    ∃ front rest, text = front ++ rest ∧ front.length = span ∧ escapesNext front = false ∧
      ']' ∉ front ∧ ∀ other, namedEscape (front ++ other) = .ok (code, span) := by
  unfold namedEscape at h
  split at h
  · next text =>
      dsimp only at h
      split at h
      · cases h
      · next hlength =>
          have hmem : '\x7d' ∈ text := by
            by_contra hnone
            refine hlength (congrArg List.length (List.takeWhile_eq_self_iff.2 fun c hc => ?_))
            exact bne_iff_ne.2 fun heq => hnone (heq ▸ hc)
          obtain ⟨name, rest, rfl, hname⟩ := List.eq_append_cons_of_mem hmem
          rw [takeWhile_bne hname] at h
          refine ⟨'\x7b' :: (name ++ ['\x7d']), rest, by simp, ?_, ?_, ?_, fun other => ?_⟩
          · split at h
            · cases h
              simp
            · cases h
          · rw [← List.cons_append, escapesNext_concat]
            rfl
          · -- A name has no brackets.
            split at h
            · next hnamed =>
                intro hclose
                have hmemName : ']' ∈ name := by simpa using hclose
                exact absurd (Unicode.isNameCharacter_of_mem hnamed hmemName) (by decide)
            · cases h
          · have hother : '\x7b' :: (name ++ ['\x7d']) ++ other =
                '\x7b' :: (name ++ '\x7d' :: other) := by simp
            have hlong : ¬ name.length = (name ++ '\x7d' :: other).length := by simp
            simp only [hother, namedEscape, takeWhile_bne hname, if_neg hlong]
            exact h
  · cases h

/-- The escape is read off the front of the text, and off any text that goes on with the
same character. It does not end in a backslash that would escape more, and has no bracket
but the one that it may escape. -/
def TakesEscape (text : List Char) (member : ClassMember) (span : Nat) : Prop :=
  ∃ front rest, text = front ++ rest ∧ front.length = span ∧
    escapesNext ('\\' :: front) = false ∧ ']' ∉ front.tail ∧
    ∀ other : List Char, other.head? = rest.head? →
      escapeAt (front ++ other) = .ok (member, span)

theorem takesEscape_letter {c : Char} {text : List Char} {member : ClassMember}
    (h : ∀ other, escapeAt (c :: other) = .ok (member, 1)) :
    TakesEscape (c :: text) member 1 :=
  ⟨[c], text, rfl, rfl, escapesNext_escaped c [], List.not_mem_nil, fun other _ => h other⟩

theorem takesEscape_digits {c : Char} {text : List Char} {member : ClassMember}
    {width code : Nat} (hcode : hexEscape width text = .ok code)
    (h : ∀ digits, hexEscape width digits = .ok code →
      escapeAt (c :: digits) = .ok (member, width + 1)) :
    TakesEscape (c :: text) member (width + 1) := by
  obtain ⟨front, rest, rfl, hwidth, hescape, hclose, hfront⟩ := hexEscape_front hcode
  refine ⟨c :: front, rest, rfl, congrArg Nat.succ hwidth, ?_, hclose, fun other _ => ?_⟩
  · rw [escapesNext_escaped, escapesNext_of_not_mem hescape]
  · exact h _ (hfront other)

/-- A character that is no letter of an escape begins an octal one, or it is escaped itself. -/
theorem takesEscape_other {c : Char} {text : List Char} {member : ClassMember} {span : Nat}
    (hother : ∀ other, escapeAt (c :: other) =
      if (Numeral.octalDigit? c).isSome then do
        let (code, span) ← octalEscape (c :: other)
        return (.code code, span)
      else if c.isAlphanum then .error .invalid
      else .ok (.code c.toNat, 1))
    (h : escapeAt (c :: text) = .ok (member, span)) : TakesEscape (c :: text) member span := by
  rw [hother] at h
  split at h
  · next hoctal =>
      obtain ⟨⟨code, reach⟩, hcode, h⟩ := bind_eq_ok_iff.1 h
      cases h
      obtain ⟨front, rest, rfl, hreach, hescape, hclose, hfront⟩ := octalEscape_front hoctal hcode
      refine ⟨c :: front, rest, rfl, hreach, ?_, hclose, fun other hhead => ?_⟩
      · rw [escapesNext_escaped, escapesNext_of_not_mem hescape]
      · rw [List.cons_append, hother, if_pos hoctal]
        exact bind_eq_ok_iff.2 ⟨(code, span), hfront other hhead, rfl⟩
  · next hoctal =>
      split at h
      · cases h
      · next hletter =>
          cases h
          refine takesEscape_letter fun other => ?_
          rw [hother, if_neg hoctal, if_neg hletter]

theorem takesEscape_of_escapeAt {text : List Char} {member : ClassMember} {span : Nat}
    (h : escapeAt text = .ok (member, span)) : TakesEscape text member span := by
  have hread := h
  unfold escapeAt at h
  split at h
  case h_1 => cases h
  case h_15 digits =>
    obtain ⟨code, hcode, h⟩ := bind_eq_ok_iff.1 h
    cases h
    exact takesEscape_digits hcode fun _ hdigits => bind_eq_ok_iff.2 ⟨code, hdigits, rfl⟩
  case h_16 digits =>
    obtain ⟨code, hcode, h⟩ := bind_eq_ok_iff.1 h
    cases h
    exact takesEscape_digits hcode fun _ hdigits => bind_eq_ok_iff.2 ⟨code, hdigits, rfl⟩
  case h_17 digits =>
    obtain ⟨code, hcode, h⟩ := bind_eq_ok_iff.1 h
    split at h
    · next hlimit =>
        cases h
        refine takesEscape_digits hcode fun _ hdigits => bind_eq_ok_iff.2 ⟨code, hdigits, ?_⟩
        rw [if_pos hlimit]
        rfl
    · split at h <;> cases h
  case h_18 name =>
    obtain ⟨⟨code, reach⟩, hcode, h⟩ := bind_eq_ok_iff.1 h
    cases h
    obtain ⟨front, rest, rfl, hreach, hescape, hclose, hfront⟩ := namedEscape_front hcode
    refine ⟨'N' :: front, rest, rfl, congrArg Nat.succ hreach, ?_, hclose, fun other _ => ?_⟩
    · rw [escapesNext_escaped, hescape]
    · exact bind_eq_ok_iff.2 ⟨(code, reach), hfront other, rfl⟩
  case h_19 => exact takesEscape_other (fun other => by rw [escapeAt] <;> assumption) hread
  all_goals
    cases h
    exact takesEscape_letter fun _ => rfl

/-! ## Members -/

theorem memberAt_front {c : Char} {text : List Char} {member : ClassMember} {span : Nat}
    (h : memberAt c text = .ok (member, span)) :
    ∃ front rest, text = front ++ rest ∧ front.length = span ∧
      escapesNext (c :: front) = false ∧ (front = [] ∨ c = '\\' ∧ ']' ∉ front.tail) ∧
      ∀ other : List Char, other.head? = rest.head? →
        memberAt c (front ++ other) = .ok (member, span) := by
  rw [memberAt] at h
  split at h
  · next hc =>
      subst hc
      obtain ⟨front, rest, htext, hspan, hescape, hclose, hfront⟩ := takesEscape_of_escapeAt h
      refine ⟨front, rest, htext, hspan, hescape, .inr ⟨rfl, hclose⟩, fun other hhead => ?_⟩
      rw [memberAt, if_pos rfl, hfront other hhead]
  · next hc =>
      cases h
      refine ⟨[], text, rfl, rfl, escapesNext_cons hc [], .inl rfl, fun other _ => ?_⟩
      rw [memberAt, if_neg hc]

theorem head?_append_congr (front : List Char) {text other : List Char}
    (h : other.head? = text.head?) : (front ++ other).head? = (front ++ text).head? := by
  rw [List.head?_append, List.head?_append, h]

theorem head?_append_close_congr (ahead rest other : List Char) :
    (ahead ++ ']' :: other).head? = (ahead ++ ']' :: rest).head? :=
  head?_append_congr ahead rfl

/-- What is left behind a member goes on to a bracket, and the text behind that does not
count. -/
theorem readRange_front {low member : ClassMember} {text ahead rest : List Char}
    (h : readRange low text = .ok (member, ahead ++ ']' :: rest)) :
    ∃ front, text = front ++ (ahead ++ ']' :: rest) ∧ escapesNext front = false ∧
      ∀ other, readRange low (front ++ (ahead ++ ']' :: other)) =
        .ok (member, ahead ++ ']' :: other) := by
  by_cases hdash : text.head? = some '-'
  · obtain ⟨text, rfl⟩ := List.head?_eq_some_iff.1 hdash
    by_cases hclose : text.head? = some ']'
    · rw [readRange_dash_close hclose] at h
      cases ahead with
      | nil => cases h
      | cons c ahead =>
          cases h
          refine ⟨[], rfl, rfl, fun other => readRange_dash_close ?_⟩
          rw [← hclose]
          exact head?_append_close_congr ahead rest other
    · cases text with
      | nil =>
          have hmem : ']' ∈ ahead ++ ']' :: rest := by simp
          rw [← (Prod.mk.inj (Except.ok.inj h)).2] at hmem
          exact absurd hmem (by decide)
      | cons d text =>
          have hd : d ≠ ']' := fun heq => hclose (congrArg some heq)
          obtain ⟨high, span, hd', hhigh, hrange, hrest⟩ := readRange_pair hd h
          obtain ⟨front, behind, rfl, hspan, hescape, _, hfront⟩ := memberAt_front hhigh
          rw [List.drop_left' hspan] at hrest
          subst hrest
          refine ⟨'-' :: d :: front, rfl, ?_, fun other => ?_⟩
          · rw [escapesNext_cons (by decide), hescape]
          · rw [List.cons_append, List.cons_append, readRange, if_neg hd, if_neg hd',
              hfront _ (head?_append_close_congr ahead rest other)]
            simp only [hrange, List.drop_left' hspan]
  · rw [readRange_of_head_ne hdash] at h
    cases h
    refine ⟨[], rfl, rfl, fun other => readRange_of_head_ne ?_⟩
    rw [List.nil_append, head?_append_close_congr ahead rest other]
    exact hdash

theorem readMember_front {isFirst : Bool} {member : ClassMember} {text ahead rest : List Char}
    (h : readMember isFirst text = .ok (member, ahead ++ ']' :: rest)) :
    ∃ front, text = front ++ (ahead ++ ']' :: rest) ∧ front ≠ [] ∧ escapesNext front = false ∧
      ∀ other, readMember isFirst (front ++ (ahead ++ ']' :: other)) =
        .ok (member, ahead ++ ']' :: other) := by
  cases text with
  | nil => cases h
  | cons c text =>
      rw [readMember] at h
      split at h
      · cases h
      · next hop =>
          split at h
          · cases h
          · next low reach hlow =>
              obtain ⟨lower, behind, rfl, hreach, hlower, _, hreadLower⟩ := memberAt_front hlow
              rw [List.drop_left' hreach] at h
              obtain ⟨upper, rfl, hupper, hreadUpper⟩ := readRange_front h
              refine ⟨c :: lower ++ upper, by simp, List.cons_ne_nil _ _, ?_, fun other => ?_⟩
              · rw [escapesNext_append hlower, hupper]
              · have hbehind := head?_append_congr upper (head?_append_close_congr ahead rest other)
                have hhead := head?_append_congr lower hbehind
                rw [← hhead] at hop
                rw [List.append_assoc, List.cons_append, readMember, if_neg hop,
                  hreadLower _ hbehind]
                simp only [List.drop_left' hreach]
                exact hreadUpper other

/-! ## Classes -/

/-- The members of a class are read up to a bracket that no backslash escapes, and it does
not matter what stands behind it. -/
theorem readMembers_front {seen members : List ClassMember} {text rest : List Char}
    (h : readMembers seen text = .ok (members, rest)) :
    ∃ front, text = front ++ ']' :: rest ∧ escapesNext front = false ∧
      ∀ other, readMembers seen (front ++ ']' :: other) = .ok (members, other) := by
  fun_induction readMembers seen text generalizing members rest with
  | case1 => cases h
  | case2 seen c text hclose =>
      cases h
      obtain ⟨rfl, hseen⟩ := hclose
      exact ⟨[], rfl, rfl, fun other => readMembers_close hseen⟩
  | case3 => cases h
  | case4 seen c text hgo member after hmember hlt ih =>
      -- What is left behind the member goes on to the bracket that ends the class.
      obtain ⟨ahead, rfl, hahead, hreadAhead⟩ := ih h
      obtain ⟨front, htext, hne, hfront, hreadFront⟩ := readMember_front hmember
      refine ⟨front ++ ahead, ?_, ?_, fun other => ?_⟩
      · rw [htext, List.append_assoc]
      · rw [escapesNext_append hfront, hahead]
      · obtain ⟨d, more, rfl⟩ := List.exists_cons_of_ne_nil hne
        cases htext
        have hread := hreadFront other
        rw [List.cons_append] at hread
        rw [List.append_assoc, List.cons_append, readMembers_member hgo hread, hreadAhead]

theorem readClass_front {text rest : List Char} {cls : CharClass}
    (h : readClass text = .ok (cls, rest)) :
    ∃ front, text = front ++ ']' :: rest ∧ escapesNext front = false ∧
      ∀ other, readClass (front ++ ']' :: other) = .ok (cls, other) := by
  by_cases hopen : text.head? = some '['
  · obtain ⟨after, htext⟩ := List.head?_eq_some_iff.1 hopen
    rw [htext] at h
    cases h
  · by_cases hcaret : text.head? = some '^'
    · obtain ⟨body, htext⟩ := List.head?_eq_some_iff.1 hcaret
      subst htext
      rw [readClass_negated] at h
      obtain ⟨⟨members, after⟩, hmembers, heq⟩ := map_eq_ok_iff.1 h
      cases heq
      obtain ⟨front, rfl, hfront, hread⟩ := readMembers_front hmembers
      refine ⟨'^' :: front, rfl, ?_, fun other => ?_⟩
      · rw [escapesNext_cons (by decide), hfront]
      · rw [List.cons_append, readClass_negated, hread]
        rfl
    · rw [readClass_plain hopen hcaret] at h
      obtain ⟨⟨members, after⟩, hmembers, heq⟩ := map_eq_ok_iff.1 h
      cases heq
      obtain ⟨front, rfl, hfront, hread⟩ := readMembers_front hmembers
      refine ⟨front, rfl, hfront, fun other => ?_⟩
      rw [← head?_append_close_congr front rest other] at hopen hcaret
      rw [readClass_plain hopen hcaret, hread]
      rfl

end IgnoreRules.Regex
