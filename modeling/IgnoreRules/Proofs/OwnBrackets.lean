import IgnoreRules.Proofs.TokenRuns

/-!
# Which classes end at their own bracket

A literal, a question mark and a class stand for one character each, so a body of such
tokens should match paths with as many characters as it has tokens. It does as long as
every class ends at its own bracket. Two kinds of contents do not let it: behind an odd run
of backslashes the bracket is escaped, and behind a lone `^` it is the first member. Then
the class runs on over the tokens behind it, and they are lost as tokens.

There are no other kinds. Members are read one after the other, and as long as the content
lasts each of them ends inside it: what is left of the content goes on to the same bracket,
and it is as even in backslashes as before. So the reader comes to the bracket with nothing
left in front of it, and takes it for the end.
-/

namespace IgnoreRules.Regex

/-! ## Members in front of the bracket -/

/-- A bracket behind the content is the first one, and it is not escaped. -/
structure ClosesBehind (content : List Char) : Prop where
  not_mem : ']' ∉ content
  even : escapesNext content = false

theorem ClosesBehind.of_cons {c : Char} {content : List Char} (h : ClosesBehind (c :: content))
    (hc : c ≠ '\\') : ClosesBehind content where
  not_mem := List.not_mem_of_not_mem_cons h.not_mem
  even := by rw [← h.even, escapesNext_cons hc]

/-- What is left to read is the end of the content with its bracket. -/
def StaysInside (content rest left : List Char) : Prop :=
  ∃ front more, content = front ++ more ∧ left = more ++ ']' :: rest ∧ ClosesBehind more

theorem StaysInside.of_append (before : List Char) {content rest left : List Char}
    (h : StaysInside content rest left) : StaysInside (before ++ content) rest left := by
  obtain ⟨front, more, hcontent, hleft, hmore⟩ := h
  exact ⟨before ++ front, more, by rw [hcontent, List.append_assoc], hleft, hmore⟩

/-- Text without a bracket is taken off the content. -/
theorem exists_of_append_close {content rest front behind : List Char} (hfront : ']' ∉ front)
    (h : content ++ ']' :: rest = front ++ behind) :
    ∃ more, content = front ++ more ∧ behind = more ++ ']' :: rest := by
  rcases List.append_eq_append_iff.1 h with ⟨more, hlong, hclose⟩ | ⟨more, hcontent, hbehind⟩
  · cases more with
    | nil =>
        rw [List.append_nil] at hlong
        exact ⟨[], by rw [hlong, List.append_nil], hclose.symm⟩
    | cons c more =>
        have hc : ']' = c := (List.cons.inj hclose).1
        rw [hlong, ← hc] at hfront
        exact absurd (by simp) hfront
  · exact ⟨more, hcontent, hbehind⟩

variable {content rest left : List Char} {member : ClassMember}

theorem memberAt_inside {c : Char} {span : Nat} (h : ClosesBehind (c :: content))
    (hread : memberAt c (content ++ ']' :: rest) = .ok (member, span)) :
    StaysInside content rest ((content ++ ']' :: rest).drop span) := by
  obtain ⟨front, behind, htext, hspan, hescape, hfront, _⟩ := memberAt_front hread
  have hsplit : ∃ more, content = front ++ more ∧ behind = more ++ ']' :: rest := by
    rcases hfront with rfl | ⟨rfl, hclose⟩
    · exact exists_of_append_close List.not_mem_nil htext
    · cases front with
      | nil => exact exists_of_append_close List.not_mem_nil htext
      | cons d front =>
          cases content with
          | nil =>
              -- A backslash right before the bracket would escape it.
              exact absurd h.even (by decide)
          | cons e content =>
              obtain ⟨rfl, hrest⟩ := List.cons.inj htext
              have hfront : ']' ∉ front := hclose
              obtain ⟨more, hcontent, hbehind⟩ := exists_of_append_close hfront hrest
              exact ⟨more, by rw [hcontent, List.cons_append], hbehind⟩
  obtain ⟨more, rfl, hbehind⟩ := hsplit
  have heven := h.even
  rw [← List.cons_append, escapesNext_append hescape] at heven
  have hmore : ']' ∉ more := fun hmem => h.not_mem (by simp [hmem])
  rw [htext, List.drop_left' hspan]
  exact ⟨front, more, rfl, hbehind, hmore, heven⟩

theorem readRange_inside {low : ClassMember} (h : ClosesBehind content)
    (hread : readRange low (content ++ ']' :: rest) = .ok (member, left)) :
    StaysInside content rest left := by
  by_cases hdash : content.head? = some '-'
  · obtain ⟨content, rfl⟩ := List.head?_eq_some_iff.1 hdash
    have hbehind := h.of_cons (by decide)
    cases content with
    | nil =>
        have hclose : readRange low ('-' :: ']' :: rest) = .ok (low, '-' :: ']' :: rest) :=
          readRange_dash_close rfl
        rw [List.cons_append, List.nil_append, hclose] at hread
        cases hread
        exact ⟨[], ['-'], rfl, rfl, h⟩
    | cons d content =>
        have hd : d ≠ ']' := fun heq => hbehind.not_mem (heq ▸ List.mem_cons_self)
        obtain ⟨high, span, _, hhigh, _, hleft⟩ := readRange_pair hd hread
        rw [hleft]
        exact (memberAt_inside hbehind hhigh).of_append ['-', d]
  · have hhead : (content ++ ']' :: rest).head? ≠ some '-' :=
      mt (head?_append_close (by decide)).1 hdash
    rw [readRange_of_head_ne hhead] at hread
    cases hread
    exact ⟨[], content, rfl, rfl, h⟩

theorem readMember_inside {isFirst : Bool} (h : ClosesBehind content) (hne : content ≠ [])
    (hread : readMember isFirst (content ++ ']' :: rest) = .ok (member, left)) :
    StaysInside content rest left := by
  obtain ⟨c, content, rfl⟩ := List.exists_cons_of_ne_nil hne
  rw [List.cons_append, readMember] at hread
  split at hread
  · cases hread
  · split at hread
    · cases hread
    · next low reach hlow =>
        obtain ⟨front, more, hcontent, hmiddle, hmore⟩ := memberAt_inside h hlow
        rw [hmiddle] at hread
        rw [hcontent, ← List.cons_append]
        exact (readRange_inside hmore hread).of_append (c :: front)

/-! ## The end of the class -/

/-- The members are read up to the bracket behind the content. -/
theorem readMembers_inside {seen members : List ClassMember} (h : ClosesBehind content)
    (hfirst : seen = [] → content ≠ [])
    (hread : readMembers seen (content ++ ']' :: rest) = .ok (members, left)) : left = rest := by
  generalize htext : content ++ ']' :: rest = text at hread
  fun_induction readMembers seen text generalizing content with
  | case1 => exact absurd htext (by simp)
  | case2 seen c text hclose =>
      cases hread
      cases content with
      | nil => exact (List.cons.inj htext).2.symm
      | cons d content =>
          have hd : d = ']' := (List.cons.inj htext).1.trans hclose.1
          exact absurd (hd ▸ List.mem_cons_self) h.not_mem
  | case3 => cases hread
  | case4 seen c text hgo member middle hmember _ ih =>
      have hne : content ≠ [] := by
        intro hnil
        have hc : c = ']' := by
          rw [hnil, List.nil_append] at htext
          exact (List.cons.inj htext).1.symm
        have hseen : seen = [] := by
          by_contra hseen
          exact hgo ⟨hc, hseen⟩
        exact hfirst hseen hnil
      rw [← htext] at hmember
      obtain ⟨_, more, _, hmiddle, hmore⟩ := readMember_inside h hne hmember
      exact ih hmore (fun hseen => absurd hseen (by simp)) hmiddle.symm hread

/-- A class ends at the bracket behind its content, unless the content is a lone `^`. -/
theorem readClass_inside {negated : Bool} {cls : CharClass} (h : ClosesBehind content)
    (hne : content ≠ []) (hcaret : negated = false → content ≠ ['^'])
    (hread : readClass ((if negated then ['^'] else []) ++ content ++ ']' :: rest) =
      .ok (cls, left)) : left = rest := by
  have hmembers : ∀ {body : List Char} {flag : Bool}, ClosesBehind body → body ≠ [] →
      ((readMembers [] (body ++ ']' :: rest)).map fun read =>
        (CharClass.mk flag read.1, read.2)) = .ok (cls, left) → left = rest := by
    intro body flag hbody hsome hmap
    obtain ⟨⟨members, after⟩, hmembers, heq⟩ := map_eq_ok_iff.1 hmap
    cases heq
    exact readMembers_inside hbody (fun _ => hsome) hmembers
  cases negated with
  | true =>
      rw [if_pos rfl, List.singleton_append, List.cons_append, readClass_negated] at hread
      exact hmembers h hne hread
  | false =>
      rw [if_neg Bool.false_ne_true, List.nil_append] at hread
      by_cases hopen : content.head? = some '['
      · obtain ⟨after, rfl⟩ := List.head?_eq_some_iff.1 hopen
        cases hread
      · by_cases hneg : content.head? = some '^'
        · obtain ⟨body, rfl⟩ := List.head?_eq_some_iff.1 hneg
          have hbody : body ≠ [] := fun hnil => hcaret rfl (by rw [hnil])
          rw [List.cons_append, readClass_negated] at hread
          exact hmembers (h.of_cons (by decide)) hbody hread
        · rw [readClass_plain (mt (head?_append_close (by decide)).1 hopen)
            (mt (head?_append_close (by decide)).1 hneg)] at hread
          exact hmembers h hne hread

end IgnoreRules.Regex

namespace IgnoreRules.Glob

/-! ## Runs of several tokens -/

/-- The class does not end at its own bracket: the content escapes the bracket, or makes it
a member. -/
def Token.RunsOn : Token → Prop
  | .charClass content negated =>
      negated = false ∧ content = ['^'] ∨ trailingBackslashes content % 2 = 1
  | _ => False

instance : DecidablePred Token.RunsOn
  | .charClass content negated => inferInstanceAs (Decidable
      (negated = false ∧ content = ['^'] ∨ trailingBackslashes content % 2 = 1))
  | .literal _ | .escaped _ | .star | .doubleStar | .doubleStarSlash | .question =>
      inferInstanceAs (Decidable False)

theorem escapesNext_mark (negated : Bool) :
    escapesNext (if negated then ['^'] else []) = false := by
  cases negated <;> rfl

theorem not_readsAsOne_of_runsOn {token : Token} {item : RegexItem} (hwf : token.IsWellFormed)
    (hruns : token.RunsOn) : ¬ ReadsAsOne [token] item := by
  intro h
  rw [ReadsAsOne, List.flatMap_singleton] at h
  cases token with
  | charClass content negated =>
      rcases hruns with ⟨rfl, rfl⟩ | hodd
      · have hlone : Regex.read (Token.charClass ['^'] false).expression = .error .invalid := by
          decide +kernel
        rw [hlone] at h
        cases h
      · have hopen : ']' ∉ (if negated then ['^'] else []) ++ content := by
          obtain ⟨_, hclose⟩ := hwf
          cases negated <;> simpa using hclose
        obtain ⟨cls, rest, hread, _⟩ :=
          Regex.exists_of_readItems_class (Regex.read_eq_ok_iff.1 h)
        obtain ⟨front, htext, hfront, _⟩ := Regex.readClass_front hread
        rw [List.append_cons_inj_of_notMem hopen (by decide)] at htext
        rw [← htext.1, escapesNext_append (escapesNext_mark negated),
          escapesNext_eq_false_iff] at hfront
        omega
  | _ => exact hruns

/-- A class that does not run on reads alone if it reads in front of other tokens. -/
theorem exists_alone_of_not_runsOn {token : Token} {more : List Token} {item : RegexItem}
    (hwf : token.IsWellFormed) (hruns : ¬ token.RunsOn) (h : ReadsAsOne (token :: more) item) :
    ∃ alone, Regex.read token.expression = .ok alone := by
  by_cases hclass : token.IsClass
  · cases token with
    | charClass content negated =>
        obtain ⟨hne, hclose⟩ := hwf
        have heven : escapesNext content = false := by
          rw [escapesNext_eq_false_iff]
          have hodd : ¬ trailingBackslashes content % 2 = 1 := fun hodd => hruns (.inr hodd)
          omega
        have hcaret : negated = false → content ≠ ['^'] :=
          fun hnegated hcontent => hruns (.inl ⟨hnegated, hcontent⟩)
        have htext : (Token.charClass content negated :: more).flatMap Token.expression =
            '[' :: ((if negated then ['^'] else []) ++ content ++
              ']' :: more.flatMap Token.expression) := by
          rw [List.flatMap_cons, Token.expression, List.cons_append, List.append_assoc,
            List.singleton_append]
        rw [ReadsAsOne, Regex.read_eq_ok_iff, htext] at h
        obtain ⟨cls, rest, hread, _⟩ := Regex.exists_of_readItems_class h
        have hrest := Regex.readClass_inside ⟨hclose, heven⟩ hne hcaret hread
        obtain ⟨front, hfront, _, hreadFront⟩ := Regex.readClass_front hread
        rw [hrest, List.append_left_inj] at hfront
        rw [← hfront] at hreadFront
        refine ⟨⟨[.step (.one cls)]⟩, ?_⟩
        rw [Regex.read_eq_ok_iff, Token.expression,
          Regex.readItems_class_one (hreadFront []) (by decide), Regex.readItems]
        rfl
    | _ => exact absurd hclass id
  · obtain ⟨own, _, halone, _⟩ := read_of_not_isClass hclass
    exact ⟨_, halone⟩

/-- The run is a single token, or its first token runs on over the others. -/
def IsRun (run : List Token) : Prop :=
  (∃ token, run = [token] ∧ ¬ token.RunsOn) ∨
    ∃ token more, run = token :: more ∧ more ≠ [] ∧ token.RunsOn

theorem isRun_of_readsAsOne {run : List Token} {item : RegexItem}
    (hwf : ∀ unit ∈ run, unit.IsWellFormed) (h : ReadsAsOne run item) : IsRun run := by
  obtain ⟨token, more, rfl⟩ := exists_cons_of_readsAsOne h
  have hself := hwf token List.mem_cons_self
  by_cases hruns : token.RunsOn
  · refine .inr ⟨token, more, rfl, fun hnil => ?_, hruns⟩
    rw [hnil] at h
    exact not_readsAsOne_of_runsOn hself hruns h
  · obtain ⟨alone, halone⟩ := exists_alone_of_not_runsOn hself hruns h
    have hnil := eq_nil_of_readsAsOne hwf halone h
    exact .inl ⟨token, by rw [hnil], hruns⟩

theorem forall_isRun {runs : List (List Token)} {items : List RegexItem}
    (hwf : ∀ token ∈ runs.flatten, token.IsWellFormed) (h : List.Forall₂ ReadsAsOne runs items) :
    ∀ run ∈ runs, IsRun run := by
  induction h with
  | nil => exact List.forall_mem_nil _
  | cons hrun _ ih =>
      obtain ⟨hself, hwf⟩ := List.forall_mem_append.1 hwf
      exact List.forall_mem_cons.2 ⟨isRun_of_readsAsOne hself hrun, ih hwf⟩

/-- There are fewer runs than tokens as soon as one token runs on. -/
theorem length_le_flatten {runs : List (List Token)} (h : ∀ run ∈ runs, IsRun run) :
    runs.length ≤ runs.flatten.length ∧
      (runs.length = runs.flatten.length ↔ ∀ token ∈ runs.flatten, ¬ token.RunsOn) := by
  induction runs with
  | nil => simp
  | cons run runs ih =>
      obtain ⟨hrun, hruns⟩ := List.forall_mem_cons.1 h
      obtain ⟨hle, heq⟩ := ih hruns
      rcases hrun with ⟨token, rfl, htoken⟩ | ⟨token, more, rfl, hmore, htoken⟩
      · rw [List.flatten_cons, List.singleton_append, List.length_cons, List.length_cons,
          List.forall_mem_cons, Nat.add_right_cancel_iff, heq]
        exact ⟨Nat.succ_le_succ hle, fun h => ⟨htoken, h⟩, And.right⟩
      · have hpos := List.length_pos_of_ne_nil hmore
        rw [List.flatten_cons, List.cons_append, List.length_cons, List.length_cons,
          List.length_append]
        refine ⟨by omega, fun h => by omega, fun h => ?_⟩
        exact absurd htoken (h token List.mem_cons_self)

/-! ## One character each -/

/-- The token is meant for a single character. -/
def Token.IsSingle : Token → Prop
  | .star | .doubleStar | .doubleStarSlash => False
  | _ => True

instance : DecidablePred Token.IsSingle
  | .star | .doubleStar | .doubleStarSlash => inferInstanceAs (Decidable False)
  | .literal _ | .escaped _ | .question | .charClass _ _ => inferInstanceAs (Decidable True)

/-- Without a star in the run nothing repeats a class, even one that runs on. -/
theorem exists_one_of_readsAsOne {run : List Token} {item : RegexItem}
    (hrun : ∀ unit ∈ run, unit.IsWellFormed ∧ unit.IsSingle) (h : ReadsAsOne run item) :
    ∃ cls, item = .step (.one cls) := by
  have hwf : ∀ unit ∈ run, unit.IsWellFormed := fun unit hmem => (hrun unit hmem).1
  obtain ⟨token, more, rfl⟩ := exists_cons_of_readsAsOne h
  by_cases hclass : token.IsClass
  · cases token with
    | charClass content negated =>
        have hread := h
        rw [ReadsAsOne, Regex.read_eq_ok_iff] at hread
        obtain ⟨cls, rest, hclassRead, hitems⟩ := Regex.exists_of_readItems_class hread
        rcases hitems with ⟨_, _, _, hitem⟩ | ⟨behind, _, hstar, _⟩
        · cases hitem
          exact ⟨cls, rfl⟩
        · obtain ⟨front, htext, hfront, _⟩ := Regex.readClass_front hclassRead
          have hescape : escapesNext ('[' :: front) = false := by
            rw [escapesNext_cons (by decide), hfront]
          obtain ⟨upto, others, tail, hsplit, htail, _, hrest⟩ :=
            expression_close hwf hescape (congrArg ('[' :: ·) htext)
          rcases htail with rfl | ⟨hmem, _⟩
          · rw [hstar, List.nil_append] at hrest
            exact absurd (congrArg List.head? hrest.symm) (expression_head_ne_star others)
          · rw [hsplit] at hrun
            exact absurd (hrun .star (List.mem_append_left others hmem)).2 id
    | _ => exact absurd hclass id
  · obtain ⟨own, hitem, halone, _⟩ := read_of_not_isClass hclass
    have hnil := eq_nil_of_readsAsOne hwf halone h
    rw [hnil, ReadsAsOne, List.flatMap_singleton, halone] at h
    cases h
    obtain ⟨_, hsingle⟩ := hrun token List.mem_cons_self
    cases token with
    | literal c | escaped c | question =>
        cases hitem
        exact ⟨_, rfl⟩
    | charClass content negated => exact absurd trivial hclass
    | star | doubleStar | doubleStarSlash => exact absurd hsingle id

theorem length_of_cut_runs {runs : List (List Token)} {path : List Char}
    (hruns : ∀ run ∈ runs, ∀ unit ∈ run, unit.IsWellFormed ∧ unit.IsSingle)
    (h : Cut RunTakes runs path) : path.length = runs.length := by
  induction h with
  | nil => rfl
  | @cons run runs piece rest htakes _ ih =>
      obtain ⟨hself, hruns⟩ := List.forall_mem_cons.1 hruns
      obtain ⟨item, hitem, hpiece⟩ := htakes
      obtain ⟨cls, rfl⟩ := exists_one_of_readsAsOne hself hitem
      obtain ⟨c, rfl, _⟩ := hpiece
      rw [List.singleton_append, List.length_cons, List.length_cons, ih hruns]

/-- A body without stars matches paths with one character for each of its tokens if no class
of it runs on, and else shorter ones only: the tokens that a class runs over are read as
members of the class, and there is one character for all of them. -/
theorem length_of_fullMatch {body : List Char} {regex : Regex}
    (hsingle : ∀ token ∈ tokens body, token.IsSingle) (h : Glob.regex body true = .ok regex) :
    (∀ path, regex.fullMatch path = true → path.length ≤ (tokens body).length ∧
      (path.length = (tokens body).length ↔ ∀ token ∈ tokens body, ¬ token.RunsOn)) ∧
    ∃ runs : List (List Token), runs.flatten = tokens body ∧
      List.Forall₂ ReadsAsOne runs regex.items ∧
      (∀ path, regex.fullMatch path = true → path.length = runs.length) ∧
      ∀ run ∈ runs, IsRun run := by
  have hwf : ∀ token ∈ tokens body, token.IsWellFormed := fun _ => isWellFormed_of_mem_tokens
  rw [Glob.regex, Regex.read_eq_ok_iff] at h
  obtain ⟨runs, hflatten, hreads⟩ := exists_runs hwf h
  rw [← hflatten] at hwf hsingle ⊢
  have hruns : ∀ run ∈ runs, ∀ unit ∈ run, unit.IsWellFormed ∧ unit.IsSingle := by
    intro run hrun unit hmem
    have hunit : unit ∈ runs.flatten := List.mem_flatten_of_mem hrun hmem
    exact ⟨hwf unit hunit, hsingle unit hunit⟩
  have hlength : ∀ path, regex.fullMatch path = true → path.length = runs.length := by
    intro path hpath
    exact length_of_cut_runs hruns ((fullMatch_iff_cut_runs hreads path).1 hpath)
  have hisRun := forall_isRun hwf hreads
  refine ⟨fun path hpath => ?_, runs, rfl, hreads, hlength, hisRun⟩
  rw [hlength path hpath]
  exact length_le_flatten hisRun

/-- The negated class lists a backslash and a `^`, and neither keeps it from its bracket. -/
theorem length_of_fullMatch_of_listed :
    (∀ token ∈ tokens "x[!^\\\\]?".toList, token.IsSingle) ∧
      ∃ regex, Glob.regex "x[!^\\\\]?".toList true = .ok regex ∧
        ∀ path, regex.fullMatch path = true → path.length = 3 := by
  have htokens : tokens "x[!^\\\\]?".toList =
      [.literal 'x', .charClass ['^', '\\', '\\'] true, .question] := by cbv
  have hregex : Glob.regex "x[!^\\\\]?".toList true =
      .ok ⟨[.step (.one (.single 'x')), .step (.one ⟨true, [.code 94, .code 92]⟩),
        .step (.one inSegment)]⟩ := by
    decide +kernel
  have hsingle : ∀ token ∈ tokens "x[!^\\\\]?".toList, token.IsSingle := by
    rw [htokens]
    decide
  have hends : ∀ token ∈ tokens "x[!^\\\\]?".toList, ¬ token.RunsOn := by
    rw [htokens]
    decide
  obtain ⟨hexact, _⟩ := length_of_fullMatch hsingle hregex
  refine ⟨hsingle, _, hregex, fun path hpath => ?_⟩
  rw [(hexact path hpath).2.2 hends, htokens]
  rfl

/-- The content ends in a backslash, and so the question mark behind the class is a member of
it, or what is left of one: the path has a character less than the body has tokens. -/
theorem class_swallows_question :
    tokens "[a\\]?".toList = [.charClass ['a', '\\'] false, .question] ∧
      (∀ token ∈ tokens "[a\\]?".toList, token.IsSingle) ∧
      ∃ regex, Glob.regex "[a\\]?".toList true = .ok regex ∧
        regex.fullMatch "a".toList = true ∧
        "a".toList.length ≠ (tokens "[a\\]?".toList).length := by
  have htokens : tokens "[a\\]?".toList = [.charClass ['a', '\\'] false, .question] := by cbv
  have hregex : Glob.regex "[a\\]?".toList true =
      .ok ⟨[.step (.one ⟨false, [.code 97, .code 93, .code 91, .code 94, .code 47]⟩)]⟩ := by
    decide +kernel
  refine ⟨htokens, ?_, _, hregex, by decide, ?_⟩
  · rw [htokens]
    decide
  · rw [htokens]
    decide

end IgnoreRules.Glob
