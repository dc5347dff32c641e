import IgnoreRules.Proofs.TokenRuns

/-!
# Which tokens match a separator

Without a double star, a body should keep to the segments that it writes: a path that it
matches has a `/` just where the body has one. Stars and question marks are translated to
that end. The content of a class is passed on as it is, and nothing keeps a class from
holding a `/`: a negated one does unless the content lists it, and so does a range across
it. Such a class crosses from one segment into the next.

The count is made run by run. A run that is a `/` accounts for one separator, one that
crosses for any it likes, and every other for none. So there are never fewer separators
than runs that write one, and if a path matches at all, there is one in which every
crossing run has taken another.
-/

namespace IgnoreRules.Glob

/-- The token is a `/` that stands for itself. -/
def Token.isSeparator : Token → Bool
  | .literal c => c = '/'
  | .escaped c => c = '/'
  | _ => false

/-- The run is a single separator. -/
def isSeparatorRun : List Token → Bool
  | [token] => token.isSeparator
  | _ => false

/-- The run starts with a class and, read alone, matches a separator. -/
def crosses : List Token → Bool
  | .charClass content negated :: more =>
      match Regex.read ((.charClass content negated :: more).flatMap Token.expression) with
      | .ok alone => alone.fullMatch ['/']
      | .error _ => false
  | _ => false

/-! ## One run -/

/-- A class takes single characters, or any number if a star repeats it. -/
theorem not_mem_of_readsAsOne_class {content : List Char} {negated : Bool} {more : List Token}
    {item : RegexItem} {piece : List Char}
    (hrun : ReadsAsOne (.charClass content negated :: more) item)
    (hself : ¬ item.Takes ['/']) (h : item.Takes piece) : '/' ∉ piece := by
  rw [ReadsAsOne, Regex.read_eq_ok_iff] at hrun
  obtain ⟨cls, rest, _, hitems⟩ := Regex.exists_of_readItems_class hrun
  intro hmem
  rcases hitems with ⟨_, _, _, hitem⟩ | ⟨_, _, _, _, hitem⟩
  · cases hitem
    obtain ⟨c, rfl, hc⟩ := h
    cases List.mem_singleton.1 hmem
    exact hself ⟨'/', rfl, hc⟩
  · cases hitem
    refine hself fun c hc => ?_
    rw [List.mem_singleton.1 hc]
    exact h '/' hmem

theorem crosses_iff {content : List Char} {negated : Bool} {more : List Token}
    {item : RegexItem} (hrun : ReadsAsOne (.charClass content negated :: more) item) :
    crosses (.charClass content negated :: more) = true ↔ item.Takes ['/'] := by
  rw [ReadsAsOne] at hrun
  rw [← Regex.fullMatch_singleton, crosses, hrun]

theorem runTakes_of_crosses {run : List Token} {item : RegexItem} (hrun : ReadsAsOne run item)
    (h : crosses run = true) : RunTakes run ['/'] := by
  obtain ⟨token, more, rfl⟩ := exists_cons_of_readsAsOne hrun
  cases token with
  | charClass content negated => exact ⟨item, hrun, (crosses_iff hrun).1 h⟩
  | _ => cases h

theorem not_crosses_of_isSeparatorRun {run : List Token} (h : isSeparatorRun run = true) :
    crosses run = false := by
  unfold isSeparatorRun at h
  split at h
  · next token =>
      cases token with
      | charClass content negated => cases h
      | _ => rfl
  · cases h

/-- A run has no double star, and its classes are those of a body. -/
def StaysInside (run : List Token) : Prop :=
  ∀ unit ∈ run, unit.IsWellFormed ∧ unit ≠ .doubleStar ∧ unit ≠ .doubleStarSlash

/-- A run that does not cross takes a separator just if it is one. -/
theorem count_of_runTakes {run : List Token} {piece : List Char} (hrun : StaysInside run)
    (hcross : crosses run = false) (h : RunTakes run piece) :
    piece.count '/' = if isSeparatorRun run then 1 else 0 := by
  obtain ⟨item, hitem, htakes⟩ := h
  obtain ⟨token, more, rfl⟩ := exists_cons_of_readsAsOne hitem
  by_cases hclass : token.IsClass
  · cases token with
    | charClass content negated =>
        have hself : ¬ item.Takes ['/'] := by
          rw [← crosses_iff hitem, hcross]
          exact Bool.false_ne_true
        have hsep : isSeparatorRun (.charClass content negated :: more) = false := by
          cases more <;> rfl
        rw [hsep, if_neg Bool.false_ne_true,
          List.count_eq_zero.2 (not_mem_of_readsAsOne_class hitem hself htakes)]
    | _ => exact absurd hclass id
  · obtain ⟨rfl, htakes⟩ :=
      runTakes_of_not_isClass hclass (fun unit hmem => (hrun unit hmem).1) ⟨item, hitem, htakes⟩
    obtain ⟨_, hstar, hslash⟩ := hrun token List.mem_cons_self
    cases token with
    | literal c | escaped c =>
        rw [htakes, List.count_singleton]
        rfl
    | star => exact List.count_eq_zero.2 htakes
    | doubleStar => exact absurd rfl hstar
    | doubleStarSlash => exact absurd rfl hslash
    | question =>
        obtain ⟨c, rfl, hc⟩ := htakes
        rw [List.count_singleton, beq_eq_false_iff_ne.2 hc]
        rfl
    | charClass content negated => exact absurd trivial hclass

/-! ## All runs -/

theorem separators_le_count {runs : List (List Token)} {path : List Char}
    (hruns : ∀ run ∈ runs, StaysInside run) (h : Cut RunTakes runs path) :
    runs.countP isSeparatorRun ≤ path.count '/' := by
  induction h with
  | nil => exact Nat.le_refl 0
  | @cons run runs piece rest hrun _ ih =>
      obtain ⟨hself, hruns⟩ := List.forall_mem_cons.1 hruns
      rw [List.countP_cons, List.count_append, Nat.add_comm]
      refine Nat.add_le_add ?_ (ih hruns)
      cases hsep : isSeparatorRun run with
      | false => exact Nat.zero_le _
      | true =>
          rw [count_of_runTakes hself (not_crosses_of_isSeparatorRun hsep) hrun, hsep]

theorem count_eq_separators {runs : List (List Token)} {path : List Char}
    (hruns : ∀ run ∈ runs, StaysInside run) (hcross : ∀ run ∈ runs, crosses run = false)
    (h : Cut RunTakes runs path) : path.count '/' = runs.countP isSeparatorRun := by
  induction h with
  | nil => rfl
  | @cons run runs piece rest hrun _ ih =>
      obtain ⟨hself, hruns⟩ := List.forall_mem_cons.1 hruns
      obtain ⟨hselfCross, hcross⟩ := List.forall_mem_cons.1 hcross
      rw [List.countP_cons, List.count_append, Nat.add_comm, ih hruns hcross,
        count_of_runTakes hself hselfCross hrun]

/-- If there is a path at all, there is one in which all runs cross that can. -/
theorem exists_count_eq {runs : List (List Token)} {path : List Char}
    (hruns : ∀ run ∈ runs, StaysInside run) (h : Cut RunTakes runs path) :
    ∃ other, Cut RunTakes runs other ∧
      other.count '/' = runs.countP isSeparatorRun + runs.countP crosses := by
  induction h with
  | nil => exact ⟨[], .nil, rfl⟩
  | @cons run runs piece rest hrun _ ih =>
      obtain ⟨hself, hruns⟩ := List.forall_mem_cons.1 hruns
      obtain ⟨other, hother, hcount⟩ := ih hruns
      rw [List.countP_cons, List.countP_cons]
      cases hcross : crosses run with
      | false =>
          refine ⟨piece ++ other, .cons hrun hother, ?_⟩
          rw [List.count_append, hcount, count_of_runTakes hself hcross hrun]
          simp only [Bool.false_eq_true, if_false]
          omega
      | true =>
          -- The piece gives way to a lone separator, which the run takes as well.
          obtain ⟨item, hitem, _⟩ := hrun
          have hsep : isSeparatorRun run = false := by
            refine Bool.eq_false_iff.2 fun hsep => ?_
            rw [not_crosses_of_isSeparatorRun hsep] at hcross
            cases hcross
          refine ⟨['/'] ++ other, .cons (runTakes_of_crosses hitem hcross) hother, ?_⟩
          rw [List.count_append, hcount, hsep, List.count_singleton_self]
          simp only [Bool.false_eq_true, if_true, if_false]
          omega

/-! ## Bodies -/

section

variable {regex : Regex} {runs : List (List Token)}
  (hreads : List.Forall₂ ReadsAsOne runs regex.items) (hruns : ∀ run ∈ runs, StaysInside run)

include hreads hruns

theorem separators_le {path : List Char} (h : regex.fullMatch path = true) :
    runs.countP isSeparatorRun ≤ path.count '/' :=
  separators_le_count hruns ((fullMatch_iff_cut_runs hreads path).1 h)

/-- The separators of a path are those that are written, unless a run crosses. -/
theorem forall_count_eq_iff :
    (∀ path, regex.fullMatch path = true → path.count '/' = runs.countP isSeparatorRun) ↔
      (∀ path, regex.fullMatch path = false) ∨ ∀ run ∈ runs, crosses run = false := by
  constructor
  · intro h
    by_cases hnone : ∀ path, regex.fullMatch path = false
    · exact .inl hnone
    · refine .inr ?_
      obtain ⟨path, hpath⟩ := not_forall.1 hnone
      rw [Bool.not_eq_false, fullMatch_iff_cut_runs hreads] at hpath
      obtain ⟨other, hother, hcount⟩ := exists_count_eq hruns hpath
      rw [h other ((fullMatch_iff_cut_runs hreads other).2 hother), Nat.left_eq_add,
        List.countP_eq_zero] at hcount
      exact fun run hmem => Bool.eq_false_iff.2 (hcount run hmem)
  · intro h path hpath
    rcases h with hnone | hcross
    · rw [hnone path] at hpath
      cases hpath
    · exact count_eq_separators hruns hcross ((fullMatch_iff_cut_runs hreads path).1 hpath)

end

/-- A body has no double stars, and all its classes end at their own brackets. Then a path
that it matches has just the separators that the body writes, unless a class holds the
separator. In general a class may run on over other tokens; then it is the runs that count,
and no path has fewer separators than there are runs that write one. -/
theorem count_separators {body : List Char} {regex : Regex}
    (hstar : Token.doubleStar ∉ tokens body) (hslash : Token.doubleStarSlash ∉ tokens body)
    (h : Glob.regex body true = .ok regex) :
    ((∀ token ∈ tokens body, token.IsClass →
        ∃ alone, Regex.read token.expression = .ok alone) →
      ((∀ path, regex.fullMatch path = true →
          path.count '/' = (tokens body).countP Token.isSeparator) ↔
        (∀ path, regex.fullMatch path = false) ∨
          ∀ token ∈ tokens body, crosses [token] = false)) ∧
    ∃ runs : List (List Token), runs.flatten = tokens body ∧
      List.Forall₂ ReadsAsOne runs regex.items ∧
      (∀ path, regex.fullMatch path = true →
        runs.countP isSeparatorRun ≤ path.count '/') ∧
      ((∀ path, regex.fullMatch path = true →
          path.count '/' = runs.countP isSeparatorRun) ↔
        (∀ path, regex.fullMatch path = false) ∨ ∀ run ∈ runs, crosses run = false) := by
  have hwf : ∀ token ∈ tokens body, token.IsWellFormed := fun _ => isWellFormed_of_mem_tokens
  rw [Glob.regex, Regex.read_eq_ok_iff] at h
  obtain ⟨runs, hflatten, hreads⟩ := exists_runs hwf h
  have hruns : ∀ run ∈ runs, StaysInside run := by
    intro run hrun unit hmem
    have hunit : unit ∈ tokens body := by
      rw [← hflatten]
      exact List.mem_flatten_of_mem hrun hmem
    exact ⟨hwf unit hunit, fun heq => hstar (heq ▸ hunit), fun heq => hslash (heq ▸ hunit)⟩
  refine ⟨fun halone => ?_, runs, hflatten, hreads, fun path => separators_le hreads hruns,
    forall_count_eq_iff hreads hruns⟩
  have hall : ∀ token ∈ tokens body, ∃ alone, Regex.read token.expression = .ok alone := by
    intro token hmem
    by_cases hclass : token.IsClass
    · exact halone token hmem hclass
    · obtain ⟨item, _, hread, _⟩ := read_of_not_isClass hclass
      exact ⟨_, hread⟩
  rw [← hflatten] at hwf hall
  have heq := runs_eq_tokens hwf hall hreads
  have hiff := forall_count_eq_iff hreads hruns
  rw [heq, hflatten, List.countP_map, List.forall_mem_map] at hiff
  exact hiff

/-- The separator is listed, so the negated class leaves it out. -/
theorem count_separators_of_listed :
    Token.doubleStar ∉ tokens "a/[!/b]*".toList ∧
      Token.doubleStarSlash ∉ tokens "a/[!/b]*".toList ∧
      ∃ regex, Glob.regex "a/[!/b]*".toList true = .ok regex ∧
        ∀ path, regex.fullMatch path = true → path.count '/' = 1 := by
  have htokens : tokens "a/[!/b]*".toList =
      [.literal 'a', .literal '/', .charClass ['/', 'b'] true, .star] := by cbv
  have hstar : Token.doubleStar ∉ tokens "a/[!/b]*".toList := by
    rw [htokens]
    decide
  have hslash : Token.doubleStarSlash ∉ tokens "a/[!/b]*".toList := by
    rw [htokens]
    decide
  have hregex : Glob.regex "a/[!/b]*".toList true =
      .ok ⟨[.step (.one (.single 'a')), .step (.one (.single '/')),
        .step (.one ⟨true, [.code 47, .code 98]⟩), .step (.many inSegment)]⟩ := by
    decide +kernel
  obtain ⟨hexact, _⟩ := count_separators hstar hslash hregex
  rw [htokens] at hexact
  have hclass : Regex.read (Token.charClass ['/', 'b'] true).expression =
      .ok ⟨[.step (.one ⟨true, [.code 47, .code 98]⟩)]⟩ := by
    decide +kernel
  refine ⟨hstar, hslash, _, hregex, (hexact fun token hmem htoken => ?_).2 (.inr ?_)⟩
  · simp only [List.mem_cons, List.not_mem_nil, or_false] at hmem
    rcases hmem with rfl | rfl | rfl | rfl
    · exact absurd htoken id
    · exact absurd htoken id
    · exact ⟨_, hclass⟩
    · exact absurd htoken id
  · decide +kernel

/-- The negated class takes the separator that the body does not write. -/
theorem class_crosses_separator :
    Token.doubleStar ∉ tokens "a[!b]c".toList ∧
      Token.doubleStarSlash ∉ tokens "a[!b]c".toList ∧
      (tokens "a[!b]c".toList).countP Token.isSeparator = 0 ∧
      ∃ regex, Glob.regex "a[!b]c".toList true = .ok regex ∧
        regex.fullMatch "a/c".toList = true ∧ "a/c".toList.count '/' = 1 := by
  have htokens : tokens "a[!b]c".toList =
      [.literal 'a', .charClass ['b'] true, .literal 'c'] := by cbv
  have hregex : Glob.regex "a[!b]c".toList true =
      .ok ⟨[.step (.one (.single 'a')), .step (.one ⟨true, [.code 98]⟩),
        .step (.one (.single 'c'))]⟩ := by
    decide +kernel
  rw [htokens]
  exact ⟨by decide, by decide, by decide, _, hregex, by decide, by decide⟩

end IgnoreRules.Glob
