import Mathlib.Data.List.Basic
import IgnoreRules.Proofs.ClassEnds
import IgnoreRules.Proofs.Translation

/-!
# Runs of tokens

A class hands its content on as it is written, and the reader may take the bracket that
ends the token for a member: it does behind a backslash, or where the content is no more
than a `^`. Then the class runs on over the tokens behind it. A body is not read token by
token, but run by run.

What saves the tokens is that a class never ends within one. The bracket that ends it is
not escaped, and in the text of a token there is only one such bracket: it stands at the
end, or a `*` behind it repeats the class. So every run is made up of whole tokens, and
since it does not matter to a class what stands behind it, each run is read alone as it
is in its place. A token that reads alone is a run of its own.
-/

namespace IgnoreRules.Glob

/-! ## Brackets -/

/-- The text of a token does not end in the middle of an escape. -/
theorem escapesNext_quote (c : Char) : escapesNext (quote c) = false := by
  unfold quote
  split
  · exact escapesNext_escaped c []
  · next hspecial =>
      refine escapesNext_cons (fun hc => hspecial ?_) []
      rw [hc]
      decide

theorem Token.escapesNext_expression (token : Token) : escapesNext token.expression = false := by
  cases token with
  | literal c => exact escapesNext_quote c
  | escaped c => exact escapesNext_quote c
  | charClass content negated =>
      rw [expression, ← List.cons_append, escapesNext_concat]
      rfl
  | _ => decide

/-- A quoted bracket is escaped. -/
theorem quote_ne_close {c : Char} {front rest : List Char} (hfront : escapesNext front = false) :
    quote c ≠ front ++ ']' :: rest := by
  intro h
  have hc : c = ']' := by
    have hmem : ']' ∈ quote c := by
      rw [h]
      simp
    unfold quote at hmem
    split at hmem
    · simpa [eq_comm] using hmem
    · simpa [eq_comm] using hmem
  have hquote : quote ']' = ['\\'] ++ ']' :: [] := by decide
  rw [hc, hquote, List.append_cons_inj_of_notMem (by decide) (by decide)] at h
  rw [← h.1] at hfront
  exact absurd hfront (by decide)

/-- In the text of a token a bracket that is not escaped stands at the end, or in front of
the `*` of a star. -/
theorem Token.expression_close {token : Token} {front rest : List Char}
    (hwf : token.IsWellFormed) (hfront : escapesNext front = false)
    (h : token.expression = front ++ ']' :: rest) :
    rest = [] ∨ token = .star ∧ rest = ['*'] := by
  have hmem : ']' ∈ token.expression := by
    rw [h]
    simp
  cases token with
  | literal c => exact absurd h (quote_ne_close hfront)
  | escaped c => exact absurd h (quote_ne_close hfront)
  | star =>
      have hstar : star.expression = "[^/".toList ++ ']' :: ['*'] := rfl
      rw [hstar, List.append_cons_inj_of_notMem (by decide) (by decide)] at h
      exact .inr ⟨rfl, h.2.2.symm⟩
  | doubleStar => exact absurd hmem (by decide)
  | doubleStarSlash => exact absurd hmem (by decide)
  | question =>
      have hquestion : question.expression = "[^/".toList ++ ']' :: [] := rfl
      rw [hquestion, List.append_cons_inj_of_notMem (by decide) (by decide)] at h
      exact .inl h.2.2.symm
  | charClass content negated =>
      have hopen : ']' ∉ '[' :: ((if negated then ['^'] else []) ++ content) := by
        obtain ⟨_, hclose⟩ := hwf
        cases negated <;> simpa using hclose
      rw [expression, ← List.cons_append, List.append_cons_inj_of_notMem hopen (by decide)] at h
      exact .inl h.2.2.symm

/-- So a bracket that is not escaped parts the tokens: those up to it, but for the `*` of a
star at most, and those behind it. -/
theorem expression_close {units : List Token} {front rest : List Char}
    (hwf : ∀ token ∈ units, token.IsWellFormed) (hfront : escapesNext front = false)
    (h : units.flatMap Token.expression = front ++ ']' :: rest) :
    ∃ run others tail, units = run ++ others ∧ (tail = [] ∨ .star ∈ run ∧ tail = ['*']) ∧
      run.flatMap Token.expression = front ++ ']' :: tail ∧
      rest = tail ++ others.flatMap Token.expression := by
  induction units generalizing front with
  | nil => exact absurd h (by simp)
  | cons token units ih =>
      obtain ⟨hself, hwf⟩ := List.forall_mem_cons.1 hwf
      have hbehind : ∀ more, front = token.expression ++ more →
          units.flatMap Token.expression = more ++ ']' :: rest →
          ∃ run others tail, token :: units = run ++ others ∧
            (tail = [] ∨ .star ∈ run ∧ tail = ['*']) ∧
            run.flatMap Token.expression = front ++ ']' :: tail ∧
            rest = tail ++ others.flatMap Token.expression := by
        intro more hmore hunits
        rw [hmore, escapesNext_append token.escapesNext_expression] at hfront
        obtain ⟨run, others, tail, hsplit, htail, hrun, hrest⟩ := ih hwf hfront hunits
        refine ⟨token :: run, others, tail, ?_, ?_, ?_, hrest⟩
        · rw [hsplit, List.cons_append]
        · exact htail.imp_right (And.imp_left (List.mem_cons_of_mem token))
        · rw [List.flatMap_cons, hrun, hmore, List.append_assoc]
      rw [List.flatMap_cons, List.append_eq_append_iff] at h
      rcases h with ⟨more, hmore, hunits⟩ | ⟨more, hmore, hrest⟩
      · exact hbehind more hmore hunits
      · cases more with
        | nil =>
            rw [List.append_nil] at hmore
            exact hbehind [] (by rw [List.append_nil, hmore]) hrest.symm
        | cons c more =>
            cases hrest
            refine ⟨[token], units, more, rfl, ?_, by rw [List.flatMap_singleton, hmore], rfl⟩
            refine (token.expression_close hself hfront hmore).imp_right (And.imp_left ?_)
            exact fun hstar => List.mem_singleton.2 hstar.symm

/-! ## Runs -/

/-- The tokens are read together, as one item. -/
def ReadsAsOne (run : List Token) (item : RegexItem) : Prop :=
  Regex.read (run.flatMap Token.expression) = .ok ⟨[item]⟩

/-- A class that is read from the text of tokens is read from whole tokens. -/
theorem exists_run_of_class {units : List Token} {text : List Char} {items : List RegexItem}
    (hwf : ∀ token ∈ units, token.IsWellFormed)
    (htext : units.flatMap Token.expression = '[' :: text)
    (h : Regex.readItems ('[' :: text) = .ok items) :
    ∃ run others item more, units = run ++ others ∧ run ≠ [] ∧ ReadsAsOne run item ∧
      Regex.readItems (others.flatMap Token.expression) = .ok more ∧ items = item :: more := by
  obtain ⟨cls, rest, hread, hitems⟩ := Regex.exists_of_readItems_class h
  obtain ⟨front, rfl, hfront, hreadFront⟩ := Regex.readClass_front hread
  have hescape : escapesNext ('[' :: front) = false := by
    rw [escapesNext_cons (by decide), hfront]
  obtain ⟨run, others, tail, hunits, htail, hrun, rfl⟩ := expression_close hwf hescape htext
  have hne : run ≠ [] := by
    intro hnil
    rw [hnil] at hrun
    cases hrun
  -- Behind the bracket stands nothing of the last token, or the `*` of a star.
  rcases htail with rfl | ⟨_, rfl⟩
  · rcases hitems with ⟨_, more, hmore, rfl⟩ | ⟨behind, _, hstar, _⟩
    · refine ⟨run, others, _, more, hunits, hne, ?_, hmore, rfl⟩
      rw [ReadsAsOne, Regex.read_eq_ok_iff, hrun, List.cons_append,
        Regex.readItems_class_one (hreadFront []) nofun, Regex.readItems]
      rfl
    · exact absurd (congrArg List.head? hstar) (expression_head_ne_star others)
  · rcases hitems with ⟨hstar, _⟩ | ⟨behind, more, hbehind, hmore, rfl⟩
    · exact absurd rfl hstar
    · cases hbehind
      refine ⟨run, others, _, more, hunits, hne, ?_, hmore, rfl⟩
      rw [ReadsAsOne, Regex.read_eq_ok_iff, hrun, List.cons_append,
        Regex.readItems_class_many (hreadFront ['*']), Regex.readItems]
      rfl

/-- A token that is no class is read as its item, alone and in front of other tokens. -/
theorem read_of_not_isClass {token : Token} (hclass : ¬ token.IsClass) :
    ∃ item, token.item = .ok item ∧ Regex.read token.expression = .ok ⟨[item]⟩ ∧
      ∀ rest : List Char, rest.head? ≠ some '*' →
        Regex.readItems (token.expression ++ rest) = (Regex.readItems rest).map (item :: ·) := by
  obtain ⟨item, hitem⟩ := exists_readsAs_of_not_isClass hclass
  have hplain : token.IsPlain ∧ token.IsWellFormed := by
    cases token with
    | charClass content negated => exact absurd trivial hclass
    | _ => exact ⟨trivial, trivial⟩
  have hread : ∀ rest : List Char, rest.head? ≠ some '*' →
      Regex.readItems (token.expression ++ rest) = (Regex.readItems rest).map (item :: ·) := by
    intro rest hstar
    rw [readItems_expression hplain.1 hplain.2 hstar, hitem]
    rfl
  refine ⟨item, hitem, ?_, hread⟩
  rw [Regex.read_eq_ok_iff, ← List.append_nil token.expression, hread [] nofun, Regex.readItems]
  rfl

/-- The tokens that the first item is read from make up a run. -/
theorem exists_run {token : Token} {units : List Token} {items : List RegexItem}
    (hwf : ∀ unit ∈ token :: units, unit.IsWellFormed)
    (h : Regex.readItems ((token :: units).flatMap Token.expression) = .ok items) :
    ∃ run others item more, token :: units = run ++ others ∧ run ≠ [] ∧ ReadsAsOne run item ∧
      Regex.readItems (others.flatMap Token.expression) = .ok more ∧ items = item :: more := by
  by_cases hclass : token.IsClass
  · have hopen : ∃ text, (token :: units).flatMap Token.expression = '[' :: text := by
      cases token with
      | charClass content negated => exact ⟨_, rfl⟩
      | _ => exact absurd hclass id
    obtain ⟨text, htext⟩ := hopen
    rw [htext] at h
    exact exists_run_of_class hwf htext h
  · obtain ⟨item, _, halone, hread⟩ := read_of_not_isClass hclass
    rw [List.flatMap_cons, hread _ (expression_head_ne_star units)] at h
    obtain ⟨more, hmore, rfl⟩ := map_eq_ok_iff.1 h
    refine ⟨[token], units, item, more, rfl, List.cons_ne_nil _ _, ?_, hmore, rfl⟩
    rw [ReadsAsOne, List.flatMap_singleton, halone]

/-- A body that reads is made up of runs, one for each item. -/
theorem exists_runs {units : List Token} {items : List RegexItem}
    (hwf : ∀ token ∈ units, token.IsWellFormed)
    (h : Regex.readItems (units.flatMap Token.expression) = .ok items) :
    ∃ runs : List (List Token), runs.flatten = units ∧ List.Forall₂ ReadsAsOne runs items := by
  induction hlength : units.length using Nat.strongRecOn generalizing units items with
  | _ n ih =>
      subst hlength
      cases units with
      | nil =>
          rw [List.flatMap_nil, Regex.readItems] at h
          cases h
          exact ⟨[], rfl, .nil⟩
      | cons token units =>
          obtain ⟨run, others, item, more, hunits, hne, hrun, hothers, rfl⟩ := exists_run hwf h
          have hshorter : others.length < (token :: units).length := by
            rw [hunits, List.length_append]
            exact Nat.lt_add_of_pos_left (List.length_pos_of_ne_nil hne)
          have hwf' : ∀ unit ∈ others, unit.IsWellFormed := by
            intro unit hmem
            refine hwf unit ?_
            rw [hunits]
            exact List.mem_append_right run hmem
          obtain ⟨runs, hflatten, hreads⟩ := ih _ hshorter hwf' hothers rfl
          exact ⟨run :: runs, by rw [List.flatten_cons, hflatten, hunits], .cons hrun hreads⟩

/-! ## Tokens that read alone -/

/-- A token that reads alone reads as one item, and in front of other tokens as the same. -/
theorem readItems_of_reads {token : Token} {alone : Regex} (hwf : token.IsWellFormed)
    (h : Regex.read token.expression = .ok alone) :
    ∃ item, alone = ⟨[item]⟩ ∧ ∀ rest : List Char, rest.head? ≠ some '*' →
      Regex.readItems (token.expression ++ rest) = (Regex.readItems rest).map (item :: ·) := by
  by_cases hclass : token.IsClass
  · cases token with
    | charClass content negated =>
        have hopen : ']' ∉ (if negated then ['^'] else []) ++ content := by
          obtain ⟨_, hclose⟩ := hwf
          cases negated <;> simpa using hclose
        obtain ⟨cls, rest, hread, hitems⟩ :=
          Regex.exists_of_readItems_class (Regex.read_eq_ok_iff.1 h)
        obtain ⟨front, htext, _, hreadFront⟩ := Regex.readClass_front hread
        rw [List.append_cons_inj_of_notMem hopen (by decide)] at htext
        obtain ⟨rfl, -, rfl⟩ := htext
        rcases hitems with ⟨_, others, hothers, hitems⟩ | ⟨behind, _, hstar, _⟩
        · rw [Regex.readItems] at hothers
          cases hothers
          refine ⟨.step (.one cls), ?_, fun rest hstar => ?_⟩
          · cases alone
            exact congrArg Regex.mk hitems
          · rw [← Regex.readItems_class_one (hreadFront rest) hstar, Token.expression,
              List.cons_append, List.append_assoc, List.singleton_append]
        · cases hstar
    | _ => exact absurd hclass id
  · obtain ⟨item, _, hself, hread⟩ := read_of_not_isClass hclass
    rw [hself] at h
    cases h
    exact ⟨item, rfl, hread⟩

/-- A run that starts with a token that reads alone has no other. -/
theorem eq_nil_of_readsAsOne {token : Token} {more : List Token} {item : RegexItem}
    {alone : Regex} (hwf : ∀ unit ∈ token :: more, unit.IsWellFormed)
    (halone : Regex.read token.expression = .ok alone) (h : ReadsAsOne (token :: more) item) :
    more = [] := by
  obtain ⟨hself, hmore⟩ := List.forall_mem_cons.1 hwf
  obtain ⟨_, _, hread⟩ := readItems_of_reads hself halone
  rw [ReadsAsOne, Regex.read_eq_ok_iff, List.flatMap_cons,
    hread _ (expression_head_ne_star more)] at h
  obtain ⟨others, hothers, hitems⟩ := map_eq_ok_iff.1 h
  cases hitems
  obtain ⟨runs, hflatten, hruns⟩ := exists_runs hmore hothers
  cases hruns
  exact hflatten.symm

theorem exists_cons_of_readsAsOne {run : List Token} {item : RegexItem}
    (h : ReadsAsOne run item) : ∃ token more, run = token :: more := by
  cases run with
  | nil =>
      rw [ReadsAsOne, Regex.read_eq_ok_iff, List.flatMap_nil, Regex.readItems] at h
      cases h
  | cons token more => exact ⟨token, more, rfl⟩

/-- Where every token reads alone, the runs are the tokens. -/
theorem runs_eq_tokens {runs : List (List Token)} {items : List RegexItem}
    (hwf : ∀ token ∈ runs.flatten, token.IsWellFormed)
    (halone : ∀ token ∈ runs.flatten, ∃ alone, Regex.read token.expression = .ok alone)
    (h : List.Forall₂ ReadsAsOne runs items) : runs = runs.flatten.map fun token => [token] := by
  induction h with
  | nil => rfl
  | @cons run item runs items hrun _ ih =>
      obtain ⟨token, more, rfl⟩ := exists_cons_of_readsAsOne hrun
      rw [List.flatten_cons] at hwf halone
      obtain ⟨hwfRun, hwfRuns⟩ := List.forall_mem_append.1 hwf
      obtain ⟨haloneRun, haloneRuns⟩ := List.forall_mem_append.1 halone
      obtain ⟨alone, hself⟩ := haloneRun token List.mem_cons_self
      cases eq_nil_of_readsAsOne hwfRun hself hrun
      rw [List.flatten_cons, List.singleton_append, List.map_cons, ← ih hwfRuns haloneRuns]

/-! ## What runs take -/

/-- The pieces that the run accounts for. -/
def RunTakes (run : List Token) (piece : List Char) : Prop :=
  ∃ item, ReadsAsOne run item ∧ item.Takes piece

/-- A run that starts with no class is one token, and it takes what the token takes. -/
theorem runTakes_of_not_isClass {token : Token} {more : List Token} {piece : List Char}
    (hclass : ¬ token.IsClass) (hwf : ∀ unit ∈ token :: more, unit.IsWellFormed)
    (h : RunTakes (token :: more) piece) : more = [] ∧ token.Takes piece := by
  obtain ⟨item, hrun, htakes⟩ := h
  obtain ⟨own, hitem, halone, _⟩ := read_of_not_isClass hclass
  have hmore := eq_nil_of_readsAsOne hwf halone hrun
  subst hmore
  rw [ReadsAsOne, List.flatMap_singleton, halone] at hrun
  cases hrun
  exact ⟨rfl, (takes_iff hitem piece).2 htakes⟩

/-- A text is matched if it can be cut into pieces that the runs take. -/
theorem fullMatch_iff_cut_runs {regex : Regex} {runs : List (List Token)}
    (h : List.Forall₂ ReadsAsOne runs regex.items) (path : List Char) :
    regex.fullMatch path = true ↔ Cut RunTakes runs path := by
  rw [Regex.fullMatch_iff, Regex.Matches]
  refine (cut_congr (R := ReadsAsOne) (fun run item hrun piece => ?_) h).symm
  constructor
  · intro h
    obtain ⟨other, hother, htakes⟩ := h
    rw [ReadsAsOne, hrun] at hother
    cases hother
    exact htakes
  · intro h
    exact ⟨item, hrun, h⟩

end IgnoreRules.Glob
