import Mathlib.Data.List.DropRight
import IgnoreRules.Proofs.Checking

/-!
# Slashes behind an argument

A slash at the end of an argument says that a directory is meant, and any number of them says
the same: they are split off, and the path is what stands before them. Every argument is a name
that does not end in a slash, with so many slashes behind it, and all there is to know is what
becomes of these two.

Where there is no name, the argument is the top. Written with a single slash it stays as it is,
but of two slashes or more none is left, and the query is about the empty path. That is the one
way in which an argument loses its path.
-/

namespace IgnoreRules.Query

/-- The path and the mark are what splitting is to make of the argument: there is a path, the
argument is the path with slashes behind it, the mark says whether there are any, and the path
keeps no slash at its end unless it is the top. -/
structure KeepsPath (argument path : List Char) (marked : Bool) : Prop where
  ne_nil : path ≠ []
  slashes : ∃ count, argument = path ++ List.replicate count '/' ∧ (marked = true ↔ 0 < count)
  bare : path.getLast? = some '/' → path = ['/']

/-! ## A name and slashes -/

/-- Every argument is a name without a slash at its end, and slashes. -/
theorem exists_name (argument : List Char) :
    ∃ name count, name.getLast? ≠ some '/' ∧ argument = name ++ List.replicate count '/' := by
  induction argument using List.reverseRecOn with
  | nil => exact ⟨[], 0, by decide, rfl⟩
  | append_singleton argument c ih =>
      by_cases hc : c = '/'
      · obtain ⟨name, count, hname, hargument⟩ := ih
        refine ⟨name, count + 1, hname, ?_⟩
        rw [hargument, hc, List.append_assoc, List.replicate_succ']
      · refine ⟨argument ++ [c], 0, ?_, (List.append_nil _).symm⟩
        rw [List.getLast?_concat]
        exact fun h => hc (Option.some.inj h)

section

variable {name : List Char} (hname : name.getLast? ≠ some '/')

include hname

theorem splitMarker_name : splitMarker name = (name, false) :=
  if_neg fun h => hname h.2

theorem rdropWhile_append_slashes (count : Nat) :
    (name ++ List.replicate count '/').rdropWhile (· = '/') = name := by
  induction count with
  | zero =>
      rw [List.replicate_zero, List.append_nil, List.rdropWhile_eq_self_iff]
      intro hne hlast
      rw [List.getLast?_eq_some_getLast hne] at hname
      exact hname (congrArg some (of_decide_eq_true hlast))
  | succ count ih =>
      rw [List.replicate_succ', ← List.append_assoc, List.rdropWhile_concat_pos _ _ _ (by decide)]
      exact ih

/-- Slashes behind a name are a marker, however many there are. Without a name, a single slash
is the top. -/
theorem splitMarker_append_slashes (count : Nat) :
    splitMarker (name ++ List.replicate (count + 1) '/') =
      if name = [] ∧ count = 0 then (['/'], false) else (name, true) := by
  have hlast : (name ++ List.replicate (count + 1) '/').getLast? = some '/' := by
    rw [List.replicate_succ', ← List.append_assoc, List.getLast?_concat]
  have hlength : 1 < (name ++ List.replicate (count + 1) '/').length ↔
      ¬ (name = [] ∧ count = 0) := by
    rw [List.length_append, List.length_replicate, ← List.length_eq_zero_iff]
    omega
  by_cases htop : name = [] ∧ count = 0
  · rw [if_pos htop, splitMarker, if_neg fun h => hlength.1 h.1 htop, htop.1, htop.2]
    rfl
  · rw [if_neg htop, splitMarker, if_pos ⟨hlength.2 htop, hlast⟩]
    exact congrArg (·, true) (rdropWhile_append_slashes hname (count + 1))

end

theorem splitMarker_slashes (count : Nat) :
    splitMarker (List.replicate (count + 2) '/') = ([], true) :=
  (@splitMarker_append_slashes [] (by decide) (count + 1)).trans (if_neg (by simp))

/-! ## What is kept -/

/-- A name is kept, and a slash alone. -/
theorem keepsPath_splitMarker {argument : List Char} (hne : argument ≠ [])
    (h : ∀ count, argument ≠ List.replicate (count + 2) '/') :
    KeepsPath argument (splitMarker argument).1 (splitMarker argument).2 := by
  obtain ⟨name, count, hname, rfl⟩ := exists_name argument
  cases count with
  | zero =>
      rw [List.replicate_zero, List.append_nil] at hne ⊢
      rw [splitMarker_name hname]
      refine ⟨hne, ⟨0, (List.append_nil name).symm, ?_⟩, fun hlast => absurd hlast hname⟩
      exact iff_of_false Bool.false_ne_true (Nat.lt_irrefl 0)
  | succ count =>
      rw [splitMarker_append_slashes hname]
      split
      · next htop =>
          rw [htop.1, htop.2]
          exact ⟨List.cons_ne_nil '/' [], ⟨0, rfl, by decide⟩, fun _ => rfl⟩
      · next hother =>
          have hsome : name ≠ [] := by
            -- Without a name there would be two slashes or more.
            rintro rfl
            obtain ⟨others, rfl⟩ := Nat.exists_eq_succ_of_ne_zero fun hzero => hother ⟨rfl, hzero⟩
            exact h others rfl
          exact ⟨hsome, ⟨count + 1, rfl, iff_of_true rfl count.succ_pos⟩,
            fun hlast => absurd hlast hname⟩

/-- Only of two slashes or more nothing is left. -/
theorem splitMarker_eq_nil_iff {argument : List Char} (hne : argument ≠ []) :
    (splitMarker argument).1 = [] ↔ ∃ count, argument = List.replicate (count + 2) '/' := by
  constructor
  · intro hnil
    by_contra hslashes
    exact (keepsPath_splitMarker hne (not_exists.1 hslashes)).ne_nil hnil
  · rintro ⟨count, rfl⟩
    rw [splitMarker_slashes]

theorem ofArgument_append_slashes {name : List Char} (hne : name ≠ [])
    (hname : name.getLast? ≠ some '/') (count : Nat) (directory : Bool) :
    ofArgument (name ++ List.replicate (count + 1) '/') directory = ⟨name, true⟩ := by
  rw [ofArgument, splitMarker_append_slashes hname, if_neg fun h => hne h.1]
  exact congrArg (Query.mk name) (Bool.or_true directory)

/-- Of the arguments of a check, none of them empty, path and mark are the ones asked for unless
an argument is made up of two slashes or more, and of such an argument no path is left. So the
check asks about the empty path just if there is one among them, whatever the rules, and one
slash behind a name makes the same query as any other number. -/
theorem splitMarker_keeps_path_iff {paths : List (List Char)} (hpaths : [] ∉ paths) :
    (∀ argument ∈ paths,
      (KeepsPath argument (splitMarker argument).1 (splitMarker argument).2 ↔
        ∀ count, argument ≠ List.replicate (count + 2) '/')) ∧
    (∀ count, List.replicate (count + 2) '/' ∈ paths →
      splitMarker (List.replicate (count + 2) '/') = ([], true)) ∧
    (∀ (rules : RuleSet) directory,
      ((∃ query ∈ CommandLine.queries directory paths, (rules.answer query).query.path = []) ↔
        ∃ count, List.replicate (count + 2) '/' ∈ paths)) ∧
    ∀ name ∈ paths, name.getLast? ≠ some '/' → ∀ count directory,
      ofArgument (name ++ List.replicate (count + 1) '/') directory = ⟨name, true⟩ := by
  have hne : ∀ argument ∈ paths, argument ≠ [] := fun _ hmem hnil => hpaths (hnil ▸ hmem)
  refine ⟨fun argument hmem => ⟨fun h count hslashes => ?_, keepsPath_splitMarker (hne _ hmem)⟩,
    fun count _ => splitMarker_slashes count, fun rules directory => ?_,
    fun name hmem hname => ofArgument_append_slashes (hne name hmem) hname⟩
  · exact h.ne_nil ((splitMarker_eq_nil_iff (hne _ hmem)).2 ⟨count, hslashes⟩)
  · have hempty : ∀ path ∈ paths, (ofArgument path directory).path = [] ↔
        ∃ count, path = List.replicate (count + 2) '/' :=
      fun path hmem => splitMarker_eq_nil_iff (hne path hmem)
    simp only [CommandLine.queries, CommandLine.answer_query, List.mem_map]
    constructor
    · rintro ⟨_, ⟨path, hmem, rfl⟩, hnil⟩
      obtain ⟨count, rfl⟩ := (hempty path hmem).1 hnil
      exact ⟨count, hmem⟩
    · rintro ⟨count, hmem⟩
      exact ⟨_, ⟨_, hmem, rfl⟩, (hempty _ hmem).2 ⟨count, rfl⟩⟩

/-- The top, a name with three slashes behind it, and the name alone. -/
theorem splitMarker_keeps_path_iff_top :
    [] ∉ ["/".toList, "a/b///".toList, "a/b".toList] ∧
    (KeepsPath "/".toList ['/'] false ∧ KeepsPath "a/b///".toList "a/b".toList true) ∧
    (∀ rules : RuleSet,
      ∀ query ∈ CommandLine.queries false ["/".toList, "a/b///".toList, "a/b".toList],
        (rules.answer query).query.path ≠ []) ∧
    "a/b".toList.getLast? ≠ some '/' ∧
      ofArgument ("a/b".toList ++ List.replicate 3 '/') false = ⟨"a/b".toList, true⟩ := by
  have hpaths : [] ∉ ["/".toList, "a/b///".toList, "a/b".toList] := by decide
  obtain ⟨hkeeps, _, hqueries, hsame⟩ := splitMarker_keeps_path_iff hpaths
  have htop : ∀ count, "/".toList ≠ List.replicate (count + 2) '/' := by
    intro count h
    have hlength := congrArg List.length h
    rw [List.length_replicate] at hlength
    cases hlength
  have hletter : ∀ argument ∈ ["a/b///".toList, "a/b".toList], ∀ count,
      argument ≠ List.replicate (count + 2) '/' := by
    intro argument hmem count h
    have hall : ∀ argument ∈ ["a/b///".toList, "a/b".toList], 'a' ∈ argument := by decide
    exact absurd (List.eq_of_mem_replicate (h ▸ hall argument hmem)) (by decide)
  refine ⟨hpaths, ⟨(hkeeps _ (by decide)).2 htop, (hkeeps _ (by decide)).2 ?_⟩,
    fun rules query hmem hnil => ?_, by decide, hsame _ (by decide) (by decide) 2 false⟩
  · exact hletter _ (by decide)
  · obtain ⟨count, hslashes⟩ := (hqueries rules false).1 ⟨query, hmem, hnil⟩
    rcases List.mem_cons.1 hslashes with h | h
    · exact htop count h.symm
    · exact hletter _ h count rfl

/-- Of two slashes the path is lost: what is asked for is the top and a mark, and the query is
about the empty path. -/
theorem slashes_lose_path :
    splitMarker "//".toList = ([], true) ∧
      KeepsPath "//".toList ['/'] true ∧
      ¬ KeepsPath "//".toList (splitMarker "//".toList).1 (splitMarker "//".toList).2 ∧
      CommandLine.queries false ["//".toList] = [⟨[], true⟩] := by
  refine ⟨by decide, ⟨by decide, ⟨1, by decide, by decide⟩, by decide⟩, fun h => ?_, by decide⟩
  exact h.ne_nil (by decide)

end IgnoreRules.Query
