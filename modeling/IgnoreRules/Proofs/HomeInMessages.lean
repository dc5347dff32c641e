import Mathlib.Data.List.Infix
import IgnoreRules.Selection

/-!
# The home directory in messages

The home directory is written `~` in two ways. A path is looked at from its start: it is the
home directory, or lies in it, or is left alone. A text that mentions paths has no place to
look at, so the home directory and the slash behind it are replaced wherever they stand.

The report that a file is missing mentions one path, at its end, and is treated as a text. So
the path is not shown as it is elsewhere in two cases: it is the home directory, which has no
slash behind it here, or the names of the home directory come up in it again behind the start.
In all other cases the two ways agree. That takes an account of every place of the path: one
replacement makes the text shorter, and none that follows can make up for it.
-/

namespace IgnoreRules

/-! ## Beginnings and replacements -/

theorem dropBeginning?_eq_some_iff {beginning text rest : List Char} :
    dropBeginning? beginning text = some rest ↔ text = beginning ++ rest := by
  induction beginning generalizing text with
  | nil => simp [dropBeginning?, eq_comm]
  | cons b beginning ih =>
      cases text with
      | nil => simp [dropBeginning?]
      | cons c text =>
          rw [dropBeginning?, List.cons_append, List.cons.injEq]
          by_cases hbc : b = c
          · rw [if_pos hbc, ih, and_iff_right hbc.symm]
          · rw [if_neg hbc]
            simp [Ne.symm hbc]

section

variable {pattern replacement : List Char}

/-- What belongs to an occurrence that has been replaced is passed over. -/
theorem replaceFrom_eq_drop (skip : Nat) (text : List Char) :
    replaceFrom pattern replacement skip text =
      replaceFrom pattern replacement 0 (text.drop skip) := by
  induction skip generalizing text with
  | zero => rfl
  | succ skip ih =>
      cases text with
      | nil => rw [List.drop_nil, replaceFrom, replaceFrom]
      | cons c rest => rw [replaceFrom, ih, List.drop_succ_cons]

theorem replaceFrom_pattern (hpattern : pattern ≠ []) (rest : List Char) :
    replaceFrom pattern replacement 0 (pattern ++ rest) =
      replacement ++ replaceFrom pattern replacement 0 rest := by
  obtain ⟨c, tail, rfl⟩ := List.exists_cons_of_ne_nil hpattern
  rw [List.cons_append, replaceFrom, if_pos, replaceFrom_eq_drop]
  · rw [List.length_cons, Nat.add_sub_cancel, List.drop_left]
  · exact List.isPrefixOf_iff_prefix.2 (List.prefix_append (c :: tail) rest)

theorem replaceFrom_cons {c : Char} {rest : List Char} (h : ¬ pattern <+: c :: rest) :
    replaceFrom pattern replacement 0 (c :: rest) =
      c :: replaceFrom pattern replacement 0 rest := by
  rw [replaceFrom, if_neg]
  rwa [List.isPrefixOf_iff_prefix]

/-- Nothing is replaced in front of where the pattern can begin. -/
theorem replaceFrom_append {c : Char} {tail front : List Char} (h : c ∉ front)
    (text : List Char) :
    replaceFrom (c :: tail) replacement 0 (front ++ text) =
      front ++ replaceFrom (c :: tail) replacement 0 text := by
  induction front with
  | nil => rfl
  | cons d front ih =>
      obtain ⟨hcd, hfront⟩ := List.ne_and_not_mem_of_not_mem_cons h
      rw [List.cons_append, replaceFrom_cons, ih hfront, List.cons_append]
      exact fun hprefix => hcd (List.cons_prefix_cons.1 hprefix).1

theorem replaceFrom_of_not_isInfix {text : List Char} (h : ¬ pattern <:+: text) :
    replaceFrom pattern replacement 0 text = text := by
  induction text with
  | nil => rw [replaceFrom]
  | cons c rest ih =>
      rw [List.infix_cons_iff, not_or] at h
      rw [replaceFrom_cons h.1, ih h.2]

variable (hshorter : replacement.length < pattern.length)

include hshorter

theorem length_replaceFrom_le (skip : Nat) (text : List Char) :
    (replaceFrom pattern replacement skip text).length ≤ text.length - skip := by
  induction text generalizing skip with
  | nil => simp [replaceFrom]
  | cons c rest ih =>
      cases skip with
      | succ skip =>
          rw [replaceFrom, List.length_cons, Nat.add_sub_add_right]
          exact ih skip
      | zero =>
          rw [replaceFrom, List.length_cons]
          split
          · next hprefix =>
              have hlength := (List.isPrefixOf_iff_prefix.1 hprefix).length_le
              have hrest := ih (pattern.length - 1)
              rw [List.length_cons] at hlength
              rw [List.length_append]
              omega
          · have hrest := ih 0
            rw [List.length_cons]
            omega

/-- With a shorter text in its place, every occurrence is missed. -/
theorem length_replaceFrom_lt {text : List Char} (h : pattern <:+: text) :
    (replaceFrom pattern replacement 0 text).length < text.length := by
  have hpattern : pattern ≠ [] := List.ne_nil_of_length_pos (Nat.zero_lt_of_lt hshorter)
  induction text with
  | nil => exact absurd (List.infix_nil.1 h) hpattern
  | cons c rest ih =>
      by_cases hprefix : pattern <+: c :: rest
      · obtain ⟨after, hafter⟩ := hprefix
        have hlength := length_replaceFrom_le hshorter 0 after
        rw [← hafter, replaceFrom_pattern hpattern, List.length_append, List.length_append]
        omega
      · rw [replaceFrom_cons hprefix, List.length_cons, List.length_cons]
        exact Nat.succ_lt_succ (ih ((List.infix_cons_iff.1 h).resolve_left hprefix))

theorem replaceFrom_eq_self_iff {text : List Char} :
    replaceFrom pattern replacement 0 text = text ↔ ¬ pattern <:+: text := by
  refine ⟨fun heq h => ?_, replaceFrom_of_not_isInfix⟩
  have hlength := length_replaceFrom_lt hshorter h
  rw [heq] at hlength
  exact Nat.lt_irrefl _ hlength

end

/-! ## Paths in the home directory and elsewhere -/

/-- A text with `~` in place of the home directory wherever a slash stands behind it. -/
def replaceHome (home : Path) (text : List Char) : List Char :=
  replaceFrom (home.toText ++ ['/']) ['~', '/'] 0 text

/-- The home directory, with a slash behind it, stands in the text of a path elsewhere than at
its start. -/
def RepeatsHome (home : Path) (text : List Char) : Prop :=
  home.toText ++ ['/'] <:+: (dropBeginning? (home.toText ++ ['/']) text).getD text

instance (home : Path) (text : List Char) : Decidable (RepeatsHome home text) :=
  inferInstanceAs (Decidable (_ <:+: _))

namespace Path

/-- Only the text of an absolute path starts with a slash. -/
theorem exists_toText_of_isAbsolute {path : Path} (h : path.isAbsolute = true) :
    ∃ rest, path.toText = '/' :: rest := by
  rw [isAbsolute, decide_eq_true_eq] at h
  have hself : path ≠ ⟨.relative, []⟩ := by
    rintro rfl
    exact h rfl
  rw [toText, if_neg hself]
  cases hanchor : path.anchor with
  | relative => exact absurd hanchor h
  | root => exact ⟨_, rfl⟩
  | doubleRoot => exact ⟨_, rfl⟩

end Path

section

variable {home : Path} {text : List Char}

theorem dropBeginning?_eq_none {beginning : List Char} (h : ¬ beginning <+: text) :
    dropBeginning? beginning text = none := by
  rw [Option.eq_none_iff_forall_ne_some]
  intro rest hrest
  exact h ⟨rest, (dropBeginning?_eq_some_iff.1 hrest).symm⟩

theorem not_isInfix_home : ¬ home.toText ++ ['/'] <:+: home.toText := by
  intro h
  have hlength := h.length_le
  rw [List.length_append, List.length_singleton] at hlength
  omega

theorem compactHome_inside (rest : List Char) :
    compactHome home (home.toText ++ ['/'] ++ rest) = '~' :: '/' :: rest := by
  have hself : home.toText ++ ['/'] ++ rest ≠ home.toText := by
    intro h
    exact not_isInfix_home (List.IsPrefix.isInfix ⟨rest, h⟩)
  rw [compactHome, if_neg hself, dropBeginning?_eq_some_iff.2 rfl]

theorem compactHome_outside (hself : text ≠ home.toText)
    (hinside : ¬ home.toText ++ ['/'] <+: text) : compactHome home text = text := by
  rw [compactHome, if_neg hself, dropBeginning?_eq_none hinside]

theorem repeatsHome_inside_iff {rest : List Char} :
    RepeatsHome home (home.toText ++ ['/'] ++ rest) ↔ home.toText ++ ['/'] <:+: rest := by
  rw [RepeatsHome, dropBeginning?_eq_some_iff.2 rfl, Option.getD_some]

theorem repeatsHome_outside_iff (hinside : ¬ home.toText ++ ['/'] <+: text) :
    RepeatsHome home text ↔ home.toText ++ ['/'] <:+: text := by
  rw [RepeatsHome, dropBeginning?_eq_none hinside, Option.getD_none]

theorem replaceHome_inside (rest : List Char) :
    replaceHome home (home.toText ++ ['/'] ++ rest) = '~' :: '/' :: replaceHome home rest :=
  replaceFrom_pattern (List.append_ne_nil_of_right_ne_nil _ (List.cons_ne_nil '/' [])) rest

/-- A path that does not come back to the home directory is shown with `~` or as it is. -/
theorem replaceHome_of_not_repeatsHome (h : ¬ RepeatsHome home text) :
    (∃ rest, text = home.toText ++ ['/'] ++ rest ∧ replaceHome home text = '~' :: '/' :: rest) ∨
      ¬ home.toText ++ ['/'] <+: text ∧ replaceHome home text = text := by
  by_cases hinside : home.toText ++ ['/'] <+: text
  · obtain ⟨rest, rfl⟩ := hinside
    rw [repeatsHome_inside_iff] at h
    refine .inl ⟨rest, rfl, ?_⟩
    rw [replaceHome_inside, replaceHome, replaceFrom_of_not_isInfix h]
  · rw [repeatsHome_outside_iff hinside] at h
    exact .inr ⟨hinside, replaceFrom_of_not_isInfix h⟩

/-- Two absolute paths that do not come back to the home directory are told apart. -/
theorem eq_of_replaceHome_eq {path other : Path} (hpath : path.isAbsolute = true)
    (hother : other.isAbsolute = true) (hpathOnce : ¬ RepeatsHome home path.toText)
    (hotherOnce : ¬ RepeatsHome home other.toText)
    (h : replaceHome home path.toText = replaceHome home other.toText) :
    path.toText = other.toText := by
  have hslash : ∀ {path : Path} {rest : List Char}, path.isAbsolute = true →
      '~' :: '/' :: rest ≠ path.toText := by
    intro path rest habsolute heq
    obtain ⟨names, hnames⟩ := Path.exists_toText_of_isAbsolute habsolute
    rw [hnames] at heq
    cases heq
  rcases replaceHome_of_not_repeatsHome hpathOnce with ⟨rest, hrest, hshown⟩ | ⟨_, hshown⟩ <;>
    rcases replaceHome_of_not_repeatsHome hotherOnce with
      ⟨others, hothers, hshown'⟩ | ⟨_, hshown'⟩ <;>
    rw [hshown, hshown'] at h
  · cases h
    rw [hrest, hothers]
  · exact absurd h (hslash hother)
  · exact absurd h.symm (hslash hpath)
  · exact h

end

/-! ## Reports of missing files -/

/-- The reports that a file is missing, each with what it says before the path. -/
inductive Failure.Misses (path : Path) : Failure → List Char → Prop where
  | ruleFile : Misses path (.source (.notFound path)) "Rule file not found".toList
  | config : Misses path (.config (.missing path)) "Missing required config file".toList

section

variable {home : Path} (habsolute : home.isAbsolute = true)

include habsolute

/-- Text without a slash in front of a path is left alone. -/
theorem compactHomeInText_append {title : List Char} (hne : title ≠ []) (hslash : '/' ∉ title)
    (text : List Char) :
    compactHomeInText home (title ++ text) = title ++ replaceHome home text := by
  obtain ⟨names, hhome⟩ := Path.exists_toText_of_isAbsolute habsolute
  have hself : title ++ text ≠ home.toText := by
    obtain ⟨c, rest, rfl⟩ := List.exists_cons_of_ne_nil hne
    intro h
    rw [hhome, List.cons_append, List.cons.injEq] at h
    exact hslash (h.1 ▸ List.mem_cons_self)
  rw [compactHomeInText, if_neg hself, replaceHome, hhome, List.cons_append,
    replaceFrom_append hslash]

/-- Only the path at the end of such a report counts. -/
theorem Failure.Misses.message_eq {path : Path} {failure : Failure} {title : List Char}
    (h : failure.Misses path title) :
    failure.message? home = some (title ++ ": ".toList ++ replaceHome home path.toText) := by
  cases h with
  | ruleFile =>
      exact congrArg some (compactHomeInText_append habsolute (by decide) (by decide) path.toText)
  | config =>
      exact congrArg some (compactHomeInText_append habsolute (by decide) (by decide) path.toText)

variable (hslash : home.toText.getLast? ≠ some '/')

include hslash

/-- The home directory with its slash is longer than what is written for it. -/
theorem length_lt_length_home : ['~', '/'].length < (home.toText ++ ['/']).length := by
  obtain ⟨names, hhome⟩ := Path.exists_toText_of_isAbsolute habsolute
  rw [hhome] at hslash ⊢
  cases names with
  | nil => exact absurd rfl hslash
  | cons c names => simp

theorem replaceHome_eq_self_iff {text : List Char} :
    replaceHome home text = text ↔ ¬ home.toText ++ ['/'] <:+: text :=
  replaceFrom_eq_self_iff (length_lt_length_home habsolute hslash)

/-- The two ways to write a path agree unless it is the home directory or comes back to it. -/
theorem replaceHome_eq_compactHome_iff {text : List Char} :
    replaceHome home text = compactHome home text ↔
      text ≠ home.toText ∧ ¬ RepeatsHome home text := by
  by_cases hself : text = home.toText
  · -- Without a slash behind it, the home directory is not replaced.
    have hshown : replaceHome home home.toText = home.toText :=
      (replaceHome_eq_self_iff habsolute hslash).2 not_isInfix_home
    have hcompact : compactHome home home.toText = ['~'] := if_pos rfl
    obtain ⟨names, hhome⟩ := Path.exists_toText_of_isAbsolute habsolute
    rw [hself, hshown, hcompact, hhome]
    simp
  · by_cases hinside : home.toText ++ ['/'] <+: text
    · obtain ⟨rest, rfl⟩ := hinside
      rw [replaceHome_inside, compactHome_inside, List.cons.injEq, List.cons.injEq,
        replaceHome_eq_self_iff habsolute hslash, repeatsHome_inside_iff, and_iff_right hself,
        and_iff_right rfl, and_iff_right rfl]
    · rw [compactHome_outside hself hinside, replaceHome_eq_self_iff habsolute hslash,
        repeatsHome_outside_iff hinside, and_iff_right hself]

/-- The report of a missing file ends in its path, with `~` wherever the home directory and a
slash stand in it. That is how the path is written elsewhere exactly if it is not the home
directory and does not come back to it behind its start, and it is the path as it is exactly if
the home directory and a slash do not stand in it. Of two absolute paths that are shown alike,
one comes back to the home directory. -/
theorem message_writes_path_iff :
    (∀ (path : Path) failure title, Failure.Misses path failure title →
      failure.message? home = some (title ++ ": ".toList ++ replaceHome home path.toText)) ∧
    (∀ path : Path,
      (replaceHome home path.toText = compactHome home path.toText ↔
        path.toText ≠ home.toText ∧ ¬ RepeatsHome home path.toText) ∧
      (replaceHome home path.toText = path.toText ↔ ¬ home.toText ++ ['/'] <:+: path.toText)) ∧
    ∀ path other : Path, path.isAbsolute = true → other.isAbsolute = true →
      path.toText ≠ other.toText → replaceHome home path.toText = replaceHome home other.toText →
      RepeatsHome home path.toText ∨ RepeatsHome home other.toText := by
  refine ⟨fun path failure title h => h.message_eq habsolute, fun path => ⟨?_, ?_⟩,
    fun path other hpath hother hne heq => ?_⟩
  · exact replaceHome_eq_compactHome_iff habsolute hslash
  · exact replaceHome_eq_self_iff habsolute hslash
  · by_contra h
    obtain ⟨hpathOnce, hotherOnce⟩ := not_or.1 h
    exact hne (eq_of_replaceHome_eq hpath hother hpathOnce hotherOnce heq)

end

/-- A home directory of a user. -/
def userHome : Path :=
  .ofText "/home/u".toList

/-- A path in the home directory, and one beside it whose name starts alike. -/
theorem message_writes_path_iff_user :
    userHome.isAbsolute = true ∧ userHome.toText.getLast? ≠ some '/' ∧
    (Failure.source (.notFound (.ofText "/home/u/repo/r".toList))).message? userHome =
      some ("Rule file not found".toList ++ ": ".toList ++
        compactHome userHome "/home/u/repo/r".toList) ∧
    (Failure.config (.missing (.ofText "/home/user/c".toList))).message? userHome =
      some ("Missing required config file".toList ++ ": ".toList ++ "/home/user/c".toList) ∧
    replaceHome userHome "/home/u/repo/r".toList ≠ replaceHome userHome "/home/user/c".toList := by
  have habsolute : userHome.isAbsolute = true := by decide
  have hslash : userHome.toText.getLast? ≠ some '/' := by decide
  obtain ⟨hmessage, hshown, halike⟩ := message_writes_path_iff habsolute hslash
  obtain ⟨hinside, _⟩ := hshown (.ofText "/home/u/repo/r".toList)
  obtain ⟨_, hbeside⟩ := hshown (.ofText "/home/user/c".toList)
  refine ⟨habsolute, hslash, ?_, ?_, fun heq => ?_⟩
  · rw [hmessage _ _ _ .ruleFile, hinside.2 (by decide)]
    rfl
  · rw [hmessage _ _ _ .config, hbeside.2 (by decide)]
    rfl
  · have hnone : ¬ (RepeatsHome userHome (Path.toText (.ofText "/home/u/repo/r".toList)) ∨
        RepeatsHome userHome (Path.toText (.ofText "/home/user/c".toList))) := by decide
    exact hnone (halike (.ofText "/home/u/repo/r".toList) (.ofText "/home/user/c".toList)
      (by decide) (by decide) (by decide) heq)

/-- The home directory itself is shown in full. A path elsewhere that has the names of the home
directory in it is not shown as it is, but like another one. -/
theorem message_home_in_full :
    (Failure.source (.notFound userHome)).message? userHome =
      some "Rule file not found: /home/u".toList ∧
    compactHome userHome userHome.toText = "~".toList ∧
    (Failure.source (.notFound (.ofText "/mnt/home/u/x".toList))).message? userHome =
      some "Rule file not found: /mnt~/x".toList ∧
    compactHome userHome "/mnt/home/u/x".toList = "/mnt/home/u/x".toList ∧
    (Failure.source (.notFound (.ofText "/mnt~/x".toList))).message? userHome =
      some "Rule file not found: /mnt~/x".toList := by
  decide

end IgnoreRules
