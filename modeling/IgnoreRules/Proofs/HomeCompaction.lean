import Mathlib.Data.List.Basic
import IgnoreRules.Proofs.HomeInMessages
import IgnoreRules.Proofs.Provenance

/-!
# What is written with `~` can be read back

A path under the home directory is written with `~`, and so a rule file goes by another name in
its patterns and in the list of sources than in the file system. Nothing is lost by that: only
an absolute path is written so, and such a path does not start with `~` of its own, so a `~` in
front always stands for the home directory. The test is on whole names, since a slash has to
follow the home directory; a directory beside it whose name starts alike is left as it is.

What tells two paths apart is their text. That is all of the path: a path that was read from a
text is read again from its own.
-/

namespace IgnoreRules

/-! ## The text of a path -/

/-- The pieces between separators are those of the library. -/
theorem pieces_eq_splitOn (separator : Char) (text : List Char) :
    pieces separator text = text.splitOn separator := by
  induction text with
  | nil => rfl
  | cons c rest ih =>
      rw [pieces, ih, List.splitOn, List.splitOn, List.splitOnP_cons_eq_if_modifyHead]
      by_cases hc : c = separator
      · rw [if_pos hc, if_pos (beq_iff_eq.2 hc)]
      · rw [if_neg hc, if_neg (by simpa using hc)]
        obtain ⟨piece, others, hpieces⟩ :=
          List.exists_cons_of_ne_nil (List.splitOnP_ne_nil (· == separator) rest)
        rw [hpieces]
        rfl

theorem not_mem_of_mem_pieces {separator : Char} {text piece : List Char}
    (h : piece ∈ pieces separator text) : separator ∉ piece := by
  fun_induction pieces separator text generalizing piece with
  | case1 =>
      rw [List.mem_singleton.1 h]
      exact List.not_mem_nil
  | case2 rest ih =>
      rcases List.mem_cons.1 h with rfl | h
      · exact List.not_mem_nil
      · exact ih h
  | case3 c rest hc hpieces ih =>
      rw [List.mem_singleton.1 h, List.mem_singleton]
      exact fun heq => hc heq.symm
  | case4 c rest hc first others hpieces ih =>
      rw [hpieces] at ih
      rcases List.mem_cons.1 h with rfl | h
      · rw [List.mem_cons, not_or]
        exact ⟨fun heq => hc heq.symm, ih List.mem_cons_self⟩
      · exact ih (List.mem_cons_of_mem first h)

namespace Path

/-- The names are such as a text is cut into. -/
def IsNormal (path : Path) : Prop :=
  ∀ part ∈ path.parts, part ≠ [] ∧ part ≠ ['.'] ∧ '/' ∉ part

theorem isNormal_ofText (text : List Char) : (ofText text).IsNormal := by
  intro part hpart
  obtain ⟨hmem, hkept⟩ := List.mem_filter.1 hpart
  obtain ⟨hne, hdot⟩ := of_decide_eq_true hkept
  exact ⟨hne, hdot, not_mem_of_mem_pieces hmem⟩

section

variable {path : Path} (h : path.IsNormal)

include h

/-- The names are read back from between the slashes. -/
theorem filter_pieces_intercalate :
    (pieces '/' (['/'].intercalate path.parts)).filter
      (fun piece => piece ≠ [] ∧ piece ≠ ['.']) = path.parts := by
  by_cases hparts : path.parts = []
  · rw [hparts]
    rfl
  · have hslash : ∀ part ∈ path.parts, '/' ∉ part := fun part hpart => (h part hpart).2.2
    rw [pieces_eq_splitOn, List.splitOn_intercalate '/' hslash hparts, List.filter_eq_self]
    intro part hpart
    exact decide_eq_true ⟨(h part hpart).1, (h part hpart).2.1⟩

/-- No slash stands in front of the names. -/
theorem takeWhile_intercalate :
    (['/'].intercalate path.parts).takeWhile (· = '/') = [] := by
  cases hparts : path.parts with
  | nil => rfl
  | cons part others =>
      obtain ⟨hne, _, hslash⟩ := h part (hparts ▸ List.mem_cons_self)
      obtain ⟨c, rest, rfl⟩ := List.exists_cons_of_ne_nil hne
      have hc : ¬ c = '/' := fun hc => hslash (hc ▸ List.mem_cons_self)
      cases others with
      | nil => simp [hc]
      | cons next others => simp [hc]

theorem ofText_toText : ofText path.toText = path := by
  by_cases hself : path = ⟨.relative, []⟩
  · rw [hself]
    decide
  · have hparts := filter_pieces_intercalate h
    have hslashes := takeWhile_intercalate h
    obtain ⟨anchor, parts⟩ := path
    rw [toText, if_neg hself]
    dsimp only at hparts hslashes ⊢
    cases anchor with
    | relative =>
        refine congrArg₂ Path.mk ?_ hparts
        rw [Anchor.toText, List.nil_append, Anchor.ofText, hslashes]
        rfl
    | root =>
        refine congrArg₂ Path.mk ?_ hparts
        rw [Anchor.toText, Anchor.ofText, List.singleton_append,
          List.takeWhile_cons_of_pos (by decide), hslashes]
        rfl
    | doubleRoot =>
        refine congrArg₂ Path.mk ?_ hparts
        rw [Anchor.toText, Anchor.ofText, List.cons_append, List.singleton_append,
          List.takeWhile_cons_of_pos (by decide), List.takeWhile_cons_of_pos (by decide), hslashes]
        rfl

end

/-- Paths that are read from texts have a text each. -/
theorem toText_ofText_ne {text other : List Char} (h : ofText text ≠ ofText other) :
    (ofText text).toText ≠ (ofText other).toText := by
  intro heq
  refine h ?_
  rw [← ofText_toText (isNormal_ofText text), heq, ofText_toText (isNormal_ofText other)]

/-- Both paths are absolute, and they are different ones. -/
structure Apart (path other : Path) : Prop where
  left : path.isAbsolute = true
  right : other.isAbsolute = true
  ne : path.toText ≠ other.toText

end Path

/-! ## Reading `~` back -/

/-- A text with the home directory in place of a `~` in front. -/
def expandTilde (home : Path) : List Char → List Char
  | '~' :: rest => home.toText ++ rest
  | text => text

section

variable {home : Path}

/-- A path is the home directory, or lies in it, or is written as it is. -/
theorem compactHome_cases (home : Path) (text : List Char) :
    text = home.toText ∧ compactHome home text = ['~'] ∨
      (∃ rest, text = home.toText ++ ['/'] ++ rest ∧ compactHome home text = '~' :: '/' :: rest) ∨
      (text ≠ home.toText ∧ ¬ home.toText ++ ['/'] <+: text) ∧ compactHome home text = text := by
  by_cases hself : text = home.toText
  · exact .inl ⟨hself, if_pos hself⟩
  · by_cases hinside : home.toText ++ ['/'] <+: text
    · obtain ⟨rest, rfl⟩ := hinside
      exact .inr (.inl ⟨rest, rfl, compactHome_inside rest⟩)
    · exact .inr (.inr ⟨⟨hself, hinside⟩, compactHome_outside hself hinside⟩)

variable {text : List Char} (habsolute : text.head? = some '/')

include habsolute

/-- A `~` in front says that the path is the home directory or lies in it. -/
theorem head?_compactHome_iff :
    (compactHome home text).head? = some '~' ↔
      text = home.toText ∨ home.toText ++ ['/'] <+: text := by
  rcases compactHome_cases home text with ⟨hself, hshown⟩ | ⟨rest, hinside, hshown⟩ |
    ⟨⟨hself, hinside⟩, hshown⟩
  · rw [hshown]
    exact iff_of_true rfl (.inl hself)
  · rw [hshown]
    exact iff_of_true rfl (.inr ⟨rest, hinside.symm⟩)
  · rw [hshown, habsolute]
    exact iff_of_false (by decide) (not_or.2 ⟨hself, hinside⟩)

theorem expandTilde_compactHome : expandTilde home (compactHome home text) = text := by
  rcases compactHome_cases home text with ⟨hself, hshown⟩ | ⟨rest, hinside, hshown⟩ | ⟨_, hshown⟩
  · rw [hshown, hself]
    exact List.append_nil home.toText
  · rw [hshown, hinside, List.append_assoc]
    rfl
  · obtain ⟨rest, rfl⟩ := List.head?_eq_some_iff.1 habsolute
    rw [hshown]
    rfl

end

/-- Different absolute paths are written differently. -/
theorem Path.Apart.compactHome_ne {path other : Path} (h : path.Apart other) (home : Path) :
    compactHome home path.toText ≠ compactHome home other.toText := by
  obtain ⟨rest, hpath⟩ := exists_toText_of_isAbsolute h.left
  obtain ⟨rest', hother⟩ := exists_toText_of_isAbsolute h.right
  intro heq
  refine h.ne ?_
  rw [← expandTilde_compactHome (List.head?_eq_some_iff.2 ⟨rest, hpath⟩), heq,
    expandTilde_compactHome (List.head?_eq_some_iff.2 ⟨rest', hother⟩)]

/-! ## Names of rule files -/

section

variable {fs : FileSystem}

/-- The patterns of a rule file have the path that it is read from for their origin. -/
theorem RuleFile.origin_of_mem_load {root name path : Path} {rules : RuleSet}
    (hload : load fs root name = .ok rules) (hpath : resolve fs root name = .ok path)
    {pattern : Pattern} (hmem : pattern ∈ rules.patterns) :
    pattern.origin = some (compactHome fs.home path.toText) := by
  obtain ⟨file, ⟨_, resolved, hresolved, horigin⟩, hgives⟩ := exists_layer_of_load hload
  rw [hpath] at hresolved
  cases hresolved
  rw [(hgives.placed pattern hmem).1, horigin]

/-- The rule files come first among the sources, each with its path. -/
theorem Config.getElem?_sourceLabels {config : Config} {paths : List Path}
    {labels : List (List Char)} (hpaths : config.resolvedRuleFiles fs = .ok paths)
    (hlabels : config.sourceLabels fs = .ok labels) {index : Nat} {path : Path}
    (hpath : paths[index]? = some path) : labels[index]? = some path.toText := by
  rw [sourceLabels, hpaths] at hlabels
  cases hlabels
  rw [List.getElem?_append_left, List.getElem?_map, hpath]
  · rfl
  · rw [List.length_map]
    exact (List.getElem?_eq_some_iff.1 hpath).1

end

/-- Writing an absolute path with `~` can be undone: there is a `~` in front just if the path is
the home directory or lies in it, and with the home directory in its place the path is back. So
two rule files with different absolute paths never go by one name, neither as the origin of
patterns nor among the sources, as these are handed over to be shown; and paths that are read
from texts differ in their texts if they differ at all. -/
theorem compactHome_invertible (fs : FileSystem) :
    (∀ text, text.head? = some '/' →
      ((compactHome fs.home text).head? = some '~' ↔
        text = fs.home.toText ∨ fs.home.toText ++ ['/'] <+: text) ∧
      expandTilde fs.home (compactHome fs.home text) = text) ∧
    (∀ root root' name name' path path', RuleFile.resolve fs root name = .ok path →
      RuleFile.resolve fs root' name' = .ok path' → path.Apart path' →
      ∀ rules rules', RuleFile.load fs root name = .ok rules →
        RuleFile.load fs root' name' = .ok rules' →
        ∀ pattern ∈ rules.patterns, ∀ pattern' ∈ rules'.patterns,
          pattern.origin ≠ pattern'.origin) ∧
    (∀ config : Config, ∀ paths labels, config.resolvedRuleFiles fs = .ok paths →
      config.sourceLabels fs = .ok labels →
      ∀ (index index' : Nat) path path', paths[index]? = some path →
        paths[index']? = some path' → path.Apart path' →
        (labels.map (compactHome fs.home))[index]? ≠
          (labels.map (compactHome fs.home))[index']?) ∧
    ∀ text text', Path.ofText text ≠ Path.ofText text' →
      (Path.ofText text).toText ≠ (Path.ofText text').toText := by
  refine ⟨fun text h => ⟨head?_compactHome_iff h, expandTilde_compactHome h⟩, ?_, ?_,
    fun _ _ => Path.toText_ofText_ne⟩
  · intro root root' name name' path path' hpath hpath' hapart rules rules' hload hload'
      pattern hmem pattern' hmem' horigin
    rw [RuleFile.origin_of_mem_load hload hpath hmem,
      RuleFile.origin_of_mem_load hload' hpath' hmem'] at horigin
    exact hapart.compactHome_ne fs.home (Option.some.inj horigin)
  · intro config paths labels hpaths hlabels index index' path path' hpath hpath' hapart hlabel
    rw [List.getElem?_map, List.getElem?_map, Config.getElem?_sourceLabels hpaths hlabels hpath,
      Config.getElem?_sourceLabels hpaths hlabels hpath'] at hlabel
    exact hapart.compactHome_ne fs.home (Option.some.inj hlabel)

/-- A rule file in the home directory, and one in a directory beside it whose name starts
alike. -/
def besideFiles : FileSystem :=
  { home := .ofText "/home/u".toList
    homes := []
    workingDirectory := .ofText "/home/u".toList
    workingDirectory_isAbsolute := by decide
    entries := [
      (["home".toList, "u".toList, "r".toList], .file "*.log\n".toUTF8.data.toList),
      (["home".toList, "user".toList, "r".toList], .file "*.log\n".toUTF8.data.toList)] }

/-- Both rule files. -/
def besideConfig : Config :=
  { root := .ofText "/home/u".toList
    ruleFiles := ["r".toList, "/home/user/r".toList].map Path.ofText
    extraPatterns := []
    includeDefaults := false }

theorem compactHome_invertible_beside :
    (∀ text ∈ ["/home/u".toList, "/home/u/r".toList, "/home/user/r".toList],
      text.head? = some '/' ∧
        expandTilde besideFiles.home (compactHome besideFiles.home text) = text) ∧
    (Path.ofText "/home/u/r".toList).Apart (.ofText "/home/user/r".toList) ∧
    (∃ rules rules',
      RuleFile.load besideFiles besideConfig.root (.ofText "r".toList) = .ok rules ∧
      RuleFile.load besideFiles besideConfig.root (.ofText "/home/user/r".toList) = .ok rules' ∧
      ∀ pattern ∈ rules.patterns, ∀ pattern' ∈ rules'.patterns,
        pattern.origin ≠ pattern'.origin) ∧
    ∃ labels, besideConfig.sourceLabels besideFiles = .ok labels ∧
      (labels.map (compactHome besideFiles.home))[0]? ≠
        (labels.map (compactHome besideFiles.home))[1]? := by
  obtain ⟨hback, horigin, hlabel, htexts⟩ := compactHome_invertible besideFiles
  have hapart : (Path.ofText "/home/u/r".toList).Apart (.ofText "/home/user/r".toList) :=
    ⟨by decide, by decide, htexts _ _ (by decide)⟩
  have hnear : RuleFile.resolve besideFiles besideConfig.root (.ofText "r".toList) =
      .ok (.ofText "/home/u/r".toList) := rfl
  have hbeside : RuleFile.resolve besideFiles besideConfig.root (.ofText "/home/user/r".toList) =
      .ok (.ofText "/home/user/r".toList) := rfl
  obtain ⟨rules, hrules⟩ := exists_of_isOk (by decide +kernel :
    (RuleFile.load besideFiles besideConfig.root (.ofText "r".toList)).isOk = true)
  obtain ⟨rules', hrules'⟩ := exists_of_isOk (by decide +kernel :
    (RuleFile.load besideFiles besideConfig.root (.ofText "/home/user/r".toList)).isOk = true)
  refine ⟨fun text hmem => ?_, hapart, ⟨rules, rules', hrules, hrules', ?_⟩, _, rfl, ?_⟩
  · have habsolute : text.head? = some '/' := by
      revert text
      decide
    exact ⟨habsolute, (hback text habsolute).2⟩
  · exact horigin _ _ _ _ _ _ hnear hbeside hapart _ _ hrules hrules'
  · exact hlabel besideConfig _ _ rfl rfl 0 1 _ _ rfl rfl hapart

end IgnoreRules
