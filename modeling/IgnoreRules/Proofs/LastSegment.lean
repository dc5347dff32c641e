import IgnoreRules.Proofs.CanonicalLines
import IgnoreRules.Proofs.ClassEnds
import IgnoreRules.Proofs.Tokenization
import IgnoreRules.Proofs.Translation

/-!
# Rules without a slash look at names

A rule whose line has no slash in it is free: it may match at any segment. It might then
match a stretch of several segments, or the end of a path could be split off at any of its
slashes. Neither happens. Without a class and without `**` no token of the body takes a
slash, so what the body takes has none; and of all the places behind a slash only the last
leaves a rest without one. So the rule sees the last segment of the path and nothing else,
be there doubled slashes in the path, or one in front or at its end, where the last segment
is empty.

The slash in front that a query drops does no harm: the last segment is the same without
it, and has itself none to drop.
-/

namespace IgnoreRules

/-! ## The last segment -/

/-- What stands behind the last `/` of a path, or all of it if there is none. -/
def lastSegment (path : List Char) : List Char :=
  (path.reverse.takeWhile (· != '/')).reverse

/-- The text in front of a segment: nothing, or all up to some slash. -/
def EndsSegment (lead : List Char) : Prop :=
  lead = [] ∨ lead.getLast? = some '/'

theorem not_mem_lastSegment (path : List Char) : '/' ∉ lastSegment path := by
  rw [lastSegment, List.mem_reverse]
  intro hmem
  have hslash := List.all_eq_true.1 List.all_takeWhile _ hmem
  simp at hslash

theorem exists_append_lastSegment (path : List Char) :
    ∃ lead, lead ++ lastSegment path = path ∧ EndsSegment lead := by
  have hsplit : path.reverse.takeWhile (· != '/') ++ path.reverse.dropWhile (· != '/') =
      path.reverse := List.takeWhile_append_dropWhile
  have hhead := List.head?_dropWhile_not (· != '/') path.reverse
  refine ⟨(path.reverse.dropWhile (· != '/')).reverse, ?_, ?_⟩
  · rw [lastSegment, ← List.reverse_append, hsplit, List.reverse_reverse]
  · rw [EndsSegment, List.getLast?_reverse, List.reverse_eq_nil_iff]
    cases hdrop : path.reverse.dropWhile (· != '/') with
    | nil => exact .inl rfl
    | cons c before =>
        rw [hdrop] at hhead
        have hc : c = '/' := by simpa using hhead
        exact .inr (by rw [hc]; rfl)

theorem lastSegment_append {lead rest : List Char} (hlead : EndsSegment lead)
    (hrest : '/' ∉ rest) : lastSegment (lead ++ rest) = rest := by
  have hreverse : '/' ∉ rest.reverse := fun hmem => hrest (List.mem_reverse.1 hmem)
  rcases hlead with rfl | hlast
  · have hall : rest.reverse.takeWhile (· != '/') = rest.reverse := by
      rw [List.takeWhile_eq_self_iff]
      exact fun c hmem => bne_iff_ne.2 fun hc => hreverse (hc ▸ hmem)
    rw [List.nil_append, lastSegment, hall, List.reverse_reverse]
  · obtain ⟨before, rfl⟩ := List.getLast?_eq_some_iff.1 hlast
    have hsplit : (before ++ ['/'] ++ rest).reverse = rest.reverse ++ '/' :: before.reverse := by
      simp
    rw [lastSegment, hsplit, Regex.takeWhile_bne hreverse, List.reverse_reverse]

/-- There is only one way to split a path behind a slash and leave no slash. -/
theorem eq_lastSegment_iff {path rest : List Char} :
    rest = lastSegment path ↔ '/' ∉ rest ∧ ∃ lead, lead ++ rest = path ∧ EndsSegment lead := by
  constructor
  · rintro rfl
    exact ⟨not_mem_lastSegment path, exists_append_lastSegment path⟩
  · rintro ⟨hrest, lead, rfl, hlead⟩
    exact (lastSegment_append hlead hrest).symm

theorem lastSegment_slash (path : List Char) : lastSegment ('/' :: path) = lastSegment path := by
  obtain ⟨lead, hpath, hlead⟩ := exists_append_lastSegment path
  have hends : EndsSegment ('/' :: lead) := by
    rcases hlead with rfl | hlast
    · exact .inr rfl
    · obtain ⟨before, rfl⟩ := List.getLast?_eq_some_iff.1 hlast
      exact .inr (List.getLast?_concat (l := '/' :: before))
  refine (eq_lastSegment_iff.2 ⟨not_mem_lastSegment path, '/' :: lead, ?_, hends⟩).symm
  rw [List.cons_append, hpath]

/-! ## Bodies that take no slash -/

namespace Glob

/-- All that a token is written with is in the body. -/
theorem mem_of_mem_write {body : List Char} {token : Token} (hmem : token ∈ tokens body)
    {c : Char} (hc : c ∈ token.write) : c ∈ body := by
  have hwritten : c ∈ (tokens body).flatMap Token.write := List.mem_flatMap.2 ⟨token, hmem, hc⟩
  rw [(reads_tokens body).flatMap_write] at hwritten
  split at hwritten
  · exact hwritten
  · exact List.dropLast_subset body hwritten

theorem Token.not_mem_of_takes {token : Token} {piece : List Char} (hwrite : '/' ∉ token.write)
    (hstar : token ≠ .doubleStar) (hclass : ¬ token.IsClass) (h : token.Takes piece) :
    '/' ∉ piece := by
  cases token with
  | literal c =>
      rw [h]
      exact hwrite
  | escaped c =>
      rw [h]
      exact List.not_mem_of_not_mem_cons hwrite
  | star => exact h
  | doubleStar => exact absurd rfl hstar
  | doubleStarSlash => exact absurd (by decide) hwrite
  | question =>
      obtain ⟨c, rfl, hc⟩ := h
      simpa using hc.symm
  | charClass content negated => exact absurd trivial hclass

/-- The body has no slash, and no token that takes one. -/
structure NamesSegment (body : List Char) : Prop where
  not_mem : '/' ∉ body
  doubleStar_not_mem : .doubleStar ∉ tokens body
  not_isClass : ∀ token ∈ tokens body, ¬ token.IsClass

variable {body : List Char} (hbody : NamesSegment body)

include hbody

theorem NamesSegment.not_mem_of_matches {path : List Char} (h : Matches body path) :
    '/' ∉ path := by
  have htokens : ∀ token ∈ tokens body, ∀ piece, token.Takes piece → '/' ∉ piece := by
    intro token hmem piece htakes
    exact token.not_mem_of_takes (fun hwrite => hbody.not_mem (mem_of_mem_write hmem hwrite))
      (fun hstar => hbody.doubleStar_not_mem (hstar ▸ hmem)) (hbody.not_isClass token hmem) htakes
  rw [Matches] at h
  generalize tokens body = units at htokens h
  induction h with
  | nil => exact List.not_mem_nil
  | cons htakes _ ih =>
      obtain ⟨hself, htokens⟩ := List.forall_mem_cons.1 htokens
      rw [List.mem_append, not_or]
      exact ⟨hself _ htakes, ih htokens⟩

/-- Without an anchor such a body stands for what its last segment is. -/
theorem NamesSegment.matchesFrom_iff {path : List Char} :
    MatchesFrom false body path ↔ Matches body (lastSegment path) := by
  constructor
  · intro h
    obtain ⟨lead, rest, hpath, hlead, hrest⟩ := h
    have hends : EndsSegment lead := hlead.imp_right And.right
    rw [← hpath, lastSegment_append hends (hbody.not_mem_of_matches hrest)]
    exact hrest
  · intro h
    obtain ⟨lead, hpath, hlead⟩ := exists_append_lastSegment path
    exact ⟨lead, lastSegment path, hpath, hlead.imp_right fun hlast => ⟨rfl, hlast⟩, h⟩

theorem NamesSegment.isPlain : ∀ token ∈ tokens body, token.IsPlain := by
  intro token hmem
  have hclass := hbody.not_isClass token hmem
  cases token with
  | charClass content negated => exact absurd trivial hclass
  | _ => trivial

theorem NamesSegment.exists_regex : ∃ regex, Glob.regex body false = .ok regex := by
  refine (exists_regex_iff hbody.isPlain false).2 fun token hmem hclass => ?_
  exact absurd hclass (hbody.not_isClass token hmem)

theorem NamesSegment.regex_matches_iff {regex : Regex} (h : Glob.regex body false = .ok regex)
    (path : List Char) : regex.Matches path ↔ regex.Matches (lastSegment path) := by
  have hlast : lastSegment (lastSegment path) = lastSegment path :=
    lastSegment_append (.inl rfl) (not_mem_lastSegment path)
  rw [← Regex.fullMatch_iff, ← Regex.fullMatch_iff, fullMatch_iff_matchesFrom hbody.isPlain h,
    fullMatch_iff_matchesFrom hbody.isPlain h, hbody.matchesFrom_iff, hbody.matchesFrom_iff, hlast]

end Glob

/-! ## Rule sets -/

/-- A slash in front of a path is dropped, and the last segment has none to drop. -/
theorem Pattern.applies_lastSegment_iff {pattern : Pattern}
    (h : ∀ path, pattern.regex.Matches path ↔ pattern.regex.Matches (lastSegment path))
    (path : List Char) (isDirectory : Bool) :
    pattern.Applies ⟨path, isDirectory⟩ ↔ pattern.Applies ⟨lastSegment path, isDirectory⟩ := by
  have hname : (lastSegment path).head? ≠ some '/' :=
    fun hhead => not_mem_lastSegment path (List.mem_of_head? hhead)
  have hdropped : lastSegment (if path.head? = some '/' then path.tail else path) =
      lastSegment path := by
    split
    · next hslash =>
        obtain ⟨rest, rfl⟩ := List.head?_eq_some_iff.1 hslash
        exact (lastSegment_slash rest).symm
    · rfl
  simp only [Pattern.Applies, if_neg hname]
  rw [h, hdropped]

namespace RuleSet

/-- Rules that are free, with neither a class nor a double star, decide a path as they decide
its last segment, and by the same pattern. -/
theorem answer_lastSegment {lines : List (List Char)}
    (h : ∀ line ∈ lines, ∀ rule, Rule.ofLine? line = some rule →
      rule.anchored = false ∧ .doubleStar ∉ Glob.tokens rule.body ∧
        ∀ token ∈ Glob.tokens rule.body, ¬ token.IsClass)
    (origin : Option (List Char)) :
    ∃ rules, ofLines lines origin = .ok rules ∧ ∀ path isDirectory,
      (rules.answer ⟨path, isDirectory⟩).ignored =
          (rules.answer ⟨lastSegment path, isDirectory⟩).ignored ∧
        (rules.answer ⟨path, isDirectory⟩).deciding =
          (rules.answer ⟨lastSegment path, isDirectory⟩).deciding := by
  have hnames : ∀ line ∈ lines, ∀ rule, Rule.ofLine? line = some rule →
      rule.anchored = false ∧ Glob.NamesSegment rule.body := by
    intro line hmem rule hrule
    obtain ⟨hfree, hstar, hclass⟩ := h line hmem rule hrule
    have hslash := (Rule.writable_of_ofLine? hrule).not_mem hfree
    exact ⟨hfree, hslash, hstar, hclass⟩
  have hlines : ∀ line ∈ lines, ∃ pattern?, Pattern.ofLine? line none none = .ok pattern? := by
    intro line hmem
    cases hrule : Rule.ofLine? line with
    | none => exact ⟨none, by rw [Pattern.ofLine?, hrule]⟩
    | some rule =>
        obtain ⟨hfree, hbody⟩ := hnames line hmem rule hrule
        obtain ⟨regex, hregex⟩ := hbody.exists_regex
        rw [← hfree] at hregex
        obtain ⟨pattern, hpattern⟩ := Pattern.exists_ofLine?_eq_some hrule hregex none none
        exact ⟨some pattern, hpattern⟩
  obtain ⟨rules, hrules⟩ := exists_ofLines origin hlines
  refine ⟨rules, hrules, fun path isDirectory => ?_⟩
  have hlast : lastApplying rules.patterns ⟨path, isDirectory⟩ =
      lastApplying rules.patterns ⟨lastSegment path, isDirectory⟩ := by
    refine lastApplying_congr fun pattern hmem => ?_
    have haccounts := accounts_of_ofLines hrules
    obtain ⟨_, index, _, hsource⟩ := haccounts.placed pattern hmem
    obtain ⟨rule, hrule, hregex, _⟩ := Pattern.ofLine?_eq_some (haccounts.ofLine?_of_mem hmem)
    obtain ⟨hfree, hbody⟩ := hnames _ (List.mem_of_getElem? hsource) rule hrule
    rw [hfree] at hregex
    exact Pattern.applies_lastSegment_iff (hbody.regex_matches_iff hregex) path isDirectory
  rw [answer_eq, answer_eq, hlast]
  cases lastApplying rules.patterns ⟨lastSegment path, isDirectory⟩ <;> exact ⟨rfl, rfl⟩

/-- Rules for names, one of them negated and one for directories only. -/
def nameLines : List (List Char) :=
  ["*.log".toList, "# notes".toList, "!a?.log ".toList, "build/".toList]

/-- A doubled slash in the path and one in front leave the name as it is. -/
theorem answer_lastSegment_names :
    (∀ line ∈ nameLines, ∀ rule, Rule.ofLine? line = some rule →
      rule.anchored = false ∧ .doubleStar ∉ Glob.tokens rule.body ∧
        ∀ token ∈ Glob.tokens rule.body, ¬ token.IsClass) ∧
    ∃ rules, ofLines nameLines (some "r".toList) = .ok rules ∧
      (rules.answer ⟨"/x//a1.log".toList, false⟩).location = "r:3".toList ∧
      ∀ isDirectory, (rules.answer ⟨"/x//a1.log".toList, isDirectory⟩).ignored =
        (rules.answer ⟨"a1.log".toList, isDirectory⟩).ignored := by
  have hnames : ∀ line ∈ nameLines, ∀ rule ∈ Rule.ofLine? line,
      rule.anchored = false ∧ .doubleStar ∉ Glob.tokens rule.body ∧
        ∀ token ∈ Glob.tokens rule.body, ¬ token.IsClass := by
    decide +kernel
  obtain ⟨rules, hrules, hanswer⟩ := answer_lastSegment hnames (some "r".toList)
  have hname : lastSegment "/x//a1.log".toList = "a1.log".toList := by decide
  have hlocation : (ofLines nameLines (some "r".toList)).toOption.map
      (fun rules => (rules.answer ⟨"a1.log".toList, false⟩).location) = some "r:3".toList := by
    decide +kernel
  rw [hrules] at hlocation
  refine ⟨hnames, rules, hrules, ?_, fun isDirectory => ?_⟩
  · obtain ⟨_, hdeciding⟩ := hanswer "/x//a1.log".toList false
    rw [Decision.location, hdeciding, hname]
    exact Option.some.inj hlocation
  · obtain ⟨hignored, _⟩ := hanswer "/x//a1.log".toList isDirectory
    rw [hignored, hname]

end RuleSet

end IgnoreRules
