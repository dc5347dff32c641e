import IgnoreRules.Proofs.Translation

/-!
# Without an anchor, any segment will do

A body without an anchor gets an optional group in front of its expression. A class of
the body may have a content that makes the reader run on over the tokens behind it, so
nothing can be said about the rest token by token. Nor need it be: the group is read off
the front of any text and leaves that text as it was, so what is read behind it, or the
fault that is found there, is the one that the body has with an anchor.

The group takes nothing, or a piece that ends in a slash. What the rest matches is then
the path itself, or what stands behind one of its slashes.
-/

namespace IgnoreRules

namespace Regex

/-- The expression behind any leading segments. -/
def behindSegments (regex : Regex) : Regex :=
  ⟨.optional [.many .any, .one (.single '/')] :: regex.items⟩

/-- Leading segments take nothing, or all up to some slash. -/
theorem behindSegments_matches_iff {regex : Regex} {path : List Char} :
    regex.behindSegments.Matches path ↔
      regex.Matches path ∨ ∃ lead rest, path = lead ++ '/' :: rest ∧ regex.Matches rest := by
  rw [Matches, behindSegments, cut_cons_iff]
  simp only [Glob.leadingSegments_takes_iff]
  constructor
  · intro h
    obtain ⟨piece, rest, hpiece, hrest, hpath⟩ := h
    rcases hpiece with hnil | hslash
    · rw [hnil, List.nil_append] at hpath
      rw [← hpath]
      exact .inl hrest
    · obtain ⟨lead, hpiece⟩ := List.getLast?_eq_some_iff.1 hslash
      rw [hpiece, List.append_assoc, List.singleton_append] at hpath
      exact .inr ⟨lead, rest, hpath.symm, hrest⟩
  · intro h
    rcases h with hpath | ⟨lead, rest, hpath, hrest⟩
    · exact ⟨[], path, .inl rfl, hpath, rfl⟩
    · refine ⟨lead ++ ['/'], rest, .inr List.getLast?_concat, hrest, ?_⟩
      rw [hpath, List.append_assoc, List.singleton_append]

end Regex

namespace Glob

/-- The optional group changes nothing about the rest of the expression, be it one or
not. -/
theorem regex_unanchored (body : List Char) :
    Glob.regex body false = (Glob.regex body true).map Regex.behindSegments := by
  show Regex.read (leadingSegments ++ expression body) = (Regex.read (expression body)).map _
  rw [Regex.read, Regex.read, readItems_leadingSegments]
  cases Regex.readItems (expression body) <;> rfl

/-- A body without an anchor is refused just when it is with one, and for the same fault.
If it is not, it matches the paths that it matches with an anchor, and those in which such
a path stands behind a slash. -/
theorem regex_matches_any_segment (body : List Char) :
    (∀ fault, Glob.regex body false = .error fault ↔ Glob.regex body true = .error fault) ∧
    ((∃ free, Glob.regex body false = .ok free) ↔ ∃ top, Glob.regex body true = .ok top) ∧
    ∀ free top, Glob.regex body false = .ok free → Glob.regex body true = .ok top →
      ∀ path, free.fullMatch path = true ↔
        top.fullMatch path = true ∨
          ∃ lead rest, path = lead ++ '/' :: rest ∧ top.fullMatch rest = true := by
  rw [regex_unanchored]
  refine ⟨fun fault => map_eq_error_iff, ?_, fun free top hfree htop path => ?_⟩
  · simp only [map_eq_ok_iff]
    constructor
    · intro h
      obtain ⟨_, top, htop, _⟩ := h
      exact ⟨top, htop⟩
    · intro h
      obtain ⟨top, htop⟩ := h
      exact ⟨top.behindSegments, top, htop, rfl⟩
  · rw [htop] at hfree
    cases hfree
    simp only [Regex.fullMatch_iff, Regex.behindSegments_matches_iff]

/-- The class runs on over the star: its bracket is escaped, and it ends in the bracket of
the star's own class, which leaves only the repetition of it. -/
theorem regex_matches_any_segment_of_running_class :
    tokens "[\\]*".toList = [.charClass ['\\'] false, .star] ∧
      ∃ free top, Glob.regex "[\\]*".toList false = .ok free ∧
        Glob.regex "[\\]*".toList true = .ok top ∧ top.items.length = 1 ∧
        ∀ path, free.fullMatch path = true ↔
          top.fullMatch path = true ∨
            ∃ lead rest, path = lead ++ '/' :: rest ∧ top.fullMatch rest = true := by
  obtain ⟨-, hreads, hmatch⟩ := regex_matches_any_segment "[\\]*".toList
  have htop : Glob.regex "[\\]*".toList true =
      .ok ⟨[.step (.many ⟨false, [.code 93, .code 91, .code 94, .code 47]⟩)]⟩ := by
    decide +kernel
  obtain ⟨free, hfree⟩ := hreads.2 ⟨_, htop⟩
  exact ⟨by cbv, free, _, hfree, htop, rfl, hmatch free _ hfree htop⟩

end Glob

end IgnoreRules
