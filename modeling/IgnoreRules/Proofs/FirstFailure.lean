import Mathlib.Data.List.Infix
import IgnoreRules.Proofs.LineEndings
import IgnoreRules.Proofs.NamedFiles

/-!
# Several rule files, all or none

Rule files are loaded one over the other, and one that fails takes the others with it. What a
single file fails with is settled by what its name leads to: a home directory that is not known,
nothing or a directory, bytes that are no text, or a name that is too long to be looked up. Its
lines have no say in it as long as each of them is read, and neither has the place where the
patterns are said to come from, which is worked out anew but not from anything else.

So a run of files has a result exactly if every file has one, and otherwise the fault of the
first that has none. The run is taken apart at that file; what stands behind it is not looked
at.

Two kinds of files do not fit the picture of files that are texts or reported. A file of one or
two bytes that end inside the byte order mark is no text, but it is read, as if it were empty.
And a name that is too long is refused in a way that nobody reports.
-/

namespace IgnoreRules

namespace Path

/-- The path starts in the home directory of a user who is not known. -/
def NamesUnknownHome (fs : FileSystem) (path : Path) : Prop :=
  path.anchor = .relative ∧ ∃ name rest, path.parts = ('~' :: name) :: rest ∧
    name ≠ [] ∧ fs.homes.lookup name = none

theorem expandHome?_eq_none_iff {fs : FileSystem} {path : Path} :
    path.expandHome? fs.homeOf? = none ↔ path.NamesUnknownHome fs := by
  rw [expandHome?, NamesUnknownHome]
  split
  · next name rest hanchor hparts =>
      rw [Option.map_eq_none_iff, FileSystem.homeOf?]
      by_cases hname : name = [] <;> simp [hanchor, hparts, hname]
  · next hnone =>
      simp only [reduceCtorEq, false_iff, not_and, not_exists]
      intro hanchor name rest hparts
      exact absurd hparts (hnone name rest hanchor)

end Path

namespace Lines

/-- The bytes end inside the byte order mark. -/
def CutsMark (bytes : List UInt8) : Prop :=
  bytes = [0xEF] ∨ bytes = [0xEF, 0xBB]

/-- Bytes are read as lines if they are those of a text, or end inside the mark. -/
theorem exists_ofBytes_iff {bytes : List UInt8} :
    (∃ lines, ofBytes bytes = .ok lines) ↔
      (∃ text, bytes = Utf8.encode text) ∨ CutsMark bytes := by
  constructor
  · rintro ⟨lines, h⟩
    obtain ⟨text, htext, _⟩ := map_eq_ok_iff.1 h
    replace htext := Utf8.decode_eq_ok_iff.1 htext
    rw [dropMark] at htext
    split at htext
    · next hbegins =>
        -- The beginnings of the mark are nothing, the two that are no text, and all of it.
        have hall : bytes = [] ∨ bytes = [0xEF] ∨ bytes = [0xEF, 0xBB] ∨ bytes = mark := by
          have hinits := (List.mem_inits bytes mark).2 (List.isPrefixOf_iff_prefix.1 hbegins)
          simpa [mark] using hinits
        rcases hall with rfl | rfl | rfl | rfl
        · exact .inl ⟨[], rfl⟩
        · exact .inr (.inl rfl)
        · exact .inr (.inr rfl)
        · exact .inl ⟨['\ufeff'], encode_mark.symm⟩
    · split at htext
      · next hmarked =>
          obtain ⟨rest, rfl⟩ := List.isPrefixOf_iff_prefix.1 hmarked
          rw [List.drop_left] at htext
          refine .inl ⟨'\ufeff' :: text, ?_⟩
          rw [htext, ← encode_mark]
          rfl
      · exact .inl ⟨text, htext⟩
  · rintro (⟨text, rfl⟩ | rfl | rfl)
    · obtain ⟨unmarked, hlines⟩ := exists_ofBytes (Utf8.decode_encode text)
      exact ⟨_, hlines⟩
    · exact exists_of_isOk (by decide +kernel)
    · exact exists_of_isOk (by decide +kernel)

theorem not_text_of_ofBytes {bytes : List UInt8} {detail : Utf8.Fault}
    (h : ofBytes bytes = .error detail) :
    (∀ text, bytes ≠ Utf8.encode text) ∧ ¬ CutsMark bytes := by
  have hnone : ¬ ∃ lines, ofBytes bytes = .ok lines := by simp [h]
  rwa [exists_ofBytes_iff, not_or, not_exists] at hnone

end Lines

namespace RuleFile

/-- The name leads to a file that is read: one with a text, or one that ends inside the byte
order mark. -/
def Readable (fs : FileSystem) (root path : Path) : Prop :=
  ∃ place bytes, resolve fs root path = .ok place ∧ fs.isTooLong place = false ∧
    fs.find? place = some (.file bytes) ∧
    ((∃ text, bytes = Utf8.encode text) ∨ Lines.CutsMark bytes)

/-- What is wrong with a rule file that is not read. -/
inductive Fails (fs : FileSystem) (root path : Path) : SourceFault → Prop where
  /-- Its path starts in the home directory of a user who is not known. -/
  | unknownHome (hhome : path.NamesUnknownHome fs) : Fails fs root path .unknownHome
  /-- Its path cannot be looked up. -/
  | tooLong {place : Path} (hplace : resolve fs root path = .ok place)
      (hlength : fs.isTooLong place = true) : Fails fs root path .tooLong
  /-- Its path leads to nothing, or to a directory. -/
  | notFound {place : Path} (hplace : resolve fs root path = .ok place)
      (hlength : fs.isTooLong place = false)
      (habsent : fs.find? place = none ∨ fs.find? place = some .directory) :
      Fails fs root path (.notFound place)
  /-- Its bytes are not those of a text. -/
  | undecodable {place : Path} {bytes : List UInt8} {detail : Utf8.Fault}
      (hplace : resolve fs root path = .ok place) (hlength : fs.isTooLong place = false)
      (hfile : fs.find? place = some (.file bytes)) (hbytes : ∀ text, bytes ≠ Utf8.encode text)
      (hmark : ¬ Lines.CutsMark bytes) (hdetail : Lines.ofBytes bytes = .error detail) :
      Fails fs root path (.undecodable place detail)

section

variable {fs : FileSystem} {root path : Path}

theorem exists_resolve (root : Path) (hhome : ¬ path.NamesUnknownHome fs) :
    ∃ place, resolve fs root path = .ok place := by
  rw [resolve]
  split
  · next hnone => exact absurd (Path.expandHome?_eq_none_iff.1 hnone) hhome
  · exact ⟨_, rfl⟩

theorem resolve_unknownHome (root : Path) (hhome : path.NamesUnknownHome fs) :
    resolve fs root path = .error .unknownHome := by
  rw [resolve, Path.expandHome?_eq_none_iff.2 hhome]

section

variable {place : Path} (hplace : resolve fs root path = .ok place)

include hplace

theorem readLines_tooLong (hlength : fs.isTooLong place = true) :
    readLines fs root path = .error .tooLong := by
  refine bind_eq_error_iff.2 (.inl (bind_eq_error_iff.2 (.inr ⟨place, hplace, ?_⟩)))
  rw [if_pos hlength]
  rfl

variable (hlength : fs.isTooLong place = false)

include hlength

theorem readLines_absent (habsent : fs.find? place = none ∨ fs.find? place = some .directory) :
    readLines fs root path = .error (.notFound place) := by
  refine readLines_notFound_iff.2 ⟨locate_eq_ok_iff.2 ⟨hplace, hlength⟩, ?_⟩
  rcases habsent with h | h <;> simp [FileSystem.isFile, FileSystem.bytes?, h]

theorem readLines_file {bytes : List UInt8} (hfile : fs.find? place = some (.file bytes)) :
    readLines fs root path = (Lines.ofBytes bytes).mapError (.undecodable place) := by
  have hbytes : fs.bytes? place = some bytes := by simp [FileSystem.bytes?, hfile]
  rw [readLines, locate_eq_ok_iff.2 ⟨hplace, hlength⟩]
  dsimp only [bind, Except.bind]
  rw [hbytes]

end

/-- Whatever a path leads to, the file is one to be read, or has something wrong with it. -/
theorem readable_or_fails (fs : FileSystem) (root path : Path) :
    Readable fs root path ∨ ∃ fault, Fails fs root path fault := by
  by_cases hhome : path.NamesUnknownHome fs
  · exact .inr ⟨_, .unknownHome hhome⟩
  obtain ⟨place, hplace⟩ := exists_resolve root hhome
  cases hlength : fs.isTooLong place with
  | true => exact .inr ⟨_, .tooLong hplace hlength⟩
  | false =>
      rcases hfind : fs.find? place with _ | bytes | _
      · exact .inr ⟨_, .notFound hplace hlength (.inl hfind)⟩
      · cases hlines : Lines.ofBytes bytes with
        | ok lines =>
            have htext := Lines.exists_ofBytes_iff.1 ⟨lines, hlines⟩
            exact .inl ⟨place, bytes, hplace, hlength, hfind, htext⟩
        | error detail =>
            obtain ⟨htext, hmark⟩ := Lines.not_text_of_ofBytes hlines
            exact .inr ⟨_, .undecodable hplace hlength hfind htext hmark hlines⟩
      · exact .inr ⟨_, .notFound hplace hlength (.inr hfind)⟩

theorem Readable.exists_readLines (h : Readable fs root path) :
    ∃ lines, readLines fs root path = .ok lines := by
  obtain ⟨place, bytes, hplace, hlength, hfile, htext⟩ := h
  obtain ⟨lines, hlines⟩ := Lines.exists_ofBytes_iff.2 htext
  refine ⟨lines, ?_⟩
  rw [readLines_file hplace hlength hfile, hlines]
  rfl

theorem Fails.readLines_eq {fault : SourceFault} (h : Fails fs root path fault) :
    readLines fs root path = .error fault := by
  cases h with
  | unknownHome hhome =>
      exact bind_eq_error_iff.2 (.inl (bind_eq_error_iff.2 (.inl (resolve_unknownHome root hhome))))
  | tooLong hplace hlength => exact readLines_tooLong hplace hlength
  | notFound hplace hlength habsent => exact readLines_absent hplace hlength habsent
  | undecodable hplace hlength hfile _ _ hdetail =>
      rw [readLines_file hplace hlength hfile, hdetail]
      rfl

/-! ## Loading -/

section

variable (hlines : ∀ lines, readLines fs root path = .ok lines → ∀ line ∈ lines,
  ∃ pattern?, Pattern.ofLine? line none none = .ok pattern?)

include hlines

/-- If its lines are read, a file that is read is loaded. -/
theorem Readable.exists_load (h : Readable fs root path) :
    ∃ rules, load fs root path = .ok rules := by
  obtain ⟨lines, hread⟩ := h.exists_readLines
  obtain ⟨place, _, hplace, _⟩ := h
  obtain ⟨rules, hrules⟩ := RuleSet.exists_ofLines (some (compactHome fs.home place.toText))
    (hlines lines hread)
  exact ⟨rules, load_eq_ok_iff.2 ⟨lines, place, hread, hplace, hrules⟩⟩

omit hlines in
/-- A file that is not read is not loaded, and for the same reason. -/
theorem Fails.load_eq {fault : SourceFault} (h : Fails fs root path fault) :
    load fs root path = .error fault :=
  bind_eq_error_iff.2 (.inl h.readLines_eq)

theorem exists_load_iff : (∃ rules, load fs root path = .ok rules) ↔ Readable fs root path := by
  refine ⟨fun ⟨rules, hrules⟩ => ?_, fun h => h.exists_load hlines⟩
  refine (readable_or_fails fs root path).resolve_right fun ⟨fault, hfault⟩ => ?_
  rw [hfault.load_eq] at hrules
  cases hrules

theorem load_eq_error_iff {fault : SourceFault} :
    load fs root path = .error fault ↔ Fails fs root path fault := by
  refine ⟨fun h => ?_, fun h => h.load_eq⟩
  rcases readable_or_fails fs root path with hread | ⟨other, hother⟩
  · obtain ⟨rules, hrules⟩ := Readable.exists_load hlines hread
    rw [h] at hrules
    cases hrules
  · have hsame : Except.error fault = .error other := h.symm.trans hother.load_eq
    rw [Except.error.inj hsame]
    exact hother

end

end

/-! ## Several files -/

variable {fs : FileSystem} {root : Path} {paths : List Path}

/-- Several files give the patterns of all, one file after the other. -/
theorem loadAll_eq_ok_iff {rules : RuleSet} :
    loadAll fs root paths = .ok rules ↔ ∃ parts,
      List.Forall₂ (fun path part => load fs root path = .ok part) paths parts ∧
        rules.patterns = parts.flatMap RuleSet.patterns := by
  induction paths generalizing rules with
  | nil =>
      constructor
      · intro h
        cases h
        exact ⟨[], .nil, rfl⟩
      · rintro ⟨_, hparts, hpatterns⟩
        cases hparts
        exact congrArg Except.ok (congrArg RuleSet.mk hpatterns.symm)
  | cons path paths ih =>
      rw [loadAll_cons_eq_ok_iff]
      constructor
      · rintro ⟨first, others, hfirst, hothers, rfl⟩
        obtain ⟨parts, hparts, hpatterns⟩ := ih.1 hothers
        refine ⟨first :: parts, .cons hfirst hparts, ?_⟩
        rw [RuleSet.append_patterns, hpatterns, List.flatMap_cons]
      · rintro ⟨_, hparts, hpatterns⟩
        cases hparts with
        | cons hfirst hlater =>
            rename_i first parts
            refine ⟨first, ⟨parts.flatMap RuleSet.patterns⟩, hfirst, ih.2 ⟨parts, hlater, rfl⟩, ?_⟩
            rw [List.flatMap_cons] at hpatterns
            exact congrArg RuleSet.mk hpatterns.symm

theorem exists_loadAll_iff :
    (∃ rules, loadAll fs root paths = .ok rules) ↔
      ∀ path ∈ paths, ∃ rules, load fs root path = .ok rules := by
  induction paths with
  | nil => exact ⟨fun _ => List.forall_mem_nil _, fun _ => ⟨.empty, rfl⟩⟩
  | cons path paths ih =>
      rw [List.forall_mem_cons, ← ih]
      constructor
      · rintro ⟨rules, h⟩
        obtain ⟨first, others, hfirst, hothers, _⟩ := loadAll_cons_eq_ok_iff.1 h
        exact ⟨⟨first, hfirst⟩, others, hothers⟩
      · rintro ⟨⟨first, hfirst⟩, others, hothers⟩
        exact ⟨first ++ others, loadAll_cons_eq_ok_iff.2 ⟨first, others, hfirst, hothers, rfl⟩⟩

/-- Several rule files are loaded exactly if each of them can be read, and then give the
patterns of one after the other. Otherwise the first that cannot be read decides, with what is
wrong with it: its path starts in a home directory that is not known, or it cannot be looked up,
or leads to no file, or to bytes that are no text. -/
theorem loadAll_first_failure
    (hlines : ∀ path ∈ paths, ∀ lines, readLines fs root path = .ok lines → ∀ line ∈ lines,
      ∃ pattern?, Pattern.ofLine? line none none = .ok pattern?) :
    ((∃ rules, loadAll fs root paths = .ok rules) ↔ ∀ path ∈ paths, Readable fs root path) ∧
    (∀ rules, loadAll fs root paths = .ok rules ↔ ∃ parts,
      List.Forall₂ (fun path part => load fs root path = .ok part) paths parts ∧
        rules.patterns = parts.flatMap RuleSet.patterns) ∧
    ∀ fault, loadAll fs root paths = .error fault ↔ ∃ before path after,
      paths = before ++ path :: after ∧ (∀ earlier ∈ before, Readable fs root earlier) ∧
        Fails fs root path fault := by
  have hload : ∀ path ∈ paths,
      ((∃ rules, load fs root path = .ok rules) ↔ Readable fs root path) :=
    fun path hmem => exists_load_iff (hlines path hmem)
  refine ⟨?_, fun _ => loadAll_eq_ok_iff, fun fault => ?_⟩
  · rw [exists_loadAll_iff]
    exact forall₂_congr hload
  · refine loadAll_eq_error_iff.trans (exists₃_congr fun before path after =>
      and_congr_right fun hpaths => ?_)
    have hpath : path ∈ paths := hpaths ▸ List.mem_append_right before (.head after)
    rw [load_eq_error_iff (hlines path hpath)]
    refine and_congr_left fun _ => forall₂_congr fun earlier hmem => hload earlier ?_
    rw [hpaths]
    exact List.mem_append_left _ hmem

/-- A rule file, a file that is no text, and one that ends inside the byte order mark. -/
def mixedFiles : FileSystem :=
  .below [
    (["rules"], "*.log\n".toUTF8.data.toList),
    (["bytes"], [0xFF]),
    (["mark"], [0xEF])]

/-- The rule file twice, then the file that is no text, and then none. -/
def mixedPaths : List Path :=
  ["rules", "rules", "bytes", "none"].map fun name => .ofText name.toList

theorem loadAll_first_failure_mixed :
    (∀ path ∈ mixedPaths, ∀ lines,
      readLines mixedFiles mixedFiles.workingDirectory path = .ok lines → ∀ line ∈ lines,
        ∃ pattern?, Pattern.ofLine? line none none = .ok pattern?) ∧
    ∃ detail, loadAll mixedFiles mixedFiles.workingDirectory mixedPaths =
      .error (.undecodable (.ofText "/work/bytes".toList) detail) := by
  have hlines : ∀ path ∈ mixedPaths, ∀ lines,
      readLines mixedFiles mixedFiles.workingDirectory path = .ok lines → ∀ line ∈ lines,
        ∃ pattern?, Pattern.ofLine? line none none = .ok pattern? := by
    have hall : mixedPaths.all (fun path =>
        ((readLines mixedFiles mixedFiles.workingDirectory path).toOption.getD []).all fun line =>
          (Pattern.ofLine? line none none).isOk) = true := by
      decide +kernel
    intro path hmem lines hread line hline
    have hpath := List.all_eq_true.1 hall path hmem
    rw [hread] at hpath
    exact exists_of_isOk (List.all_eq_true.1 hpath line hline)
  obtain ⟨_, _, hfails⟩ := loadAll_first_failure hlines
  obtain ⟨detail, hdetail⟩ := exists_of_isOk_eq_false (by decide +kernel :
    (Lines.ofBytes [0xFF]).isOk = false)
  obtain ⟨hbytes, hmark⟩ := Lines.not_text_of_ofBytes hdetail
  have hrules : Readable mixedFiles mixedFiles.workingDirectory (.ofText "rules".toList) :=
    ⟨.ofText "/work/rules".toList, _, by decide, by decide, by decide, .inl ⟨"*.log\n".toList, rfl⟩⟩
  refine ⟨hlines, detail, (hfails _).2 ⟨["rules", "rules"].map fun name =>
    .ofText name.toList, .ofText "bytes".toList, [.ofText "none".toList], rfl, ?_, ?_⟩⟩
  · exact List.forall_mem_cons.2 ⟨hrules, List.forall_mem_singleton.2 hrules⟩
  · exact .undecodable (by decide) (by decide) (by decide) hbytes hmark hdetail

/-- A file that is no text is loaded as if it were empty; and a name that is too long to be that
of a file is not reported missing. -/
theorem loadAll_unreported :
    (mixedFiles.find? (.ofText "/work/mark".toList) = some (.file [0xEF]) ∧
      (∀ text, [0xEF] ≠ Utf8.encode text) ∧
      loadAll mixedFiles mixedFiles.workingDirectory [.ofText "mark".toList] = .ok .empty) ∧
    mixedFiles.isFile (.ofText ("/work/".toList ++ List.replicate 256 'a')) = false ∧
      loadAll mixedFiles mixedFiles.workingDirectory [.ofText (List.replicate 256 'a')] =
        .error .tooLong := by
  refine ⟨⟨by decide, fun text hbytes => ?_, ?_⟩, by decide +kernel, ?_⟩
  · have hdecode : (Utf8.decode [0xEF]).isOk = false := by decide +kernel
    rw [hbytes, Utf8.decode_encode] at hdecode
    cases hdecode
  · exact eq_ok_of_toOption (by decide +kernel)
  · have hplace : resolve mixedFiles mixedFiles.workingDirectory
        (.ofText (List.replicate 256 'a')) =
          .ok (.ofText ("/work/".toList ++ List.replicate 256 'a')) := by decide +kernel
    exact loadAll_cons_eq_error (Fails.load_eq (.tooLong hplace (by decide +kernel))) []

end RuleFile

end IgnoreRules
