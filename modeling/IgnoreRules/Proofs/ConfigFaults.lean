import IgnoreRules.Proofs.Checking
import IgnoreRules.Proofs.NamedFiles
import IgnoreRules.Proofs.ScalarFaults
import IgnoreRules.Proofs.ShownNumbers
import IgnoreRules.Proofs.TextBytes
import IgnoreRules.Proofs.TokenFaults

/-!
# Which configuration files are reported

A configuration file that cannot be used is reported in three cases: there is none, its text
is no document, or the document is no configuration. All other ways to fail were left out of
the account. They come before the text is there, where the path cannot be looked up, leads to
a directory, or leads to bytes that are no text; and they come behind it, where collections
lie too deep or a scalar is not what it is marked as. Such a failure is not reported, and the
command that it stops has no exit code.

The statement at the end goes through all that a path can lead to. For the scalars it names
the culprit: a token of the text, a scalar of the document with the wrong tag, or a number
that is too long to be shown in a report. For what lies too deep it does too: the tokens that
open collections, mappings that stand for each other, or collections to be shown in a report.
-/

namespace IgnoreRules

namespace Yaml

/-- A scalar that is written in the text cannot be read, or does not fit its tag. -/
def Misfits (text : List Char) (reason : ScalarFault) : Prop :=
  .fault (.scalar reason) ∈ Token.ofText (Lines.unifyBreaks text) ∨
    ∃ document, Document.ofTokens (Token.ofText (Lines.unifyBreaks text)) = .ok (some document) ∧
      document.HasMisfit reason

/-- Collections lie too deep in one another: so many of them are opened in the text, or so many
mappings in it stand for each other. -/
def LiesTooDeep (text : List Char) : Prop :=
  nestingLimit < 2 * (Token.ofText (Lines.unifyBreaks text)).countP Token.opens ∨
    ∃ document, Document.ofTokens (Token.ofText (Lines.unifyBreaks text)) = .ok (some document) ∧
      document.StandsTooDeep

theorem Data.misfits_of_ofText {text : List Char} {reason : ScalarFault}
    (h : ofText text = .error (.scalar reason)) : Misfits text reason := by
  rcases bind_eq_error_iff.1 h with h | ⟨document?, hdocument, h⟩
  · exact .inl (Document.dueTo_of_ofTokens h).mem_of_scalar
  · cases document? with
    | none => cases h
    | some document => exact .inr ⟨document, hdocument, Data.explains_of_ofDocument h⟩

theorem Data.liesTooDeep_of_ofText {text : List Char} (h : ofText text = .error .tooDeep) :
    LiesTooDeep text := by
  rcases bind_eq_error_iff.1 h with h | ⟨document?, hdocument, h⟩
  · exact .inl (Document.dueTo_of_ofTokens h).lt_of_tooDeep
  · cases document? with
    | none => cases h
    | some document => exact .inr ⟨document, hdocument, Data.explains_of_ofDocument h⟩

end Yaml

/-- The fault is one that is reported: there is no file, or no document in it, or no
configuration in the document. -/
def ConfigFault.IsReported : ConfigFault → Prop
  | .missing _ | .malformed _ _ | .misshapen _ _ => True
  | _ => False

theorem ConfigFault.isReported_iff {fault : ConfigFault} :
    fault.IsReported ↔ fault.message?.isSome = true := by
  cases fault <;> simp [IsReported, message?]

namespace Config

variable {fs : FileSystem} {path : Path}

/-- A text is loaded or refused with a report, unless something in it lies too deep or one of its
scalars is to blame. -/
theorem load_of_readText {text : List Char} (htext : readText fs path = .ok text) :
    (∃ config, load fs path = .ok config) ∨
    (∃ detail, load fs path = .error (.malformed path detail)) ∨
    (∃ fault, load fs path = .error (.misshapen path fault)) ∨
    (load fs path = .error .tooDeep ∧ (Yaml.LiesTooDeep text ∨ ∃ data, Holds fs path data ∧
      Yaml.NestsTooDeep data.collections)) ∨
    ∃ reason, load fs path = .error (.scalar reason) ∧
      (Yaml.Misfits text reason ∨ ∃ data n, Holds fs path data ∧ Yaml.IsOverlong n ∧
        Yaml.Mentions data.collections (.int n)) := by
  cases hload : load fs path with
  | ok config => exact .inl ⟨config, rfl⟩
  | error fault =>
      rw [load] at hload
      rcases bind_eq_error_iff.1 hload with h | ⟨text', htext', h⟩
      · rw [htext] at h
        cases h
      cases htext.symm.trans htext'
      rcases bind_eq_error_iff.1 h with h | ⟨config?, _, h⟩
      · obtain ⟨cause, hcause, rfl⟩ := mapError_eq_error_iff.1 h
        cases cause with
        | malformed reason => exact .inr (.inl ⟨reason.message, rfl⟩)
        | tooDeep =>
            refine .inr (.inr (.inr (.inl ⟨rfl, ?_⟩)))
            rcases bind_eq_error_iff.1 hcause with h | ⟨data, hdata, h⟩
            · exact .inl (Yaml.Data.liesTooDeep_of_ofText h)
            · rcases unshowable_of_ofData h with ⟨_, hdeep⟩ | ⟨h, _⟩
              · exact .inr ⟨data, ⟨text, htext, hdata⟩, hdeep⟩
              · cases h
        | scalar reason =>
            refine .inr (.inr (.inr (.inr ⟨reason, rfl, ?_⟩)))
            rcases bind_eq_error_iff.1 hcause with h | ⟨data, hdata, h⟩
            · exact .inl (Yaml.Data.misfits_of_ofText h)
            · rcases unshowable_of_ofData h with ⟨h, _⟩ | ⟨_, n, hlong, hmentions⟩
              · cases h
              · exact .inr ⟨data, n, ⟨text, htext, hdata⟩, hlong, hmentions⟩
      · obtain ⟨shape, _, rfl⟩ := mapError_eq_error_iff.1 h
        exact .inr (.inr (.inl ⟨shape, rfl⟩))

/-- What cannot be read is not loaded. -/
theorem load_of_readText_eq_error {fault : ConfigFault} (h : readText fs path = .error fault) :
    load fs path = .error fault :=
  bind_eq_error_iff.2 (.inl h)

theorem readText_of_bytes {bytes : List UInt8} (hlength : fs.isTooLong path = false)
    (hfile : fs.find? path = some (.file bytes)) :
    readText fs path = (Utf8.decode bytes).mapError .undecodable := by
  rw [readText, hlength, if_neg Bool.false_ne_true, hfile]

/-- Bytes that are not those of a text are not read. -/
theorem exists_load_undecodable {bytes : List UInt8} (hlength : fs.isTooLong path = false)
    (hfile : fs.find? path = some (.file bytes)) (hbytes : ∀ text, bytes ≠ Utf8.encode text) :
    ∃ fault, load fs path = .error (.undecodable fault) := by
  have hread := readText_of_bytes hlength hfile
  cases hdecode : Utf8.decode bytes with
  | ok text => exact absurd (Utf8.decode_eq_ok_iff.1 hdecode) (hbytes text)
  | error fault =>
      rw [hdecode] at hread
      exact ⟨fault, load_of_readText_eq_error hread⟩

end Config

namespace CommandLine

/-- What a request asks to be selected. -/
def Request.selection? : Request → Option Selection
  | .help _ => none
  | .check selection _ _ _ => some selection
  | .patterns selection => some selection

variable [Markup.Display] {fs : FileSystem} {request : Request} {selection : Selection}

theorem perform_of_error (h : request.selection? = some selection) {failure : Failure}
    (hload : selection.load fs = .error failure) : perform fs request = .error failure := by
  cases request with
  | help scope => cases h
  | check selected directory verbose paths =>
      cases h
      exact check_of_error hload directory verbose paths
  | patterns selected =>
      cases h
      rw [perform, patterns, hload]
      rfl

/-- A configuration file that is not loaded stops the command that it is meant for. -/
theorem run_of_config_error {words : List (List Char)} {path : Path} {fault : ConfigFault}
    (hwords : Request.ofWords words = .ok request) (hrequest : request.selection? = some selection)
    (hpath : selection.configFile? fs = some path) (hload : Config.load fs path = .error fault) :
    run fs words =
      if fault.message?.isSome then .ok (.ofComplaint (.failure (.config fault)))
      else .error (.config fault) := by
  have hresolve : selection.resolve fs = .error (.config fault) := by
    rw [Selection.resolve_of_configFile hpath]
    exact bind_eq_error_iff.2 (.inl (mapError_eq_error_iff.2 ⟨fault, hload, rfl⟩))
  have hselection := Selection.load_eq_error_iff.2 (.inl hresolve)
  rw [run_of_error hwords (perform_of_error hrequest hselection), Failure.message?,
    Option.isSome_map]

end CommandLine

namespace Config

open CommandLine in
/-- What a path leads to decides how a configuration is loaded from there. A missing file, a
text that is no document and a document that is no configuration are reported, with exit code
2; the other failures escape the command. -/
theorem load_reported_unless [Markup.Display] (fs : FileSystem) (path : Path) :
    (fs.isTooLong path = true → load fs path = .error .tooLong) ∧
    (fs.isTooLong path = false →
      (fs.find? path = none → load fs path = .error (.missing path)) ∧
      (fs.find? path = some .directory → load fs path = .error .directory) ∧
      ∀ bytes, fs.find? path = some (.file bytes) →
        ((∀ text, bytes ≠ Utf8.encode text) →
          ∃ fault, load fs path = .error (.undecodable fault)) ∧
        ∀ text, bytes = Utf8.encode text →
          (∃ config, load fs path = .ok config) ∨
          (∃ detail, load fs path = .error (.malformed path detail)) ∨
          (∃ fault, load fs path = .error (.misshapen path fault)) ∨
          (load fs path = .error .tooDeep ∧ (Yaml.LiesTooDeep text ∨
            ∃ data, Holds fs path data ∧ Yaml.NestsTooDeep data.collections)) ∨
          ∃ reason, load fs path = .error (.scalar reason) ∧
            (Yaml.Misfits text reason ∨ ∃ data n, Holds fs path data ∧ Yaml.IsOverlong n ∧
              Yaml.Mentions data.collections (.int n))) ∧
    ∀ fault words request selection, load fs path = .error fault →
      Request.ofWords words = .ok request → request.selection? = some selection →
      selection.configFile? fs = some path →
      (fault.IsReported → run fs words =
        .ok { output := .panels [], complaint := some (.failure (.config fault)), exitCode := 2 }) ∧
      (¬ fault.IsReported → run fs words = .error (.config fault)) := by
  refine ⟨fun hlength => ?_, fun hlength => ⟨fun hnone => ?_, fun hdirectory => ?_, ?_⟩, ?_⟩
  · refine load_of_readText_eq_error ?_
    rw [readText, if_pos hlength]
  · refine load_of_readText_eq_error ?_
    rw [readText, hlength, if_neg Bool.false_ne_true, hnone]
  · refine load_of_readText_eq_error ?_
    rw [readText, hlength, if_neg Bool.false_ne_true, hdirectory]
  · intro bytes hfile
    refine ⟨exists_load_undecodable hlength hfile, fun text hbytes => load_of_readText ?_⟩
    rw [readText_of_bytes hlength hfile, hbytes, Utf8.decode_encode]
    rfl
  · intro fault words request selection hload hwords hrequest hpath
    rw [run_of_config_error hwords hrequest hpath hload, ConfigFault.isReported_iff]
    exact ⟨fun hreported => if_pos hreported, fun hunreported => if_neg hunreported⟩

/-- A configuration file that is no text. -/
def brokenFiles : FileSystem :=
  .below [(["broken"], [0xFF])]

open CommandLine in
/-- A file that is not there is reported. -/
theorem brokenFiles_missing_reported :
    load brokenFiles (.ofText "none".toList) = .error (.missing (.ofText "none".toList)) ∧
      ∀ [Markup.Display], run brokenFiles ("check".toList ::
          checkWords [] ["none".toList] [] false false ["a".toList]) =
        .ok { output := .panels [],
              complaint := some (.failure (.config (.missing (.ofText "none".toList)))),
              exitCode := 2 } := by
  have hwords := ofWords_checkWords [] ["none".toList] [] false false
    (List.cons_ne_nil "a".toList [])
  have hload : load brokenFiles (.ofText "none".toList) =
      .error (.missing (.ofText "none".toList)) := by
    obtain ⟨_, hplaces, _⟩ := load_reported_unless brokenFiles (.ofText "none".toList)
    exact (hplaces (by decide +kernel)).1 (by decide +kernel)
  refine ⟨hload, ?_⟩
  intro display
  obtain ⟨_, _, hreports⟩ := load_reported_unless brokenFiles (.ofText "none".toList)
  exact (hreports _ _ _ _ hload hwords rfl rfl).1 trivial

theorem exists_load_broken :
    ∃ fault, load brokenFiles (.ofText "broken".toList) = .error (.undecodable fault) := by
  have hfile : brokenFiles.find? (.ofText "broken".toList) = some (.file [0xFF]) := by
    decide +kernel
  refine exists_load_undecodable (by decide +kernel) hfile fun text hbytes => ?_
  have hdecode : (Utf8.decode [0xFF]).isOk = false := by decide +kernel
  rw [hbytes, Utf8.decode_encode] at hdecode
  cases hdecode

open CommandLine in
/-- Nothing is reported, and there is no exit code. -/
theorem brokenFiles_not_reported :
    (∃ fault, load brokenFiles (.ofText "broken".toList) = .error (.undecodable fault)) ∧
      ∀ [Markup.Display], ∃ failure,
        run brokenFiles (["check", "-c", "broken", "a"].map String.toList) = .error failure := by
  refine ⟨exists_load_broken, ?_⟩
  intro display
  obtain ⟨fault, hload⟩ := exists_load_broken
  have hwords : Request.ofWords (["check", "-c", "broken", "a"].map String.toList) =
      .ok (.check ⟨[], [], some (.ofText "broken".toList)⟩ false false ["a".toList]) := by
    rfl
  rw [run_of_config_error hwords rfl rfl hload]
  exact ⟨_, rfl⟩

end Config

end IgnoreRules
