import IgnoreRules.CommandLine.Request
import IgnoreRules.Proofs.Results

/-!
# Words for a check

A check is asked for by a command line, and there are many spellings for the same request:
settings may be mixed with paths, joined to their values or put behind one dash together.
One spelling that is always there gives each setting by its letter, with its value in the
next word, and the paths behind two dashes, where nothing is taken for a setting. It reads
back as what was to be asked, so there is a command line for every choice that a check
leaves open.

In the other direction there is only this to say about a command line that asks for a
check: it names a path.
-/

namespace IgnoreRules.CommandLine

/-- Values for a setting, each behind the letter of the setting. -/
def giveEach (setting : Setting) (values : List (List Char)) : List (List Char) :=
  values.flatMap fun value => [Setting.shortName setting.letter, value]

/-- A setting without a value, if it is wanted. -/
def giveIf (setting : Setting) (wanted : Bool) : List (List Char) :=
  if wanted then [Setting.shortName setting.letter] else []

/-- The settings of a check, and its paths behind two dashes. -/
def checkWords (files configs lines : List (List Char)) (directory verbose : Bool)
    (paths : List (List Char)) : List (List Char) :=
  giveEach .rules files ++ (giveEach .config configs ++ (giveEach .pattern lines ++
    (giveIf .directory directory ++ (giveIf .verbose verbose ++ ['-', '-'] :: paths))))

namespace Arguments

/-- Puts settings in front. -/
def addSettings (settings : List (Setting × List Char)) (arguments : Arguments) : Arguments :=
  { arguments with settings := settings ++ arguments.settings }

@[simp] theorem map_addSettings_nil {arguments : Except UsageError Arguments} :
    arguments.map (addSettings []) = arguments := by
  cases arguments <;> rfl

theorem map_addSettings {first more : List (Setting × List Char)}
    {arguments : Except UsageError Arguments} :
    (arguments.map (addSettings more)).map (addSettings first) =
      arguments.map (addSettings (first ++ more)) := by
  cases arguments with
  | error fault => rfl
  | ok arguments => simp [Except.map, addSettings]

/-- A setting is given by its letter, and takes its value from the next word. -/
theorem read_value {setting : Setting} (h : setting ∈ [.rules, .config, .pattern]) (stops : Bool)
    (value : List Char) (words : List (List Char)) :
    read (.command .check) stops (Setting.shortName setting.letter :: value :: words) =
      (read (.command .check) stops words).map (addSettings [(setting, value)]) := by
  simp only [List.mem_cons, List.not_mem_nil, or_false] at h
  rw [read.eq_def]
  rcases h with rfl | rfl | rfl <;> rfl

theorem read_flag {setting : Setting} (h : setting ∈ [.directory, .verbose]) (stops : Bool)
    (words : List (List Char)) :
    read (.command .check) stops (Setting.shortName setting.letter :: words) =
      (read (.command .check) stops words).map (addSettings [(setting, [])]) := by
  simp only [List.mem_cons, List.not_mem_nil, or_false] at h
  rw [read.eq_def]
  rcases h with rfl | rfl <;> rfl

theorem read_giveEach {setting : Setting} (h : setting ∈ [.rules, .config, .pattern])
    (stops : Bool) (values words : List (List Char)) :
    read (.command .check) stops (giveEach setting values ++ words) =
      (read (.command .check) stops words).map (addSettings (values.map (setting, ·))) := by
  induction values with
  | nil => exact map_addSettings_nil.symm
  | cons value values ih =>
      show read _ _ (Setting.shortName setting.letter :: value ::
        (giveEach setting values ++ words)) = _
      rw [read_value h, ih, map_addSettings]
      rfl

theorem read_giveIf {setting : Setting} (h : setting ∈ [.directory, .verbose])
    (stops wanted : Bool) (words : List (List Char)) :
    read (.command .check) stops (giveIf setting wanted ++ words) =
      (read (.command .check) stops words).map
        (addSettings (if wanted then [(setting, [])] else [])) := by
  cases wanted with
  | false => exact map_addSettings_nil.symm
  | true => exact read_flag h stops words

theorem read_operands (scope : Scope) (stops : Bool) (operands : List (List Char)) :
    read scope stops (['-', '-'] :: operands) = .ok { settings := [], operands } := by
  rw [read.eq_def]
  rfl

/-- What the words of a check give. -/
def ofCheck (files configs lines : List (List Char)) (directory verbose : Bool)
    (paths : List (List Char)) : Arguments :=
  { settings := files.map (.rules, ·) ++ (configs.map (.config, ·) ++ (lines.map (.pattern, ·) ++
      ((if directory then [(.directory, [])] else []) ++
        if verbose then [(.verbose, [])] else [])))
    operands := paths }

theorem read_checkWords (files configs lines : List (List Char)) (directory verbose : Bool)
    (paths : List (List Char)) (stops : Bool) :
    read (.command .check) stops (checkWords files configs lines directory verbose paths) =
      .ok (ofCheck files configs lines directory verbose paths) := by
  simp [checkWords, read_giveEach, read_giveIf, read_operands, Except.map, addSettings, ofCheck]

variable (files configs lines : List (List Char)) (directory verbose : Bool)
  (paths : List (List Char))

theorem filter_given (setting other : Setting) (values : List (List Char)) :
    ((values.map (other, ·)).filter (·.1 = setting)).map (·.2) =
      if other = setting then values else [] := by
  split
  · next h => simp [h, List.filter_eq_self.2, Function.comp_def]
  · next h => simp [h, List.filter_eq_nil_iff.2]

theorem values_ofCheck :
    (ofCheck files configs lines directory verbose paths).values .rules = files ∧
    (ofCheck files configs lines directory verbose paths).values .config = configs ∧
    (ofCheck files configs lines directory verbose paths).values .pattern = lines := by
  cases directory <;> cases verbose <;> simp [values, ofCheck, List.filter_append, filter_given]

theorem has_ofCheck :
    (ofCheck files configs lines directory verbose paths).has .help = false ∧
    (ofCheck files configs lines directory verbose paths).has .directory = directory ∧
    (ofCheck files configs lines directory verbose paths).has .verbose = verbose := by
  cases directory <;> cases verbose <;> simp [has, ofCheck]

end Arguments

theorem ofCommandWords_checkWords (files configs lines : List (List Char))
    (directory verbose : Bool) {paths : List (List Char)} (hpaths : paths ≠ []) :
    Request.ofCommandWords .check (checkWords files configs lines directory verbose paths) =
      .ok (.check ⟨files.map Path.ofText, lines, configs.getLast?.map Path.ofText⟩
        directory verbose paths) := by
  obtain ⟨hfiles, hconfigs, hlines⟩ :=
    Arguments.values_ofCheck files configs lines directory verbose paths
  obtain ⟨hhelp, hdirectory, hverbose⟩ :=
    Arguments.has_ofCheck files configs lines directory verbose paths
  rw [Request.ofCommandWords, Arguments.read_checkWords]
  refine bind_eq_ok_iff.2 ⟨_, rfl, ?_⟩
  rw [hhelp, if_neg Bool.false_ne_true, hdirectory, hverbose, Arguments.selection, hfiles,
    hconfigs, hlines]
  cases paths with
  | nil => exact absurd rfl hpaths
  | cons path paths => rfl

/-- The command is the first word that counts. -/
theorem readProgramWords_check (words : List (List Char)) :
    Request.readProgramWords ("check".toList :: words) = .ok (some ("check".toList :: words)) := by
  rw [Request.readProgramWords, Arguments.read.eq_def]
  rfl

/-- Every selection that can be spelled out is that of some command line, and so is every other
choice that there is for a check. -/
theorem ofWords_checkWords (files configs lines : List (List Char)) (directory verbose : Bool)
    {paths : List (List Char)} (hpaths : paths ≠ []) :
    Request.ofWords ("check".toList :: checkWords files configs lines directory verbose paths) =
      .ok (.check ⟨files.map Path.ofText, lines, configs.getLast?.map Path.ofText⟩
        directory verbose paths) := by
  have hcommand := ofCommandWords_checkWords files configs lines directory verbose hpaths
  rw [Request.ofWords, readProgramWords_check, if_neg (List.cons_ne_nil _ _)]
  show (Request.ofCommandWords .check _).mapError _ = _
  rw [hcommand]
  rfl

/-! ## A check has paths -/

variable {selection : Selection}

theorem ofCommandWords_ne_nil {command : Command} {words : List (List Char)}
    {directory verbose : Bool} {paths : List (List Char)}
    (h : Request.ofCommandWords command words = .ok (.check selection directory verbose paths)) :
    paths ≠ [] := by
  obtain ⟨arguments, _, h⟩ := bind_eq_ok_iff.1 h
  split at h
  · cases h
  · split at h
    · cases h
    · next hsome =>
        cases h
        exact hsome
    · cases h
    · cases h

theorem refuseCommand_ne_check {word : List Char} {words : List (List Char)}
    {directory verbose : Bool} {paths : List (List Char)} :
    Request.refuseCommand word words ≠ .ok (.check selection directory verbose paths) := by
  intro h
  obtain ⟨_, _, h⟩ := bind_eq_ok_iff.1 h
  split at h <;> cases h

theorem ofWords_ne_nil {words : List (List Char)}
    {directory verbose : Bool} {paths : List (List Char)}
    (h : Request.ofWords words = .ok (.check selection directory verbose paths)) :
    paths ≠ [] := by
  rw [Request.ofWords] at h
  split at h
  · cases h
  obtain ⟨_, _, h⟩ := bind_eq_ok_iff.1 h
  split at h
  · cases h
  · cases h
  · split at h
    · exact ofCommandWords_ne_nil (mapError_eq_ok_iff.1 h)
    · exact absurd h refuseCommand_ne_check

end IgnoreRules.CommandLine
