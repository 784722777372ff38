import CommandDocs.Proofs.CommandLine.Sessions
import CommandDocs.Proofs.Corpus.Failures
import CommandDocs.Proofs.Corpus.Suffixes
import CommandDocs.Proofs.File.Spelling

/-!
# How generation commands end

A generation command ends cleanly when it prints what it wrote, or prints one error and nothing
else. With an ordinary baseline it does so whatever paths it is given, apart from a few obstacles.
An option may lack its value, a path that is looked at may be too long, and the log may not be
opened. The failure of a log that is not opened always escapes.
-/

namespace CommandDocs

/-! ### Errors that are printed -/

/-- Only one name of a level begins like a report of an error. -/
theorem Level.name_eq_error_or (level : Level) :
    level.name = "ERROR" ∨ ∃ c more, level.name = c :: more ∧ c ≠ .scalar 'E' := by
  rw [name]
  repeat' split
  all_goals first
    | exact Or.inl rfl
    | exact Or.inr ⟨_, _, rfl, by decide⟩

namespace Report

/-- Does a line report an error? -/
def isError (line : Text) : Bool := line.startsWith "ERROR: "

/-- A report of an error is one. -/
theorem isError_error (message : Text) : isError (error message) = true :=
  List.isPrefixOf_iff_prefix.mpr (List.prefix_append _ _)

/-- A line about an event begins with a level and a space, so that it is no report of an error. -/
theorem isError_of_compact {r : LogRecord} {line : Text} (h : LogFormat.compact r = .ok line) :
    isError line = false := by
  rw [LogFormat.compact, bind_eq_ok] at h
  obtain ⟨⟨event, fields⟩, -, h⟩ := h
  cases h
  rw [← Bool.not_eq_true, isError, Text.startsWith, List.isPrefixOf_iff_prefix]
  intro hline
  obtain ⟨more, hmore⟩ := hline.trans (List.rdropWhile_prefix _ _)
  rw [List.append_assoc, List.append_assoc, List.append_assoc] at hmore
  rcases r.level.name_eq_error_or with hname | ⟨c, rest, hname, hc⟩
  · -- the colon would have to be the space
    have hsplit : ("ERROR: " : Text) = ("ERROR" : Text) ++ (": " : Text) := rfl
    rw [hname, hsplit, List.append_assoc] at hmore
    exact absurd (List.cons.inj (List.append_cancel_left hmore)).1 (by decide)
  · rw [hname] at hmore
    exact hc (List.cons.inj hmore).1.symm

end Report

/-- A run that ends cleanly prints no error, or it prints one error and no other output and tells
this by its exit code. -/
def Ending.IsClean : Ending → Prop
  | .exit code output errors =>
    code = 0 ∧ errors.countP Report.isError = 0 ∨
      code = 1 ∧ errors.countP Report.isError = 1 ∧ output = []
  | .usage _ => False
  | .escape _ => False

namespace Program

variable {env : Surroundings} {roots : ArgumentRoots} {fs : FileSystem} {s s' : RunState}
  {arguments : GenerateArguments} {outcome : Except Failure (List Text)} {failure : Failure}

/-- No line about an event reports an error. -/
theorem countP_shownEvents (verbose : Bool) (s : RunState) :
    (shownEvents verbose s).countP Report.isError = 0 := by
  rw [List.countP_eq_zero]
  intro line hline
  obtain ⟨e, -, he⟩ := List.mem_filterMap.mp hline
  cases hcompact : LogFormat.compact (s.recordOf e) with
  | error fault =>
    rw [hcompact] at he
    cases he
  | ok shown =>
    rw [hcompact] at he
    cases he
    rw [Report.isError_of_compact hcompact]
    exact Bool.false_ne_true

/-- What a generation command prints when nothing fails. -/
theorem run_perform_generate
    (h : (generate env arguments).run.run (initial env fs) = (outcome, s)) :
    (perform env (.generate arguments)).run.run (initial env fs) =
      (outcome.map fun lines => (0, lines, []), s) := by
  rw [perform, Run.run_bind, h]
  cases outcome with
  | ok lines => rfl
  | error failure => rfl

/-- A command that fails with a report, if at all, ends cleanly. -/
theorem isClean_runCommand
    (h : (generate env arguments).run.run (initial env fs) = (outcome, s))
    (hreported : ∀ failure, outcome = .error failure → failure.isReported = true) :
    (runCommand env fs (.generate arguments)).1.IsClean := by
  have hperform := run_perform_generate h
  rw [initial] at hperform
  rw [runCommand, hperform]
  cases outcome with
  | ok lines => exact Or.inl ⟨rfl, by rw [List.append_nil, countP_shownEvents]⟩
  | error failure =>
    dsimp only [Except.map]
    rw [if_pos (hreported failure rfl)]
    refine Or.inr ⟨rfl, ?_, rfl⟩
    rw [List.countP_append, countP_shownEvents, List.countP_singleton, Report.isError_error]
    rfl

/-- Any other failure escapes. -/
theorem escape_of_runCommand
    (h : (generate env arguments).run.run (initial env fs) = (.error failure, s))
    (hreported : failure.isReported = false) :
    (runCommand env fs (.generate arguments)).1 = .escape failure := by
  have hperform := run_perform_generate h
  rw [initial] at hperform
  rw [runCommand, hperform]
  dsimp only [Except.map]
  rw [hreported]
  rfl

/-! ### Obstacles -/

/-- A log is not opened: a directory above it cannot be made, or it cannot be written. -/
def RefusesLog (fs : FileSystem) (log : Path) (e : FileError) : Prop :=
  (fs.ensureDirectories log.parent).1 = .error e ∨
    (fs.ensureDirectories log.parent).1 = .ok () ∧
      (fs.ensureDirectories log.parent).2.appendFile log [] = .error e

/-- What can keep a generation command from ending cleanly, and the failure that escapes. -/
inductive Obstacle (env : Surroundings) (fs : FileSystem) (arguments : GenerateArguments) :
    Failure → Prop
  /-- The suffix has no value. -/
  | noSuffix (hsuffix : arguments.suffix = .nothing) : Obstacle env fs arguments (.noValue .suffix)
  /-- An argument that names a file has no value. -/
  | noPath {option : Text}
    (hvalue : (option, .nothing) ∈ (Command.generate arguments).pathArguments) :
    Obstacle env fs arguments (.noValue .path)
  /-- A path that is checked is too long. -/
  | tooLong {option : Text} {value : OptionValue} {p : Path}
    (hvalue : (option, value) ∈ [(("--baseline" : Text), arguments.baseline),
      ("--docs", arguments.pages), ("--output", arguments.output)])
    (hp : pathOf (rootsOf env fs) option value = .ok p) (hlong : fs.IsTooLong p) :
    Obstacle env fs arguments (.file ⟨.nameTooLong, p⟩)
  /-- The log is not opened. -/
  | noLog {value : OptionValue} {log : Path} {e : FileError} (hvalue : arguments.log = some value)
    (hlog : pathOf (rootsOf env fs) "--log" value = .ok log) (hrefused : RefusesLog fs log e) :
    Obstacle env fs arguments (.file e)
  /-- The path of a page is too long. -/
  | page {directory : Path} {name : Text}
    (hpages : pathOf (rootsOf env fs) "--docs" arguments.pages = .ok directory)
    (hname : name ∈ fs.childNames (fs.placeOf directory))
    (hsuffix : dotted arguments.suffix = .ok (Path.splitName name).2)
    (hlong : fs.IsTooLong (directory.child name)) :
    Obstacle env fs arguments (.file ⟨.nameTooLong, directory.child name⟩)
  /-- A directory against which arguments are read cannot be told to the system. -/
  | nul {name : Text} {e : FileError}
    (hname : name ∈ env.program.parts ++ env.home.parts ++ fs.workingDirectory)
    (hnul : CodePoint.scalar '\x00' ∈ name) : Obstacle env fs arguments (.file e)

/-- An argument that is mapped to no path is refused with a report, unless it has no value. -/
theorem pathOf_eq_error {option : Text} {value : OptionValue}
    (h : pathOf roots option value = .error failure) (hreported : failure.isReported = false) :
    value = .nothing ∧ failure = .noValue .path := by
  cases value with
  | nothing =>
    cases h
    exact ⟨rfl, rfl⟩
  | text raw =>
    obtain ⟨fault, -, rfl⟩ := mapError_eq_error.mp h
    cases hreported

/-- A test that is not passed is reported, unless it has no answer. -/
theorem require_eq_error {answer : Except FileError Bool} {fault : StartupFault}
    (h : require answer fault = .error failure) (hreported : failure.isReported = false) :
    ∃ e, answer = .error e ∧ failure = .file e := by
  rw [require, bind_eq_error] at h
  rcases h with hanswer | ⟨truth, -, htruth⟩
  · exact mapError_eq_error.mp hanswer
  · cases truth with
    | true => cases htruth
    | false =>
      cases htruth
      cases hreported

/-- Without such an obstacle the suffix is accepted or refused with a report. -/
theorem obstacle_of_dotted (h : dotted arguments.suffix = .error failure)
    (hreported : failure.isReported = false) : Obstacle env fs arguments failure := by
  cases hsuffix : arguments.suffix with
  | nothing =>
    rw [hsuffix] at h
    cases h
    exact .noSuffix hsuffix
  | text suffix =>
    rw [hsuffix, dotted] at h
    generalize (if suffix.startsWith "." then suffix else "." ++ suffix) = dottedSuffix at h
    split at h
    · cases h
      cases hreported
    · cases h

/-- So are the paths. -/
theorem obstacle_of_checkPaths
    (h : checkPaths (rootsOf env fs) fs arguments.baseline arguments.pages arguments.output
      arguments.log = .error failure) (hreported : failure.isReported = false) :
    Obstacle env fs arguments failure := by
  have hunmapped {option : Text} {value : OptionValue}
      (hvalue : (option, value) ∈ (Command.generate arguments).pathArguments)
      (hpath : pathOf (rootsOf env fs) option value = .error failure) :
      Obstacle env fs arguments failure := by
    obtain ⟨rfl, rfl⟩ := pathOf_eq_error hpath hreported
    exact .noPath hvalue
  have huntested {option : Text} {value : OptionValue} {p : Path}
      {answer : Except FileError Bool} {fault : StartupFault}
      (hvalue : (option, value) ∈ [(("--baseline" : Text), arguments.baseline),
        ("--docs", arguments.pages), ("--output", arguments.output)])
      (hp : pathOf (rootsOf env fs) option value = .ok p)
      (hnode : ∀ e, answer = .error e → fs.nodeAt? p = .error e)
      (hrequire : require answer fault = .error failure) : Obstacle env fs arguments failure := by
    obtain ⟨e, hanswer, rfl⟩ := require_eq_error hrequire hreported
    obtain ⟨rfl, hlong⟩ := FileSystem.nodeAt?_eq_error.mp (hnode e hanswer)
    exact .tooLong hvalue hp hlong
  simp only [checkPaths, bind_eq_error] at h
  -- three arguments that are mapped, the log, and five checks
  rcases h with hbaseline | ⟨b, hbaseline, h⟩
  · exact hunmapped (by simp [Command.pathArguments]) hbaseline
  rcases h with hpages | ⟨d, hpages, h⟩
  · exact hunmapped (by simp [Command.pathArguments]) hpages
  rcases h with houtput | ⟨o, houtput, h⟩
  · exact hunmapped (by simp [Command.pathArguments]) houtput
  rcases h with hlog | ⟨l, -, h⟩
  · cases hvalue : arguments.log with
    | none =>
      rw [hvalue] at hlog
      cases hlog
    | some value =>
      rw [hvalue, Option.mapM_some] at hlog
      exact hunmapped (by simp [Command.pathArguments, hvalue]) (map_eq_error.mp hlog)
  rcases h with hexists | ⟨_, -, h⟩
  · exact huntested (by simp) hbaseline (fun _ => map_eq_error.mp) hexists
  rcases h with hfile | ⟨_, -, h⟩
  · exact huntested (by simp) hbaseline (fun _ => map_eq_error.mp) hfile
  rcases h with hexists | ⟨_, -, h⟩
  · exact huntested (by simp) hpages (fun _ => map_eq_error.mp) hexists
  rcases h with hdirectory | ⟨_, -, h⟩
  · exact huntested (by simp) hpages (fun _ => map_eq_error.mp) hdirectory
  rcases h with hdirectory | ⟨_, -, h⟩
  · exact huntested (by simp) houtput (fun _ h => map_eq_error.mp (map_eq_error.mp h)) hdirectory
  · cases h

end Program

/-! ### Files with a log -/

namespace RunState

open FileSystem

variable {fs : FileSystem} {s s' : RunState} {p : Path} {place : Place}

/-- Files of a run compared with those of an earlier time: all directories are where they were, and
the paths of what is new are not too long. -/
structure Keeps (fs : FileSystem) (s : RunState) : Prop where
  /-- Directories are found as before. -/
  directory : ∀ p place, fs.locate p = .ok (.present place .directory) →
    s.files.locate p = .ok (.present place .directory)
  /-- What is new could be told to the system. -/
  fits : NewFits fs s.files
  /-- The log has a resolved path. -/
  resolved : ∀ log, s.logFile = some log → log.path.IsResolved

/-- Noting an event writes to the log only. -/
theorem Keeps.note (h : s.Keeps fs) (e : LogEvent) : (s.note e).Keeps fs := by
  refine ⟨fun p place hlocate => ?_, ?_, ?_⟩
  · exact (onlyNoted_note s e).files.locate_directory (h.directory p place hlocate)
  · rw [RunState.note]
    split
    · exact h.fits
    · rename_i log hlog
      split
      · exact h.fits
      · dsimp only
        split
        · rename_i files happend
          exact h.fits.updateFile (h.resolved log hlog) happend
        · exact h.fits
  · rw [RunState.note]
    split
    · exact h.resolved
    · rename_i log hlog
      split
      · exact h.resolved
      · rintro _ ⟨⟩
        exact h.resolved log hlog

end RunState

namespace Program

open FileSystem RunState

variable {env : Surroundings} {fs : FileSystem} {s : RunState} {log : Option Path} {p : Path}
  {content : Bytes} {e : LogEvent}

/-- Opening a log makes directories and a file with paths that are not too long. -/
theorem keeps_of_openLog (hlog : ∀ l, log = some l → l.IsResolved) {u : Unit}
    (h : (openLog log).run.run (initial env fs) = (.ok u, s)) : s.Keeps fs := by
  cases log with
  | none =>
    rw [openLog, Run.run_pure_eq_ok] at h
    obtain ⟨-, rfl⟩ := h
    exact ⟨fun _ _ => id, .refl fs, fun _ hnone => by cases hnone⟩
  | some l =>
    have hresolved := hlog l rfl
    have hparent : l.parent.IsResolved :=
      ⟨hresolved.root, fun hmem => hresolved.parts (List.dropLast_subset _ hmem)⟩
    obtain ⟨-, files, happend, rfl⟩ := run_openLog_eq_ok.mp h
    refine ⟨fun p place hlocate => ?_, ?_, ?_⟩
    · have hmade := (grows_ensureDirectories fs l.parent).locate hlocate
      exact (AgreesOff.of_updateFile happend).locate_directory hmade
    · exact (newFits_ensureDirectories hparent).updateFile hresolved happend
    · rintro _ ⟨⟩
      exact hresolved

/-- The block of the first event of a command begins with a sign that JSON does not have. -/
theorem foreign_logText_note (hevents : s.events = []) (he : LogFormat.IsKnown e) :
    (s.note e).logText = [] ∨ Json.IsForeign (s.note e).logText := by
  have htext := logText_of_no_events hevents
  by_cases hlevel : e.level < Level.info
  · exact Or.inl ((logText_note_of_lt hlevel).trans htext)
  rw [logText_note hlevel, htext, List.nil_append, urgent_of_no_events hevents]
  cases hlines : LogFormat.linesOf? s.clock e with
  | none => exact Or.inl rfl
  | some lines =>
    have hentry : ⟨true, lines⟩ ∈ LogFormat.entriesOf s.clock true [e] := by
      rw [LogFormat.entriesOf, hlines]
      exact List.mem_cons_self
    obtain ⟨event, shown, hblock, -⟩ :=
      (LogFormat.isBlock_of_mem_entriesOf (List.forall_mem_singleton.mpr he) _ hentry).heading
    obtain rfl : lines = _ := hblock
    exact Or.inr ⟨_, rfl⟩

/-- Once a log is open and the first event is noted, a file holds what it held before. Text may
stand behind that, and then it is foreign. -/
theorem readFile_of_openLog (hlog : ∀ l, log = some l → l.IsResolved) {u : Unit}
    (h : (openLog log).run.run (initial env fs) = (.ok u, s)) (hp : p.IsResolved)
    (hread : fs.readFile p = .ok content) (he : LogFormat.IsKnown e) :
    ∃ tail : Text, (s.note e).files.readFile p = .ok (content ++ tail.flatMap Utf8.bytesOf) ∧
      tail.IsUnicode ∧ (tail = [] ∨ Json.IsForeign tail) := by
  have hkept (hsame : s.files.readFile p = .ok content)
      (hapart : s.logPlace? ≠ some (s.files.placeOf p)) : ∃ tail : Text,
        (s.note e).files.readFile p = .ok (content ++ tail.flatMap Utf8.bytesOf) ∧
          tail.IsUnicode ∧ (tail = [] ∨ Json.IsForeign tail) := by
    refine ⟨[], ?_, Text.isUnicode_nil, Or.inl rfl⟩
    rw [List.flatMap_nil, List.append_nil]
    exact ((onlyNoted_note s e).sameContent hapart content).mpr hsame
  cases log with
  | none =>
    rw [openLog, Run.run_pure_eq_ok] at h
    obtain ⟨-, rfl⟩ := h
    exact hkept hread (by rintro ⟨⟩)
  | some l =>
    by_cases hl : l = p
    · -- the file is the log
      subst hl
      have hlogged := (logsTo_of_openLog rfl h).note he
      obtain ⟨-, files, -, hs⟩ := run_openLog_eq_ok.mp h
      have hevents : s.events = [] := by
        rw [hs]
        rfl
      refine ⟨(s.note e).logText, ?_, hlogged.unicode, foreign_logText_note hevents he⟩
      rw [hlogged.readable, hlogged.content, initial, contentOf_of_readFile hread]
    · obtain ⟨-, files, happend, rfl⟩ := run_openLog_eq_ok.mp h
      have hopened := AgreesOff.of_updateFile happend
      have hne {files : FileSystem} : some (files.placeOf l) ≠ some (files.placeOf p) := fun heq =>
        placeOf_ne_of_isResolved (hlog l rfl) hp hl (Option.some.inj heq)
      refine hkept (hopened.readFile hne ?_) hne
      exact (grows_ensureDirectories fs l.parent).readFile hread

/-- A baseline that was ordinary JSON is tame once the first event is noted, even if it is the
log. -/
theorem isTame_of_openLog (hlog : ∀ l, log = some l → l.IsResolved) {u : Unit}
    (h : (openLog log).run.run (initial env fs) = (.ok u, s)) (hp : p.IsResolved)
    (hread : fs.readFile p = .ok content) (hordinary : IsOrdinary content)
    (he : LogFormat.IsKnown e) : (s.note e).files.IsTame p := by
  obtain ⟨tail, hfile, hunicode, hforeign⟩ := readFile_of_openLog hlog h hp hread he
  rcases hforeign with rfl | hforeign
  · rw [List.flatMap_nil, List.append_nil] at hfile
    exact isTame_of_isOrdinary hfile hordinary
  · exact isTame_of_append hfile hordinary hunicode hforeign

/-- A log that is opened is the one that its option is given. -/
theorem log_of_checkPaths {roots : ArgumentRoots} {baseline pages output : OptionValue}
    {logged : Option OptionValue} {paths : CheckedPaths} {l : Path}
    (h : checkPaths roots fs baseline pages output logged = .ok paths) (hl : paths.log = some l) :
    ∃ value, logged = some value ∧ pathOf roots "--log" value = .ok l := by
  obtain ⟨-, -, -, hmapped⟩ := paths_of_checkPaths h
  rw [hl] at hmapped
  cases logged with
  | none => cases hmapped
  | some value =>
    refine ⟨value, rfl, ?_⟩
    rw [Option.mapM_some] at hmapped
    obtain ⟨p, hp, hsame⟩ := map_eq_ok.mp hmapped
    rw [hp, Option.some.inj hsame]

/-- Only names of the directories that arguments are read against hold U+0000. -/
theorem exists_of_hasNul {option : Text} {value : OptionValue}
    (h : pathOf (rootsOf env fs) option value = .ok p) (hnul : HasNul p) :
    ∃ name ∈ env.program.parts ++ env.home.parts ++ fs.workingDirectory,
      CodePoint.scalar '\x00' ∈ name := by
  cases value with
  | nothing => cases h
  | text raw =>
    obtain ⟨name, hname, hc⟩ := List.any_eq_true.mp hnul
    rw [List.contains_iff_mem] at hc
    rcases Argument.of_mem_toPath (mapError_eq_ok.mp h) hname with hroot | hnone
    · exact ⟨name, hroot, hc⟩
    · exact absurd hc hnone

/-- Without an obstacle a run on an ordinary baseline breaks off with a report, if at all. -/
theorem obstacle_of_run {arguments : GenerateArguments} {suffix : Text} {paths : CheckedPaths}
    {isPlaceholder : PlaceholderTest} {failure : Failure} {s' : RunState}
    (hsuffix : dotted arguments.suffix = .ok suffix)
    (hpaths : checkPaths (rootsOf env fs) fs arguments.baseline arguments.pages arguments.output
      arguments.log = .ok paths)
    (hopen : (openLog paths.log).run.run (initial env fs) = (.ok (), s))
    (hbaseline : ∀ content, fs.readFile paths.baseline = .ok content → IsOrdinary content)
    (hrun : (Generate.run paths.toGeneratePaths suffix isPlaceholder).run.run s =
      (.error failure, s')) (hreported : failure.isReported = false) :
    Obstacle env fs arguments failure := by
  have hchecked := isChecked_of_checkPaths hpaths
  obtain ⟨-, hpages, houtput, -⟩ := paths_of_checkPaths hpaths
  have hlog (l : Path) (hl : paths.log = some l) : l.IsResolved := by
    obtain ⟨value, -, hvalue⟩ := log_of_checkPaths hpaths hl
    exact isResolved_of_pathOf hvalue
  -- the baseline when it is read
  obtain ⟨content, hread⟩ := readFile_of_isFile hchecked.file
  have htame : (Generate.begun paths.toGeneratePaths suffix s).files.IsTame paths.baseline :=
    isTame_of_openLog hlog hopen hchecked.baseline hread (hbaseline content hread)
      (LogFormat.IsOfRun.start _ _ _ _).isKnown
  have hnul : ¬HasNul paths.baseline := by
    obtain ⟨place, hlocate⟩ := readFile_eq_ok.mp hread
    exact (locate_iff.mp hlocate).1.1
  -- the directory when its pages are listed
  obtain ⟨place, hdirectory⟩ := isDirectory_eq_true.mp hchecked.directory
  have hkeeps (entries : ℕ) : (Generate.loaded paths.toGeneratePaths suffix s entries).Keeps fs :=
    ((keeps_of_openLog hlog hopen).note _).note _
  have hafter (entries : ℕ) := (hkeeps entries).directory _ _ hdirectory
  rcases Generate.failure_of_run htame hnul (fun entries => ⟨place, hafter entries⟩) hrun with
    hall | ⟨hnone, e, rfl⟩ | ⟨entries, name, hentry, rfl, hlong, rfl⟩
  · rw [hreported] at hall
    cases hall
  · obtain ⟨name, hname, hc⟩ := exists_of_hasNul houtput hnone
    exact .nul hname hc
  · have hname : name ≠ Path.parentName := by
      rintro rfl
      obtain ⟨more, hmore, -⟩ := exists_of_dotted hsuffix
      cases hmore
    obtain ⟨hbefore, hlong⟩ := (hkeeps entries).fits.isTooLong_child hchecked.pages hdirectory
      (hafter entries) hname hentry hlong
    exact .page hpages hbefore hsuffix hlong

/-- Without an obstacle a generation command fails with a report, if at all. -/
theorem obstacle_of_generate {arguments : GenerateArguments} {failure : Failure}
    (hbaseline : ∀ p content, pathOf (rootsOf env fs) "--baseline" arguments.baseline = .ok p →
      fs.readFile p = .ok content → IsOrdinary content)
    (h : (generate env arguments).run.run (initial env fs) = (.error failure, s))
    (hreported : failure.isReported = false) : Obstacle env fs arguments failure := by
  generalize houtcome : Except.error failure = outcome at h
  cases generated_of_run h with
  | noSuffix hsuffix =>
    cases houtcome
    exact obstacle_of_dotted hsuffix hreported
  | noPaths hsuffix hpaths =>
    cases houtcome
    exact obstacle_of_checkPaths hpaths hreported
  | @noLog _ paths _ _ hsuffix hpaths hopen =>
    cases houtcome
    cases hl : paths.log with
    | none =>
      rw [hl] at hopen
      exact absurd hopen (Run.run_pure_ne_error _ _)
    | some l =>
      rw [hl] at hopen
      obtain ⟨-, e, rfl, hrefused⟩ := run_openLog_eq_error.mp hopen
      obtain ⟨value, hvalue, hlog⟩ := log_of_checkPaths hpaths hl
      exact .noLog hvalue hlog hrefused
  | @run _ _ _ _ outcome hsuffix hpaths hopen hrun =>
    obtain rfl : outcome = .error failure := map_eq_error.mp houtcome.symm
    exact obstacle_of_run hsuffix hpaths hopen
      (hbaseline _ · (paths_of_checkPaths hpaths).1) hrun hreported

/-- A command whose arguments are accepted but whose log is not opened fails with the error. -/
theorem run_generate_of_refusesLog {arguments : GenerateArguments} {suffix : Text}
    {paths : CheckedPaths} {l : Path} {e : FileError}
    (hsuffix : dotted arguments.suffix = .ok suffix)
    (hpaths : checkPaths (rootsOf env fs) fs arguments.baseline arguments.pages arguments.output
      arguments.log = .ok paths) (hl : paths.log = some l) (hrefused : RefusesLog fs l e) :
    ∃ s, (generate env arguments).run.run (initial env fs) = (.error (.file e), s) := by
  have hopen := run_openLog_eq_error (s := initial env fs).mpr ⟨rfl, e, rfl, hrefused⟩
  rw [run_generate_of_checkPaths hsuffix hpaths, bind_assoc, hl, Run.run_bind, hopen]
  exact ⟨_, rfl⟩

/-! ### Endings -/

/-- How a generation command ends whose baseline, if there is one to read, is ordinary JSON. Unless
it meets an obstacle it ends cleanly, whatever paths it is given; with an obstacle the failure may
escape. It does escape when all arguments are accepted but the log is not opened. -/
theorem ending_of_generate {command : List Text} {arguments : GenerateArguments}
    (hread : Command.read command = .ok (.generate arguments))
    (hbaseline : ∀ p content, pathOf (rootsOf env fs) "--baseline" arguments.baseline = .ok p →
      fs.readFile p = .ok content → IsOrdinary content) :
    ((run env fs command).1.IsClean ∨
        ∃ failure, (run env fs command).1 = .escape failure ∧ Obstacle env fs arguments failure) ∧
      ∀ suffix paths l e, dotted arguments.suffix = .ok suffix →
        checkPaths (rootsOf env fs) fs arguments.baseline arguments.pages arguments.output
          arguments.log = .ok paths →
        paths.log = some l → RefusesLog fs l e → (run env fs command).1 = .escape (.file e) := by
  have hcommand : run env fs command = runCommand env fs (.generate arguments) := by
    rw [run, hread]
  rw [hcommand]
  constructor
  · cases hgenerate : (generate env arguments).run.run (initial env fs) with
    | mk outcome s =>
      by_cases hreported : ∀ failure, outcome = .error failure → failure.isReported = true
      · exact Or.inl (isClean_runCommand hgenerate hreported)
      · push Not at hreported
        obtain ⟨failure, rfl, hfailure⟩ := hreported
        rw [ne_eq, Bool.not_eq_true] at hfailure
        exact Or.inr ⟨failure, escape_of_runCommand hgenerate hfailure,
          obstacle_of_generate hbaseline hgenerate hfailure⟩
  · intro suffix paths l e hsuffix hpaths hl hrefused
    obtain ⟨s, hgenerate⟩ := run_generate_of_refusesLog hsuffix hpaths hl hrefused
    exact escape_of_runCommand hgenerate rfl

/-- The baseline of the sample command is an empty array. -/
theorem isOrdinary_loggedCommand (hroot : fs.workingDirectory = [])
    (hfile : fs.readFile loggedPaths.baseline = .ok ((Text.ofString "[]").flatMap Utf8.bytesOf)) :
    ∀ p content, pathOf (rootsOf loggedCommand.env fs) "--baseline" loggedArguments.baseline =
      .ok p → fs.readFile p = .ok content → IsOrdinary content := by
  intro p content hp hread
  rw [loggedArguments, pathOf_loggedCommand hroot _ (by decide)] at hp
  obtain rfl : loggedPaths.baseline = p := Except.ok.inj hp
  rw [hfile, Except.ok.injEq] at hread
  subst hread
  refine ⟨"[]", .array [], by decide, rfl, ?_, List.forall_mem_nil _⟩
  exact Json.everywhere_array.mpr ⟨trivial, List.forall_mem_nil _⟩

/-- The sample command meets no obstacle and ends cleanly. -/
theorem ending_of_generate_bareFiles :
    Command.read loggedCommand.arguments = .ok (.generate loggedArguments) ∧
      (∀ p content, pathOf (rootsOf loggedCommand.env bareFiles) "--baseline"
        loggedArguments.baseline = .ok p → bareFiles.readFile p = .ok content →
          IsOrdinary content) ∧
      (run loggedCommand.env bareFiles loggedCommand.arguments).1.IsClean := by
  have hbaseline : ∀ p content, pathOf (rootsOf loggedCommand.env bareFiles) "--baseline"
      loggedArguments.baseline = .ok p → bareFiles.readFile p = .ok content → IsOrdinary content :=
    isOrdinary_loggedCommand rfl (by decide)
  have hending := (ending_of_generate read_loggedCommand hbaseline).1
  refine ⟨read_loggedCommand, hbaseline, ?_⟩
  -- the program is not evaluated to tell how it ends
  generalize run loggedCommand.env bareFiles loggedCommand.arguments = result at hending ⊢
  rcases hending with hclean | ⟨failure, -, hobstacle⟩
  · exact hclean
  exfalso
  have hshort : ∀ raw ∈ [("base.json" : Text), ("docs" : Text), ("out.json" : Text),
      ("run.log" : Text)], ¬bareFiles.IsTooLong ⟨.slash, [raw]⟩ := by
    unfold IsTooLong
    decide
  cases hobstacle with
  | noSuffix hsuffix => cases hsuffix
  | noPath hvalue => simp [Command.pathArguments, loggedArguments] at hvalue
  | tooLong hvalue hp hlong =>
    simp only [loggedArguments, List.mem_cons, Prod.mk.injEq, List.not_mem_nil, or_false] at hvalue
    rcases hvalue with ⟨-, rfl⟩ | ⟨-, rfl⟩ | ⟨-, rfl⟩
    all_goals
      rw [pathOf_loggedCommand rfl _ (by decide), Except.ok.injEq] at hp
      rw [← hp] at hlong
      exact hshort _ (by decide) hlong
  | noLog hvalue hlog hrefused =>
    cases hvalue
    rw [pathOf_loggedCommand rfl _ (by decide), Except.ok.injEq] at hlog
    subst hlog
    rw [RefusesLog, ensureDirectories_of_present rfl] at hrefused
    rcases hrefused with hnone | ⟨-, hnone⟩
    · cases hnone
    · cases hnone
  | page hpages hname hsuffix hlong =>
    rw [loggedArguments, pathOf_loggedCommand rfl _ (by decide), Except.ok.injEq] at hpages
    have hempty : bareFiles.childNames (bareFiles.placeOf ⟨.slash, ["docs"]⟩) = [] := by decide
    rw [← hpages, hempty] at hname
    cases hname
  | nul hname hnul =>
    have hplain : ∀ name ∈ loggedCommand.env.program.parts ++ loggedCommand.env.home.parts ++
        bareFiles.workingDirectory, CodePoint.scalar '\x00' ∉ name := by decide
    exact hplain _ hname hnul

/-- The same files, with a directory in the place of the log. -/
def occupiedFiles : FileSystem where
  nodes := [
    (["base.json"], .file ((Text.ofString "[]").flatMap Utf8.bytesOf)),
    (["docs"], .directory),
    (["run.log"], .directory)]
  workingDirectory := []

/-- The same command does not end cleanly on these. -/
theorem escape_of_occupiedFiles :
    Command.read loggedCommand.arguments = .ok (.generate loggedArguments) ∧
      (∀ p content, pathOf (rootsOf loggedCommand.env occupiedFiles) "--baseline"
        loggedArguments.baseline = .ok p → occupiedFiles.readFile p = .ok content →
          IsOrdinary content) ∧
      (run loggedCommand.env occupiedFiles loggedCommand.arguments).1 =
        .escape (.file ⟨.isDirectory, sharedLog⟩) ∧
      ¬(run loggedCommand.env occupiedFiles loggedCommand.arguments).1.IsClean := by
  have hpaths : checkPaths (rootsOf loggedCommand.env occupiedFiles) occupiedFiles
      loggedArguments.baseline loggedArguments.pages loggedArguments.output loggedArguments.log =
        .ok loggedPaths :=
    checkPaths_loggedCommand rfl (by decide) (by decide) (by decide) (by decide) (by decide)
  have hrefused : RefusesLog occupiedFiles sharedLog ⟨.isDirectory, sharedLog⟩ := by
    rw [RefusesLog, ensureDirectories_of_present rfl]
    exact Or.inr ⟨rfl, by decide⟩
  obtain ⟨s, hgenerate⟩ := run_generate_of_refusesLog rfl hpaths rfl hrefused
  have hescape : (run loggedCommand.env occupiedFiles loggedCommand.arguments).1 =
      .escape (.file ⟨.isDirectory, sharedLog⟩) := by
    rw [run, read_loggedCommand]
    exact escape_of_runCommand hgenerate rfl
  refine ⟨read_loggedCommand, isOrdinary_loggedCommand rfl (by decide), hescape, ?_⟩
  rw [hescape]
  exact not_false

end Program

end CommandDocs
