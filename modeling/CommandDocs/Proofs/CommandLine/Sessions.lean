import CommandDocs.Proofs.Corpus.LogFile

/-!
# Commands that share a log

Commands are run one after the other, each on the files that the one before it left. When all of
them write their events to one log file, each adds its blocks behind those of the others. It puts
an empty line before each of its blocks but the first one, whatever the file holds already. So an
empty line is missing wherever the blocks of one command meet those of the next one.
-/

namespace CommandDocs

open LogFormat RunState

namespace Program

variable {env : Surroundings} {roots : ArgumentRoots} {fs : FileSystem} {s s' : RunState}
  {log : Path} {failure : Failure}

/-! ### One command -/

/-- A log is opened when the directories above it can be made and it can be written. -/
theorem run_openLog_eq_ok {u : Unit} : (openLog (some log)).run.run s = (.ok u, s') ↔
    (s.files.ensureDirectories log.parent).1 = .ok () ∧
      ∃ files, (s.files.ensureDirectories log.parent).2.appendFile log [] = .ok files ∧
        s' = { s with files, logFile := some { path := log } } := by
  simp only [openLog, Run.run_bind_eq_ok, Run.run_ensureDirectories_eq_ok, Run.run_change_eq_ok,
    mapError_eq_ok]
  constructor
  · intro h
    obtain ⟨_, _, ⟨hdirectories, rfl⟩, _, _, ⟨files, happend, rfl⟩, hmodify⟩ := h
    cases hmodify
    exact ⟨hdirectories, files, happend, rfl⟩
  · intro h
    obtain ⟨hdirectories, files, happend, rfl⟩ := h
    exact ⟨(), _, ⟨hdirectories, rfl⟩, (), _, ⟨files, happend, rfl⟩, rfl⟩

/-- A log is not opened when a directory above it cannot be made or it cannot be written. The
directories that were made stay. -/
theorem run_openLog_eq_error : (openLog (some log)).run.run s = (.error failure, s') ↔
    s' = { s with files := (s.files.ensureDirectories log.parent).2 } ∧ ∃ e, failure = .file e ∧
      ((s.files.ensureDirectories log.parent).1 = .error e ∨
        (s.files.ensureDirectories log.parent).1 = .ok () ∧
          (s.files.ensureDirectories log.parent).2.appendFile log [] = .error e) := by
  simp only [openLog, Run.run_bind_eq_error, Run.run_ensureDirectories_eq_error,
    Run.run_ensureDirectories_eq_ok, Run.run_change_eq_error, mapError_eq_error]
  constructor
  · intro h
    rcases h with ⟨e, hdirectories, rfl, rfl⟩ | ⟨_, _, ⟨hdirectories, rfl⟩, h⟩
    · exact ⟨rfl, e, rfl, Or.inl hdirectories⟩
    · rcases h with ⟨⟨e, happend, rfl⟩, rfl⟩ | ⟨_, _, -, hmodify⟩
      · exact ⟨rfl, e, rfl, Or.inr ⟨hdirectories, happend⟩⟩
      · cases hmodify
  · intro h
    obtain ⟨rfl, e, rfl, hdirectories | ⟨hdirectories, happend⟩⟩ := h
    · exact Or.inl ⟨e, hdirectories, rfl, rfl⟩
    · exact Or.inr ⟨(), _, ⟨hdirectories, rfl⟩, Or.inl ⟨⟨e, happend, rfl⟩, rfl⟩⟩

/-- Where nothing was reported the log holds what it held. -/
theorem logged_of_no_events (hevents : s.events = [])
    (hworking : s.files.workingDirectory = fs.workingDirectory)
    (hcontent : s.files.contentOf log = fs.contentOf log) : s.Logged log fs := by
  have htext := logText_of_no_events hevents
  refine ⟨hworking, ?_, ?_, ?_⟩
  · rw [hevents]
    exact List.forall_mem_nil _
  · rw [htext]
    exact Text.isUnicode_nil
  · rw [htext, hcontent, List.flatMap_nil, List.append_nil]

/-- Opening a log adds nothing to it. -/
theorem logsTo_of_openLog {u : Unit} (hevents : s.events = [])
    (h : (openLog (some log)).run.run s = (.ok u, s')) : s'.LogsTo log s.files := by
  obtain ⟨-, files, happend, rfl⟩ := run_openLog_eq_ok.mp h
  have hgrows := FileSystem.grows_ensureDirectories s.files log.parent
  have hopened := FileSystem.AgreesOff.of_updateFile happend
  have hread := FileSystem.readFile_of_update happend
  rw [List.append_nil, FileSystem.contentOf_ensureDirectories] at hread
  have hcontent := FileSystem.contentOf_of_readFile hread
  have hurgent : urgent { s with files, logFile := some { path := log } } = [] :=
    urgent_of_no_events hevents
  refine ⟨logged_of_no_events hevents ?_ hcontent, ?_, ?_⟩
  · exact hopened.workingDirectory.trans hgrows.workingDirectory
  · rw [hurgent]
    rfl
  · rw [hcontent]
    exact hread

/-- Where checked paths come from: each is the one that its option is given. -/
theorem paths_of_checkPaths {baseline pages output : OptionValue} {logged : Option OptionValue}
    {paths : CheckedPaths} (h : checkPaths roots fs baseline pages output logged = .ok paths) :
    pathOf roots "--baseline" baseline = .ok paths.baseline ∧
      pathOf roots "--docs" pages = .ok paths.pages ∧
      pathOf roots "--output" output = .ok paths.output ∧
      logged.mapM (pathOf roots "--log") = .ok paths.log := by
  simp only [checkPaths, bind_eq_ok] at h
  obtain ⟨b, hbaseline, d, hpages, o, houtput, l, hlog, _, -, _, -, _, -, _, -, _, -, hpaths⟩ := h
  cases hpaths
  exact ⟨hbaseline, hpages, houtput, hlog⟩

/-- The state in which a command begins. -/
def initial (env : Surroundings) (fs : FileSystem) : RunState := { files := fs, clock := env.clock }

/-- Everything that a generation command can come to. -/
inductive Generated (env : Surroundings) (fs : FileSystem) (arguments : GenerateArguments) :
    Except Failure (List Text) → RunState → Prop
  /-- The suffix is refused. -/
  | noSuffix {failure : Failure} (hsuffix : dotted arguments.suffix = .error failure) :
    Generated env fs arguments (.error failure) (initial env fs)
  /-- The paths are refused. -/
  | noPaths {suffix : Text} {failure : Failure} (hsuffix : dotted arguments.suffix = .ok suffix)
    (hpaths : checkPaths (rootsOf env fs) fs arguments.baseline arguments.pages arguments.output
      arguments.log = .error failure) :
    Generated env fs arguments (.error failure) (initial env fs)
  /-- The log is not opened. -/
  | noLog {suffix : Text} {paths : CheckedPaths} {failure : Failure} {s : RunState}
    (hsuffix : dotted arguments.suffix = .ok suffix)
    (hpaths : checkPaths (rootsOf env fs) fs arguments.baseline arguments.pages arguments.output
      arguments.log = .ok paths)
    (hopen : (openLog paths.log).run.run (initial env fs) = (.error failure, s)) :
    Generated env fs arguments (.error failure) s
  /-- The run is carried out. -/
  | run {suffix : Text} {paths : CheckedPaths} {s₁ s : RunState}
    {outcome : Except Failure Report.RunSummary} (hsuffix : dotted arguments.suffix = .ok suffix)
    (hpaths : checkPaths (rootsOf env fs) fs arguments.baseline arguments.pages arguments.output
      arguments.log = .ok paths)
    (hopen : (openLog paths.log).run.run (initial env fs) = (.ok (), s₁))
    (hrun : (Generate.run paths.toGeneratePaths suffix
      (placeholderTest arguments.placeholder)).run.run s₁ = (outcome, s)) :
    Generated env fs arguments (outcome.map Report.RunSummary.lines) s

/-- A generation command comes to nothing else. -/
theorem generated_of_run {arguments : GenerateArguments} {outcome : Except Failure (List Text)}
    (h : (generate env arguments).run.run (initial env fs) = (outcome, s)) :
    Generated env fs arguments outcome s := by
  cases outcome with
  | ok lines =>
    simp only [generate, Run.run_bind_eq_ok, Run.run_ask_eq_ok, Run.run_pure_eq_ok] at h
    obtain ⟨suffix, _, ⟨hsuffix, rfl⟩, paths, _, ⟨hpaths, rfl⟩, _, s₁, hopen, summary, _, hrun,
      rfl, rfl⟩ := h
    exact .run hsuffix hpaths hopen hrun
  | error failure =>
    simp only [generate, Run.run_bind_eq_error, Run.run_ask_eq_error, Run.run_ask_eq_ok,
      Run.run_pure_ne_error, and_false, exists_false, or_false] at h
    rcases h with ⟨hsuffix, rfl⟩ | ⟨suffix, _, ⟨hsuffix, rfl⟩, h⟩
    · exact .noSuffix hsuffix
    rcases h with ⟨hpaths, rfl⟩ | ⟨paths, _, ⟨hpaths, rfl⟩, hopen | ⟨_, s₁, hopen, hrun⟩⟩
    · exact .noPaths hsuffix hpaths
    · exact .noLog hsuffix hpaths hopen
    · exact .run hsuffix hpaths hopen hrun

/-- A generation command whose arguments are accepted opens its log and carries out its run. -/
theorem run_generate_of_checkPaths {arguments : GenerateArguments} {suffix : Text}
    {paths : CheckedPaths} (hsuffix : dotted arguments.suffix = .ok suffix)
    (hpaths : checkPaths (rootsOf env fs) fs arguments.baseline arguments.pages arguments.output
      arguments.log = .ok paths) :
    (generate env arguments).run.run (initial env fs) =
      ((openLog paths.log >>= fun _ => Generate.run paths.toGeneratePaths suffix
        (placeholderTest arguments.placeholder)) >>= fun summary =>
          pure summary.lines).run.run (initial env fs) := by
  have hask {α : Type} {question : FileSystem → Except Failure α} {answer : α}
      (h : question fs = .ok answer) :
      (Run.ask question).run.run (initial env fs) = (.ok answer, initial env fs) :=
    Run.run_ask_eq_ok.mpr ⟨h, rfl⟩
  rw [generate, Run.run_bind, hask hsuffix]
  dsimp only
  rw [Run.run_bind, hask hpaths, bind_assoc]

/-- A generation command whose log is another file than its output adds the blocks of its events to
the log, however it ends. -/
theorem logged_of_generate {arguments : GenerateArguments} {value : OptionValue}
    {outcome : Except Failure (List Text)} (hvalue : arguments.log = some value)
    (hlog : pathOf (rootsOf env fs) "--log" value = .ok log)
    (houtput : pathOf (rootsOf env fs) "--output" arguments.output ≠ .ok log)
    (h : (generate env arguments).run.run (initial env fs) = (outcome, s)) : s.Logged log fs := by
  have hstart : (initial env fs).Logged log fs := logged_of_no_events rfl rfl rfl
  -- a log that was mapped is the one that is opened
  have hopened {paths : CheckedPaths} (hpaths : checkPaths (rootsOf env fs) fs arguments.baseline
      arguments.pages arguments.output arguments.log = .ok paths) :
      paths.log = some log ∧ paths.output.IsResolved ∧ paths.output ≠ log := by
    obtain ⟨-, -, hout, hmapped⟩ := paths_of_checkPaths hpaths
    rw [hvalue, Option.mapM_some, hlog] at hmapped
    exact ⟨(Except.ok.inj hmapped).symm, isResolved_of_pathOf hout,
      fun heq => houtput (heq ▸ hout)⟩
  cases generated_of_run h with
  | noSuffix hsuffix => exact hstart
  | noPaths hsuffix hpaths => exact hstart
  | noLog hsuffix hpaths hopen =>
    rw [(hopened hpaths).1] at hopen
    obtain ⟨rfl, -⟩ := run_openLog_eq_error.mp hopen
    exact logged_of_no_events rfl (FileSystem.grows_ensureDirectories _ _).workingDirectory
      (FileSystem.contentOf_ensureDirectories _ _ _)
  | run hsuffix hpaths hopen hrun =>
    obtain ⟨hpath, hresolved, hne⟩ := hopened hpaths
    rw [hpath] at hopen
    exact (Generate.logsTo_of_run (logsTo_of_openLog rfl hopen) (isResolved_of_pathOf hlog)
      hresolved hne hrun).toLogged

/-! ### Commands in a row -/

/-- A command line with what surrounds it. -/
structure Invocation where
  /-- What surrounds it. -/
  env : Surroundings
  /-- The arguments. -/
  arguments : List Text

/-- The files after a command line was carried out. -/
def Invocation.filesAfter (i : Invocation) (fs : FileSystem) : FileSystem :=
  (run i.env fs i.arguments).2

/-- The state in which a command line that is understood ends. -/
def Invocation.stateAfter (i : Invocation) (fs : FileSystem) : RunState :=
  match Command.read i.arguments with
  | .error _ => initial i.env fs
  | .ok command => ((perform i.env command).run.run (initial i.env fs)).2

/-- The files after command lines were carried out one after the other. -/
def filesAfter (fs : FileSystem) (invocations : List Invocation) : FileSystem :=
  invocations.foldl (fun fs i => i.filesAfter fs) fs

/-- The blocks that the events of command lines leave in a log, in the same order. -/
def entriesAfter (fs : FileSystem) : List Invocation → List Entry
  | [] => []
  | i :: rest => (i.stateAfter fs).logEntries ++ entriesAfter (i.filesAfter fs) rest

/-- The command line is one of a generation run whose events go to the log and whose corpus does
not. -/
def Invocation.WritesTo (i : Invocation) (fs : FileSystem) (log : Path) : Prop :=
  ∃ arguments value, Command.read i.arguments = .ok (.generate arguments) ∧
    arguments.log = some value ∧ pathOf (rootsOf i.env fs) "--log" value = .ok log ∧
      pathOf (rootsOf i.env fs) "--output" arguments.output ≠ .ok log

/-- Arguments are read against the directory in which relative paths begin. -/
theorem Invocation.WritesTo.of_workingDirectory {i : Invocation} {fs' : FileSystem}
    (h : i.WritesTo fs log) (hworking : fs'.workingDirectory = fs.workingDirectory) :
    i.WritesTo fs' log := by
  have hroots : rootsOf i.env fs' = rootsOf i.env fs := by rw [rootsOf, rootsOf, hworking]
  rw [Invocation.WritesTo, hroots]
  exact h

/-- A command of this kind adds the blocks of its events to the log. -/
theorem logged_of_writesTo {i : Invocation} (h : i.WritesTo fs log) :
    (i.stateAfter fs).Logged log fs ∧ i.filesAfter fs = (i.stateAfter fs).files := by
  obtain ⟨arguments, value, hread, hvalue, hlog, houtput⟩ := h
  rw [Invocation.filesAfter, Invocation.stateAfter, run, hread]
  refine ⟨?_, rfl⟩
  dsimp only
  rw [perform, Run.state_bind_pure]
  exact logged_of_generate hvalue hlog houtput rfl

/-- What was said of one command of this kind holds of all of them in a row. -/
theorem logged_of_session {invocations : List Invocation}
    (h : ∀ i ∈ invocations, i.WritesTo fs log) :
    (∀ entry ∈ entriesAfter fs invocations, IsBlock entry.lines) ∧
      (Text.unlines (fileLines (entriesAfter fs invocations))).IsUnicode ∧
      (filesAfter fs invocations).contentOf log = fs.contentOf log ++
        (Text.unlines (fileLines (entriesAfter fs invocations))).flatMap Utf8.bytesOf := by
  induction invocations generalizing fs with
  | nil => exact ⟨List.forall_mem_nil _, Text.isUnicode_nil, (List.append_nil _).symm⟩
  | cons i rest ih =>
    rw [List.forall_mem_cons] at h
    obtain ⟨hlogged, hfiles⟩ := logged_of_writesTo h.1
    have hworking : (i.filesAfter fs).workingDirectory = fs.workingDirectory := by
      rw [hfiles]
      exact hlogged.workingDirectory
    obtain ⟨hblocks, hunicode, hcontent⟩ := ih fun other hother =>
      (h.2 other hother).of_workingDirectory hworking
    have hknown : ∀ e ∈ (i.stateAfter fs).urgent, IsKnown e := fun e he =>
      hlogged.known e (List.mem_filter.mp he).1
    rw [entriesAfter, fileLines_append, Text.unlines_append]
    refine ⟨?_, ?_, ?_⟩
    · exact List.forall_mem_append.mpr ⟨isBlock_of_mem_entriesOf hknown, hblocks⟩
    · exact Text.isUnicode_append.mpr ⟨hlogged.unicode, hunicode⟩
    · have hafter : filesAfter fs (i :: rest) = filesAfter (i.filesAfter fs) rest := rfl
      rw [hafter, hcontent, hfiles, hlogged.content, List.flatMap_append, List.append_assoc]
      rfl

/-- A log that was fresh is decoded to the text of the blocks. -/
theorem decode_of_session {invocations : List Invocation}
    (h : ∀ i ∈ invocations, i.WritesTo fs log) (hfresh : fs.contentOf log = []) :
    Utf8.decode ((filesAfter fs invocations).contentOf log) =
      .ok (Text.unlines (fileLines (entriesAfter fs invocations))) := by
  obtain ⟨-, hunicode, hcontent⟩ := logged_of_session h
  rw [hcontent, hfresh, List.nil_append]
  exact Utf8.decode_flatMap_bytesOf hunicode

/-- What a log holds that was fresh, after commands were carried out that all write their events to
it. It holds the blocks of these events in order, and does not end with an empty line. Between any
two blocks there is one empty line if and only if the first block in the file, and no other, is that
of the first event of a command; so there is none wherever a command finds blocks and writes that of
its first event behind them. -/
theorem log_of_session {invocations : List Invocation}
    (hwrites : ∀ i ∈ invocations, i.WritesTo fs log) (hfresh : fs.contentOf log = []) :
    (∀ entry ∈ entriesAfter fs invocations, IsBlock entry.lines) ∧
      Utf8.decode ((filesAfter fs invocations).contentOf log) =
        .ok (Text.unlines (fileLines (entriesAfter fs invocations))) ∧
      (∀ line ∈ (fileLines (entriesAfter fs invocations)).getLast?, line ≠ []) ∧
      (IsSeparated (Text.unlines (fileLines (entriesAfter fs invocations))) ↔
        (∀ entry ∈ (entriesAfter fs invocations).head?, entry.isFirst = true) ∧
          ∀ entry ∈ (entriesAfter fs invocations).tail, entry.isFirst = false) := by
  have hblocks := (logged_of_session hwrites).1
  exact ⟨hblocks, decode_of_session hwrites hfresh, getLast?_fileLines hblocks,
    isSeparated_iff hblocks⟩

/-- An empty baseline and a directory without pages. -/
def bareFiles : FileSystem where
  nodes := [
    (["base.json"], .file ((Text.ofString "[]").flatMap Utf8.bytesOf)),
    (["docs"], .directory)]
  workingDirectory := []

/-- A generation command on these files that writes its events to a log. -/
def loggedCommand : Invocation where
  env := ⟨⟨.slash, ["app"]⟩, ⟨.slash, ["home"]⟩, .epoch⟩
  arguments := [("generate" : Text), ("--baseline" : Text), ("base.json" : Text), ("--docs" : Text),
    ("docs" : Text), ("--output" : Text), ("out.json" : Text), ("--log" : Text),
    ("run.log" : Text)]

/-- Its arguments, as they are understood. -/
def loggedArguments : GenerateArguments where
  baseline := .text "base.json"
  pages := .text "docs"
  output := .text "out.json"
  suffix := .text defaultSuffix
  placeholder := defaultPlaceholder
  log := some (.text "run.log")
  verbose := false

/-- Its log. -/
def sharedLog : Path := ⟨.slash, ["run.log"]⟩

/-- The paths that it uses. -/
def loggedPaths : CheckedPaths :=
  ⟨⟨⟨.slash, ["base.json"]⟩, ⟨.slash, ["docs"]⟩, ⟨.slash, ["out.json"]⟩⟩, some sharedLog⟩

set_option maxRecDepth 4000 in
/-- The arguments are understood. -/
theorem read_loggedCommand :
    Command.read loggedCommand.arguments = .ok (.generate loggedArguments) := rfl

/-- Each argument names a file in the root. -/
theorem pathOf_loggedCommand (hroot : fs.workingDirectory = []) (option : Text) {raw : Text}
    (hraw : raw ∈ [("base.json" : Text), ("docs" : Text), ("out.json" : Text),
      ("run.log" : Text)]) :
    pathOf (rootsOf loggedCommand.env fs) option (.text raw) = .ok ⟨.slash, [raw]⟩ := by
  have hplain : ∀ raw ∈ [("base.json" : Text), ("docs" : Text), ("out.json" : Text),
      ("run.log" : Text)], ∀ c ∈ raw, c.value < 0xC0 := by decide
  rw [rootsOf, hroot, pathOf, Argument.toPath, Text.normalize_of_lt (hplain raw hraw)]
  simp only [List.mem_cons, List.not_mem_nil, or_false] at hraw
  rcases hraw with rfl | rfl | rfl | rfl <;> rfl

/-- The command writes its events to its log. -/
theorem writesTo_loggedCommand (hroot : fs.workingDirectory = []) :
    loggedCommand.WritesTo fs sharedLog := by
  refine ⟨loggedArguments, .text "run.log", read_loggedCommand, rfl,
    pathOf_loggedCommand hroot _ (by decide), ?_⟩
  rw [loggedArguments, pathOf_loggedCommand hroot _ (by decide)]
  decide

/-- A command whose arguments are accepted ends where its run ends. -/
theorem stateAfter_of_checkPaths {i : Invocation} {arguments : GenerateArguments} {suffix : Text}
    {paths : CheckedPaths} (hread : Command.read i.arguments = .ok (.generate arguments))
    (hsuffix : dotted arguments.suffix = .ok suffix)
    (hpaths : checkPaths (rootsOf i.env fs) fs arguments.baseline arguments.pages arguments.output
      arguments.log = .ok paths) :
    i.stateAfter fs = ((openLog paths.log >>= fun _ => Generate.run paths.toGeneratePaths suffix
      (placeholderTest arguments.placeholder)).run.run (initial i.env fs)).2 := by
  rw [Invocation.stateAfter, hread]
  dsimp only
  rw [perform, Run.state_bind_pure, run_generate_of_checkPaths hsuffix hpaths, Run.state_bind_pure]

/-- Where the baseline and the directory of pages are there, the arguments are accepted. -/
theorem checkPaths_loggedCommand (hroot : fs.workingDirectory = [])
    (hbaseline : fs.pathExists loggedPaths.baseline = .ok true)
    (hfile : fs.isFile loggedPaths.baseline = .ok true)
    (hpages : fs.pathExists loggedPaths.pages = .ok true)
    (hdirectory : fs.isDirectory loggedPaths.pages = .ok true)
    (houtput : fs.isDirectory loggedPaths.output = .ok false) :
    checkPaths (rootsOf loggedCommand.env fs) fs loggedArguments.baseline loggedArguments.pages
      loggedArguments.output loggedArguments.log = .ok loggedPaths := by
  have hpath (option : Text) {raw : Text} (hraw : raw ∈ [("base.json" : Text), ("docs" : Text),
      ("out.json" : Text), ("run.log" : Text)]) := pathOf_loggedCommand hroot option hraw
  have hlog : loggedArguments.log.mapM (pathOf (rootsOf loggedCommand.env fs) "--log") =
      .ok (some sharedLog) := by
    rw [loggedArguments, Option.mapM_some, hpath _ (by decide)]
    rfl
  simp only [checkPaths, bind_eq_ok]
  exact ⟨_, hpath _ (by decide), _, hpath _ (by decide), _, hpath _ (by decide), _, hlog,
    (), require_eq_ok.mpr hbaseline, (), require_eq_ok.mpr hfile, (), require_eq_ok.mpr hpages,
    (), require_eq_ok.mpr hdirectory, (), require_eq_ok.mpr (congrArg (Except.map (!·)) houtput),
    rfl⟩

/-- What the command does once its arguments are accepted. -/
def loggedState (fs : FileSystem) : RunState :=
  ((openLog loggedPaths.log >>= fun _ => Generate.run loggedPaths.toGeneratePaths defaultSuffix
    (placeholderTest loggedArguments.placeholder)).run.run (initial loggedCommand.env fs)).2

/-- The files after the command was carried out once. -/
def onceLogged : FileSystem := (loggedState bareFiles).files

/-- The first command is accepted. -/
theorem stateAfter_bareFiles : loggedCommand.stateAfter bareFiles = loggedState bareFiles :=
  stateAfter_of_checkPaths read_loggedCommand rfl
    (checkPaths_loggedCommand rfl (by decide) (by decide) (by decide) (by decide) (by decide))

/-- So is the same command once more. -/
theorem stateAfter_onceLogged : loggedCommand.stateAfter onceLogged = loggedState onceLogged := by
  have hroot : onceLogged.workingDirectory = [] := by decide +kernel
  exact stateAfter_of_checkPaths read_loggedCommand rfl
    (checkPaths_loggedCommand hroot (by decide +kernel) (by decide +kernel) (by decide +kernel)
      (by decide +kernel) (by decide +kernel))

/-- Both commands write five blocks, the first one without an empty line before it. -/
theorem isFirst_logEntries_loggedState : ∀ fs ∈ [bareFiles, onceLogged],
    (loggedState fs).logEntries.map Entry.isFirst = [true, false, false, false, false] := by
  decide +kernel

/-- A command that finds no log leaves one in which there is an empty line between any two
blocks. -/
theorem log_of_session_bareFiles : loggedCommand.WritesTo bareFiles sharedLog ∧
    bareFiles.contentOf sharedLog = [] ∧
      ∃ text, Utf8.decode ((filesAfter bareFiles [loggedCommand]).contentOf sharedLog) = .ok text ∧
        IsSeparated text := by
  have hwrites : loggedCommand.WritesTo bareFiles sharedLog := writesTo_loggedCommand rfl
  have hmarks : (entriesAfter bareFiles [loggedCommand]).map Entry.isFirst =
      [true, false, false, false, false] := by
    rw [entriesAfter, entriesAfter, List.append_nil, stateAfter_bareFiles]
    exact isFirst_logEntries_loggedState _ (List.mem_cons_self ..)
  obtain ⟨-, hdecode, -, hseparated⟩ := log_of_session (List.forall_mem_singleton.mpr hwrites) rfl
  refine ⟨hwrites, rfl, _, hdecode, hseparated.mpr ⟨fun entry hentry => ?_, fun entry hentry => ?_⟩⟩
  · have hhead := congrArg List.head? hmarks
    rw [List.head?_map, hentry] at hhead
    exact Option.some.inj hhead
  · have hmem : entry.isFirst ∈ ((entriesAfter bareFiles [loggedCommand]).map Entry.isFirst).tail :=
      List.map_tail ▸ List.mem_map_of_mem hentry
    rw [hmarks] at hmem
    simpa using hmem

/-- The same command leaves a log in which an empty line is missing when it is carried out
twice. -/
theorem log_not_separated_of_bareFiles : loggedCommand.WritesTo bareFiles sharedLog ∧
    bareFiles.contentOf sharedLog = [] ∧
      ∃ text, Utf8.decode ((filesAfter bareFiles [loggedCommand, loggedCommand]).contentOf
        sharedLog) = .ok text ∧ ¬IsSeparated text := by
  have hwrites : loggedCommand.WritesTo bareFiles sharedLog := writesTo_loggedCommand rfl
  have hboth : ∀ i ∈ [loggedCommand, loggedCommand], i.WritesTo bareFiles sharedLog :=
    List.forall_mem_cons.mpr ⟨hwrites, List.forall_mem_singleton.mpr hwrites⟩
  have honce : loggedCommand.filesAfter bareFiles = onceLogged := by
    rw [(logged_of_writesTo hwrites).2, stateAfter_bareFiles]
    rfl
  have hmarks : (entriesAfter bareFiles [loggedCommand, loggedCommand]).map Entry.isFirst =
      [true, false, false, false, false] ++ [true, false, false, false, false] := by
    rw [entriesAfter, entriesAfter, entriesAfter, List.append_nil, honce, stateAfter_bareFiles,
      stateAfter_onceLogged, List.map_append,
      isFirst_logEntries_loggedState bareFiles (List.mem_cons_self ..),
      isFirst_logEntries_loggedState onceLogged (by simp)]
  refine ⟨hwrites, rfl, _, decode_of_session hboth rfl, fun hseparated => ?_⟩
  -- the first block of the second command is not the first one in the file
  obtain ⟨-, hrest⟩ := (isSeparated_iff (logged_of_session hboth).1).mp hseparated
  have hmem : true ∈ ((entriesAfter bareFiles [loggedCommand, loggedCommand]).map
      Entry.isFirst).tail := by
    rw [hmarks]
    decide
  rw [← List.map_tail] at hmem
  obtain ⟨entry, hentry, hfirst⟩ := List.mem_map.mp hmem
  rw [hrest entry hentry] at hfirst
  cases hfirst

end Program

end CommandDocs
