import CommandDocs.CommandLine.Program
import CommandDocs.Proofs.Corpus.Regeneration
import CommandDocs.Proofs.File.Names
import CommandDocs.Proofs.Text.Canonical

/-!
# The inputs of a run

A generation run writes one file, the one at its output. Arguments are mapped to paths from the
root without double dots, so that two paths name the same place only when they are the same. A
run therefore keeps its baseline and the files below its directory of pages, unless the output is
mapped to one of these. Nothing checks that it is not.
-/

namespace CommandDocs

namespace Path

/-- The path that goes on with further names. -/
def below (p : Path) (names : List Text) : Path := { p with parts := p.parts ++ names }

/-- Names without double dots lead to a resolved path. -/
theorem IsResolved.below {p : Path} (h : p.IsResolved) {names : List Text}
    (hnames : parentName ∉ names) : (p.below names).IsResolved := by
  refine ⟨h.root, fun hmem => ?_⟩
  rcases List.mem_append.mp hmem with hparts | hlast
  · exact h.parts hparts
  · exact hnames hlast

end Path

namespace FileSystem

/-- There is a file to read where there is a file. -/
theorem readFile_of_isFile {fs : FileSystem} {p : Path} (h : fs.isFile p = .ok true) :
    ∃ content, fs.readFile p = .ok content := by
  rw [isFile] at h
  cases hnode : fs.nodeAt? p with
  | error e =>
    rw [hnode] at h
    cases h
  | ok found =>
    rw [hnode] at h
    rcases found with - | (content | -)
    · cases h
    · exact ⟨content, readFile_of_file hnode⟩
    · cases h

/-- No file is changed, made or lost but at one place; directories may be made. -/
structure KeepsFiles (written : Place) (fs fs' : FileSystem) : Prop where
  /-- Relative paths begin in the same place. -/
  workingDirectory : fs'.workingDirectory = fs.workingDirectory
  /-- Directories are kept. -/
  directory : ∀ place, fs.node? place = some .directory → fs'.node? place = some .directory
  /-- At all other places there are the same files. -/
  file : ∀ place content, place ≠ written →
    (fs'.node? place = some (.file content) ↔ fs.node? place = some (.file content))

variable {written : Place} {fs fs' fs'' : FileSystem} {p : Path}

/-- Where nothing happens all files are kept. -/
theorem KeepsFiles.refl (written : Place) (fs : FileSystem) : KeepsFiles written fs fs :=
  ⟨rfl, fun _ h => h, fun _ _ _ => Iff.rfl⟩

/-- What is kept twice is kept. -/
theorem KeepsFiles.trans (h : KeepsFiles written fs fs') (h' : KeepsFiles written fs' fs'') :
    KeepsFiles written fs fs'' where
  workingDirectory := h'.workingDirectory.trans h.workingDirectory
  directory place hplace := h'.directory place (h.directory place hplace)
  file place content hplace := (h'.file place content hplace).trans (h.file place content hplace)

/-- Paths name the same places. -/
theorem KeepsFiles.placeOf_eq (h : KeepsFiles written fs fs') (p : Path) :
    fs'.placeOf p = fs.placeOf p := by
  rw [placeOf, placeOf, origin, origin, h.workingDirectory]

/-- A file at any other place is read as before. -/
theorem KeepsFiles.readFile (h : KeepsFiles written fs fs') (hp : fs.placeOf p ≠ written)
    {content : Bytes} (hread : fs.readFile p = .ok content) : fs'.readFile p = .ok content := by
  obtain ⟨place, hlocate⟩ := readFile_eq_ok.mp hread
  have hplace : place = fs.placeOf p := place_of_locate hlocate
  have hnode : fs'.node? place = some (.file content) :=
    (h.file place content (hplace ▸ hp)).mpr (locate_iff.mp hlocate).2.present
  exact readFile_eq_ok.mpr ⟨place, locate_of_keeps hlocate h.workingDirectory h.directory hnode⟩

/-- Files that agree everywhere else are kept. -/
theorem AgreesOff.keepsFiles {hidden : Option Place} (h : AgreesOff hidden fs fs')
    (hhidden : ∀ place ∈ hidden, place = written) : KeepsFiles written fs fs' where
  workingDirectory := h.workingDirectory
  directory place hplace := h.directory hplace
  file place _ hplace := by
    have hother : hidden ≠ some place := fun heq => hplace (hhidden place heq)
    rw [h.node_eq hother]

/-- Making directories keeps all files. -/
theorem keepsFiles_ensureDirectories (written : Place) (fs : FileSystem) (p : Path) :
    KeepsFiles written fs (fs.ensureDirectories p).2 where
  workingDirectory := (grows_ensureDirectories fs p).workingDirectory
  directory place hplace := (grows_ensureDirectories fs p).kept place _ hplace
  file place _ _ :=
    ⟨file_of_ensureDirectories, (grows_ensureDirectories fs p).kept place _⟩

end FileSystem

namespace Run

open FileSystem RunState

variable {α β : Type} {output : Path} {s s' : RunState}

/-- Without a log file the computation keeps all files but perhaps the one at the output, whether
it ends well or not. -/
def KeepsInputs (output : Path) (x : Run α) : Prop :=
  ∀ s : RunState, s.logFile = none →
    KeepsFiles (s.files.placeOf output) s.files (x.run.run s).2.files ∧
      (x.run.run s).2.logFile = none

/-- So do two steps, if each of them does. -/
theorem KeepsInputs.bind {x : Run α} {f : α → Run β} (hx : x.KeepsInputs output)
    (hf : ∀ a, (f a).KeepsInputs output) : (x >>= f).KeepsInputs output := by
  intro s hlog
  have hfirst := hx s hlog
  rw [run_bind]
  cases hrun : x.run.run s with
  | mk outcome s₁ =>
    rw [hrun] at hfirst
    cases outcome with
    | ok a =>
      -- the first step keeps the working directory, so the output is at the same place
      have hsecond := hf a s₁ hfirst.2
      rw [hfirst.1.placeOf_eq output] at hsecond
      exact ⟨hfirst.1.trans hsecond.1, hsecond.2⟩
    | error e => exact hfirst

/-- Noting events without a log file changes nothing. -/
theorem OnlyNotes.keepsInputs {x : Run α} (h : x.OnlyNotes) (output : Path) :
    x.KeepsInputs output := by
  intro s hlog
  have hnone : s.logPlace? = none := by rw [logPlace?, hlog, Option.map_none]
  obtain ⟨hfiles, hplace⟩ := h s
  rw [hnone] at hfiles hplace
  refine ⟨hfiles.keepsFiles ?_, Option.map_eq_none_iff.mp hplace⟩
  intro place hmem
  cases hmem

/-- Making directories keeps all files. -/
theorem keepsInputs_ensureDirectories (p : Path) (onError : FileError → Failure) (output : Path) :
    (ensureDirectories p onError).KeepsInputs output := by
  intro s hlog
  have hfiles := keepsFiles_ensureDirectories (s.files.placeOf output) s.files p
  cases hrun : (ensureDirectories p onError).run.run s with
  | mk outcome s' =>
    cases outcome with
    | ok u =>
      obtain ⟨-, rfl⟩ := run_ensureDirectories_eq_ok.mp hrun
      exact ⟨hfiles, hlog⟩
    | error failure =>
      obtain ⟨-, -, -, rfl⟩ := run_ensureDirectories_eq_error.mp hrun
      exact ⟨hfiles, hlog⟩

/-- Writing the output keeps all other files. -/
theorem keepsInputs_writeFile (output : Path) (content : Bytes) (onError : FileError → Failure) :
    (change fun fs => (fs.writeFile output content).mapError onError).KeepsInputs output := by
  intro s hlog
  cases hrun : (change fun fs => (fs.writeFile output content).mapError onError).run.run s with
  | mk outcome s' =>
    cases outcome with
    | ok u =>
      obtain ⟨files, hwrite, rfl⟩ := run_change_eq_ok.mp hrun
      have hagrees := AgreesOff.of_updateFile (mapError_eq_ok.mp hwrite)
      exact ⟨hagrees.keepsFiles fun place hplace => (Option.some.inj hplace).symm, hlog⟩
    | error failure =>
      obtain ⟨-, rfl⟩ := run_change_eq_error.mp hrun
      exact ⟨.refl _ _, hlog⟩

end Run

namespace Program

variable {roots : ArgumentRoots} {fs : FileSystem} {log : Option OptionValue}
  {paths : CheckedPaths}

/-- Arguments are mapped to resolved paths. -/
theorem isResolved_of_pathOf {option : Text} {value : OptionValue} {p : Path}
    (h : pathOf roots option value = .ok p) : p.IsResolved := by
  cases value with
  | nothing => cases h
  | text raw =>
    have htext : Argument.toPath roots option raw = .ok p := mapError_eq_ok.mp h
    rw [Argument.toPath] at htext
    split at htext
    · cases htext
    split at htext
    · cases htext
    split at htext
    · cases htext
    split at htext
    · cases htext
    · cases htext
      exact Path.isResolved_resolve _

/-- A test is passed where its answer is yes. -/
theorem require_eq_ok {answer : Except FileError Bool} {fault : StartupFault} :
    require answer fault = .ok () ↔ answer = .ok true := by
  rw [require, bind_eq_ok]
  simp only [mapError_eq_ok]
  constructor
  · intro h
    obtain ⟨truth, hanswer, htruth⟩ := h
    cases truth with
    | true => exact hanswer
    | false => cases htruth
  · exact fun h => ⟨true, h, rfl⟩

/-- What is known about paths that were checked. -/
structure IsChecked (fs : FileSystem) (paths : CheckedPaths) : Prop where
  /-- The baseline is resolved. -/
  baseline : paths.baseline.IsResolved
  /-- So is the directory of pages. -/
  pages : paths.pages.IsResolved
  /-- So is the output. -/
  output : paths.output.IsResolved
  /-- The baseline is a file. -/
  file : fs.isFile paths.baseline = .ok true
  /-- The pages are in a directory. -/
  directory : fs.isDirectory paths.pages = .ok true

/-- The checks lead to such paths. -/
theorem isChecked_of_checkPaths {baseline pages output : OptionValue}
    (h : checkPaths roots fs baseline pages output log = .ok paths) : IsChecked fs paths := by
  simp only [checkPaths, bind_eq_ok] at h
  -- three arguments that are mapped, the log, and five checks that answer nothing
  obtain ⟨b, hbaseline, d, hpages, o, houtput, l, -, _, -, _, hfile, _, -, _, hdirectory, _, -,
    hpaths⟩ := h
  cases hpaths
  exact ⟨isResolved_of_pathOf hbaseline, isResolved_of_pathOf hpages, isResolved_of_pathOf houtput,
    require_eq_ok.mp hfile, require_eq_ok.mp hdirectory⟩

end Program

namespace Generate

open FileSystem

variable {s s' : RunState} {suffix : Text} {isPlaceholder : PlaceholderTest}

/-- Writing a corpus keeps all files but its own. -/
theorem keepsInputs_writeCorpus (output : Path) (records : List MergedRecord) :
    (writeCorpus output records).KeepsInputs output :=
  ((Run.onlyNotes_ask _).keepsInputs output).bind fun _ =>
    (Run.keepsInputs_ensureDirectories _ _ output).bind fun _ =>
      ((Run.onlyNotes_ask _).keepsInputs output).bind fun _ =>
        (Run.keepsInputs_writeFile output _ _).bind fun _ =>
          ((Run.onlyNotes_ask _).keepsInputs output).bind fun _ =>
            Run.keepsInputs_writeFile output _ _

/-- A run keeps all files but its output. -/
theorem keepsInputs_run (paths : GeneratePaths) (suffix : Text) (isPlaceholder : PlaceholderTest) :
    (run paths suffix isPlaceholder).KeepsInputs paths.output := by
  rw [run_eq_bind]
  refine ((onlyNotes_prepare _ _ _).keepsInputs _).bind fun prepared => ?_
  refine (keepsInputs_writeCorpus _ _).bind fun _ => ?_
  exact ((Run.onlyNotes_report _).bind fun _ => Run.onlyNotes_pure _).keepsInputs _

/-- A run that fails for another reason than surrogates keeps its output, too. -/
theorem sameContent_output_of_run {paths : GeneratePaths} {failure : Failure}
    (hlog : s.logFile = none)
    (hrun : (run paths suffix isPlaceholder).run.run s = (.error failure, s'))
    (hfailure : ∀ e, failure ≠ .unwritable (.surrogates e)) :
    SameContent paths.output s.files s'.files := by
  have happart : s.LogsApart paths suffix := RunState.logsApart_of_none hlog
  have houtput := happart.output
  rcases run_eq_error hrun with hnoted | ⟨found, corpus, s₁, hprepare, hwrite⟩
  · exact hnoted.sameContent houtput
  · have hprepared := (onlyNotes_prepare _ _ _).onlyNoted hprepare
    rcases output_of_unwritten (run_writeCorpus_eq_error.mp hwrite)
        (isProper_of_run_prepare hprepare) with hkept | ⟨_, e, -, -, he, -⟩
    · exact (hprepared.sameContent houtput).trans hkept
    · exact absurd he (hfailure e)

/-- What a run on checked paths keeps, whether it succeeds or fails. There is one file that it
may change, the one at its output. The baseline is another file unless its path is the output,
and so is each file below the directory of pages. A run that fails, for another reason than that
the text of the corpus has no bytes, keeps the output as well. -/
theorem files_kept_of_run {roots : ArgumentRoots} {baseline pages output : OptionValue}
    {paths : Program.CheckedPaths} {outcome : Except Failure Report.RunSummary}
    (hpaths : Program.checkPaths roots s.files baseline pages output none = .ok paths)
    (hlog : s.logFile = none)
    (hrun : (run paths.toGeneratePaths suffix isPlaceholder).run.run s = (outcome, s')) :
    (∀ place content, place ≠ s.files.placeOf paths.output →
        (s'.files.node? place = some (.file content) ↔
          s.files.node? place = some (.file content))) ∧
      (paths.baseline ≠ paths.output → ∃ content, s.files.readFile paths.baseline = .ok content ∧
        s'.files.readFile paths.baseline = .ok content) ∧
      (∀ names content, Path.parentName ∉ names → paths.pages.below names ≠ paths.output →
        s.files.readFile (paths.pages.below names) = .ok content →
          s'.files.readFile (paths.pages.below names) = .ok content) ∧
      ∀ failure, outcome = .error failure → (∀ e, failure ≠ .unwritable (.surrogates e)) →
        SameContent paths.output s.files s'.files := by
  have hchecked := Program.isChecked_of_checkPaths hpaths
  have hkept : KeepsFiles (s.files.placeOf paths.output) s.files s'.files := by
    have hfiles := (keepsInputs_run paths.toGeneratePaths suffix isPlaceholder s hlog).1
    rw [hrun] at hfiles
    exact hfiles
  have hother {p : Path} (hp : p.IsResolved) (hne : p ≠ paths.output) {content : Bytes}
      (hread : s.files.readFile p = .ok content) : s'.files.readFile p = .ok content :=
    hkept.readFile (placeOf_ne_of_isResolved hp hchecked.output hne) hread
  refine ⟨hkept.file, fun hne => ?_, fun names content hnames hne hread => ?_, ?_⟩
  · obtain ⟨content, hread⟩ := readFile_of_isFile hchecked.file
    exact ⟨content, hread, hother hchecked.baseline hne hread⟩
  · exact hother (hchecked.pages.below hnames) hne hread
  · rintro failure rfl hfailure
    exact sameContent_output_of_run hlog hrun hfailure

/-- An empty baseline and a directory with one page. -/
def onePageFiles : FileSystem where
  nodes := [
    (["base.json"], .file ((Text.ofString "[]").flatMap Utf8.bytesOf)),
    (["docs"], .directory),
    (["docs", "abs.md"], .file ((Text.ofString "# abs\n").flatMap Utf8.bytesOf))]
  workingDirectory := []

/-- The state before a run on these files, without a log. -/
def onePageState : RunState := { files := onePageFiles, clock := .epoch }

/-- Arguments are read against the root. -/
def onePageRoots : ArgumentRoots := ⟨⟨.slash, ["app"]⟩, ⟨.slash, ["home"]⟩, ⟨.slash, []⟩⟩

/-- The paths of a run on these files. -/
def onePagePaths (output : Path) : GeneratePaths :=
  ⟨⟨.slash, ["base.json"]⟩, ⟨.slash, ["docs"]⟩, output⟩

/-- Arguments for these files are accepted with any output that is no directory. -/
theorem checkPaths_onePageFiles {raw : Text} {output : Path}
    (houtput : Program.pathOf onePageRoots "--output" (.text raw) = .ok output)
    (hfree : onePageFiles.isDirectory output = .ok false) :
    Program.checkPaths onePageRoots onePageFiles (.text "base.json") (.text "docs") (.text raw)
      none = .ok ⟨onePagePaths output, none⟩ := by
  have hbaseline : Program.pathOf onePageRoots "--baseline" (.text "base.json") =
      .ok ⟨.slash, ["base.json"]⟩ := by
    rw [Program.pathOf, Argument.toPath, Text.normalize_of_lt (by decide)]
    rfl
  have hpages : Program.pathOf onePageRoots "--docs" (.text "docs") = .ok ⟨.slash, ["docs"]⟩ := by
    rw [Program.pathOf, Argument.toPath, Text.normalize_of_lt (by decide)]
    rfl
  have hrequire : Program.require ((onePageFiles.isDirectory output).map (!·))
      (.outputIsDirectory output) = .ok () := by
    rw [Program.require_eq_ok, hfree]
    rfl
  simp only [Program.checkPaths, bind_eq_ok]
  exact ⟨_, hbaseline, _, hpages, _, houtput, none, rfl, (), rfl, (), rfl, (), rfl, (), rfl, (),
    hrequire, rfl⟩

/-- With its output elsewhere a run on these files keeps the baseline and the page. -/
theorem files_kept_of_run_onePageFiles : ∃ outcome s',
    Program.checkPaths onePageRoots onePageFiles (.text "base.json") (.text "docs")
        (.text "out.json") none = .ok ⟨onePagePaths ⟨.slash, ["out.json"]⟩, none⟩ ∧
      (run (onePagePaths ⟨.slash, ["out.json"]⟩) defaultSuffix
        (placeholderTest defaultPlaceholder)).run.run onePageState = (outcome, s') ∧
      s'.files.readFile ⟨.slash, ["base.json"]⟩ =
        .ok ((Text.ofString "[]").flatMap Utf8.bytesOf) ∧
      s'.files.readFile ⟨.slash, ["docs", "abs.md"]⟩ =
        .ok ((Text.ofString "# abs\n").flatMap Utf8.bytesOf) := by
  have houtput : Program.pathOf onePageRoots "--output" (.text "out.json") =
      .ok ⟨.slash, ["out.json"]⟩ := by
    rw [Program.pathOf, Argument.toPath, Text.normalize_of_lt (by decide)]
    rfl
  have hchecks := checkPaths_onePageFiles houtput rfl
  cases hrun : (run (onePagePaths ⟨.slash, ["out.json"]⟩) defaultSuffix
      (placeholderTest defaultPlaceholder)).run.run onePageState with
  | mk outcome s' =>
    have hlog : onePageState.logFile = none := rfl
    have hfile : onePageFiles.readFile ⟨.slash, ["base.json"]⟩ =
        .ok ((Text.ofString "[]").flatMap Utf8.bytesOf) := rfl
    have hpage : onePageFiles.readFile ⟨.slash, ["docs", "abs.md"]⟩ =
        .ok ((Text.ofString "# abs\n").flatMap Utf8.bytesOf) := rfl
    obtain ⟨-, hbaseline, hpages, -⟩ := files_kept_of_run (s := onePageState) hchecks hlog hrun
    obtain ⟨content, hbefore, hafter⟩ := hbaseline (by decide)
    have hsame : content = _ := Except.ok.inj (hbefore.symm.trans hfile)
    rw [hsame] at hafter
    exact ⟨outcome, s', hchecks, rfl, hafter, hpages ["abs.md"] _ (by decide) (by decide) hpage⟩

/-- Nothing keeps the output apart from the pages: a run whose output is spelled differently from
the page, but is mapped to it, writes its corpus over the page. -/
theorem page_lost_of_onePageFiles : ∃ summary s',
    Program.checkPaths onePageRoots onePageFiles (.text "base.json") (.text "docs")
        (.text "docs/../docs/abs.md") none =
      .ok ⟨onePagePaths ⟨.slash, ["docs", "abs.md"]⟩, none⟩ ∧
    (run (onePagePaths ⟨.slash, ["docs", "abs.md"]⟩) defaultSuffix
      (placeholderTest defaultPlaceholder)).run.run onePageState = (.ok summary, s') ∧
    onePageFiles.readFile ⟨.slash, ["docs", "abs.md"]⟩ =
      .ok ((Text.ofString "# abs\n").flatMap Utf8.bytesOf) ∧
    s'.files.readFile ⟨.slash, ["docs", "abs.md"]⟩ =
      .ok ((Text.ofString "[]\n").flatMap Utf8.bytesOf) := by
  have houtput : Program.pathOf onePageRoots "--output" (.text "docs/../docs/abs.md") =
      .ok ⟨.slash, ["docs", "abs.md"]⟩ := by
    rw [Program.pathOf, Argument.toPath, Text.normalize_of_lt (by decide)]
    rfl
  have hchecks := checkPaths_onePageFiles houtput rfl
  have hpage : onePageFiles.readFile ⟨.slash, ["docs", "abs.md"]⟩ =
      .ok ((Text.ofString "# abs\n").flatMap Utf8.bytesOf) := rfl
  have hlog : onePageState.LogsAside (onePagePaths ⟨.slash, ["docs", "abs.md"]⟩) defaultSuffix :=
    RunState.logsAside_of_none rfl
  have hbaselines : onePageFiles.readBaseline ⟨.slash, ["base.json"]⟩ = .ok [] := rfl
  have hlist : ∃ found, onePageFiles.listPages ⟨.slash, ["docs"]⟩ defaultSuffix = .ok found := by
    have hnames : onePageFiles.childNames (onePageFiles.placeOf ⟨.slash, ["docs"]⟩) =
        [("abs.md" : Text)] := rfl
    refine exists_listPages.mpr ⟨⟨_, rfl⟩, fun name hname _ => ?_⟩
    rw [hnames, List.mem_singleton] at hname
    rw [hname]
    exact ⟨true, rfl⟩
  have hopen : onePageState.CanWrite ⟨.slash, ["docs", "abs.md"]⟩ :=
    RunState.canWrite_of_readFile hpage (by decide) nofun
  have htext : corpusText (onePageFiles.mergedRecords ⟨.slash, ["docs"]⟩ defaultSuffix
      (placeholderTest defaultPlaceholder) []) = .ok "[]\n" := rfl
  have hencode : Utf8.encode "[]\n" = .ok ((Text.ofString "[]\n").flatMap Utf8.bytesOf) := rfl
  obtain ⟨summary, s', hrun, hfile⟩ := exists_run hlog hbaselines hlist hopen htext hencode
  exact ⟨summary, s', hchecks, hrun, hpage, hfile⟩

end Generate

end CommandDocs
