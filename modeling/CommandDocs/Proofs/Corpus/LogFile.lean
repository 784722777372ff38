import CommandDocs.Proofs.Corpus.InputsKept
import CommandDocs.Proofs.Corpus.Trace
import CommandDocs.Proofs.Log.EventBlocks

/-!
# The log of a run

What holds while a run goes on is kept by each of its steps. Noting an event puts the block of the
event behind what the log file holds, making directories takes nothing away, and the corpus is
written to another file. So a run adds the blocks of its events to the log, and nothing else,
whether it ends well or breaks off.
-/

namespace CommandDocs

open LogFormat

namespace Run

variable {α β : Type} {P : RunState → Prop}

/-- A property of the state is kept, whether the computation ends well or not. -/
def Maintains (P : RunState → Prop) (x : Run α) : Prop := ∀ s, P s → P (x.run.run s).2

/-- Of two steps each keeps the property. -/
theorem Maintains.bind {x : Run α} {f : α → Run β} (hx : x.Maintains P)
    (hf : ∀ a, (f a).Maintains P) : (x >>= f).Maintains P := by
  intro s hs
  have hfirst := hx s hs
  rw [run_bind]
  cases hrun : x.run.run s with
  | mk outcome s₁ =>
    rw [hrun] at hfirst
    cases outcome with
    | ok a => exact hf a s₁ hfirst
    | error failure => exact hfirst

/-- Answering changes nothing. -/
theorem maintains_pure (a : α) : Maintains P (pure a : Run α) := fun _ hs => hs

/-- Looking at the state changes nothing. -/
theorem maintains_get : Maintains P (get : Run RunState) := fun _ hs => hs

/-- Asking about the files changes nothing. -/
theorem maintains_ask (question : FileSystem → Except Failure α) : Maintains P (ask question) := by
  refine maintains_get.bind fun now => ?_
  cases question now.files with
  | ok answer => exact maintains_pure answer
  | error failure => exact fun _ hs => hs

/-- Changing the files keeps what each change that succeeds keeps. -/
theorem maintains_change {action : FileSystem → Except Failure FileSystem}
    (h : ∀ s files, P s → action s.files = .ok files → P { s with files }) :
    Maintains P (change action) := by
  intro s hs
  cases hrun : (change action).run.run s with
  | mk outcome s' =>
    cases outcome with
    | ok u =>
      obtain ⟨files, haction, rfl⟩ := run_change_eq_ok.mp hrun
      exact h s files hs haction
    | error failure =>
      obtain ⟨-, rfl⟩ := run_change_eq_error.mp hrun
      exact hs

/-- Making directories keeps what is kept while nothing is taken away. -/
theorem maintains_ensureDirectories
    (h : ∀ s files, P s → FileSystem.Grows s.files files → P { s with files })
    (p : Path) (onError : FileError → Failure) : Maintains P (ensureDirectories p onError) := by
  intro s hs
  have hmade := h s _ hs (FileSystem.grows_ensureDirectories s.files p)
  cases hrun : (ensureDirectories p onError).run.run s with
  | mk outcome s' =>
    cases outcome with
    | ok u =>
      obtain ⟨-, rfl⟩ := run_ensureDirectories_eq_ok.mp hrun
      exact hmade
    | error failure =>
      obtain ⟨-, -, -, rfl⟩ := run_ensureDirectories_eq_error.mp hrun
      exact hmade

end Run

namespace Generate

variable {P : RunState → Prop}

/-- From its start a run keeps what is kept when an event of a run is noted, when directories are
made and when the corpus is written. -/
theorem maintains_run {paths : GeneratePaths} {suffix : Text} {s : RunState}
    (hnote : ∀ s e, IsOfRun e → P s → P (s.note e))
    (hgrows : ∀ s files, P s → FileSystem.Grows s.files files → P { s with files })
    (hwrite : ∀ s files content, P s → s.files.writeFile paths.output content = .ok files →
      P { s with files }) (hbegun : P (begun paths suffix s)) (isPlaceholder : PlaceholderTest) :
    P ((run paths suffix isPlaceholder).run.run s).2 := by
  have hreport {e : LogEvent} (he : IsOfRun e) : (Run.report e).Maintains P :=
    fun s hs => hnote s e he hs
  have hpages (found : List Path) : (readPages found).Maintains P := by
    induction found with
    | nil => exact Run.maintains_pure _
    | cons p rest ih =>
      rw [readPages]
      refine Run.maintains_get.bind fun now => ?_
      cases now.files.readPage p with
      | ok text => exact ih.bind fun _ => Run.maintains_pure _
      | error failure =>
        exact (hreport (.skip _ _)).bind fun _ =>
          ih.bind fun _ => Run.maintains_pure _
  have hfile (content : Bytes) (onError : FileError → Failure) :
      (Run.change fun fs => (fs.writeFile paths.output content).mapError onError).Maintains P :=
    Run.maintains_change fun s files hs hchange =>
      hwrite s files content hs (mapError_eq_ok.mp hchange)
  have hcorpus (records : List MergedRecord) : (writeCorpus paths.output records).Maintains P :=
    (Run.maintains_ask _).bind fun _ => (Run.maintains_ensureDirectories hgrows _ _).bind fun _ =>
      (Run.maintains_ask _).bind fun _ => (hfile _ _).bind fun _ =>
        (Run.maintains_ask _).bind fun _ => hfile _ _
  rw [run, Run.run_bind]
  refine Run.Maintains.bind (Run.maintains_ask _) (fun baselines => ?_) _ hbegun
  refine (hreport (.baseline _ _)).bind fun _ => Run.Maintains.bind ?_ fun found => ?_
  · -- the scan
    exact (Run.maintains_ask _).bind fun found => (hpages found).bind fun _ =>
      (hreport (.scan _ _ _ _)).bind fun _ => Run.maintains_pure _
  refine Run.Maintains.bind ?_ fun corpus => ?_
  · -- the merge
    exact (hreport (.merge _ _ _)).bind fun _ => Run.maintains_pure _
  exact (hcorpus _).bind fun _ =>
    (hreport (.output _ _)).bind fun _ => Run.maintains_pure _

end Generate

namespace FileSystem

variable {fs fs' : FileSystem} {p : Path} {content more : Bytes}

/-- The bytes of the file that a path names; there are none where it names no file. -/
def contentOf (fs : FileSystem) (p : Path) : Bytes :=
  match fs.node? (fs.placeOf p) with
  | some (.file content) => content
  | _ => []

/-- A file that is read has these bytes. -/
theorem contentOf_of_readFile (h : fs.readFile p = .ok content) : fs.contentOf p = content := by
  obtain ⟨place, hlocate⟩ := readFile_eq_ok.mp h
  have hplace : place = fs.placeOf p := place_of_locate hlocate
  rw [contentOf, ← hplace, (locate_iff.mp hlocate).2.present]

/-- Making directories changes no file. -/
theorem contentOf_ensureDirectories (fs : FileSystem) (directory p : Path) :
    (fs.ensureDirectories directory).2.contentOf p = fs.contentOf p := by
  have hgrows := grows_ensureDirectories fs directory
  rw [contentOf, contentOf, hgrows.placeOf_eq]
  cases hnode : fs.node? (fs.placeOf p) with
  | some node => rw [hgrows.kept _ _ hnode]
  | none =>
    cases hmade : (fs.ensureDirectories directory).2.node? (fs.placeOf p) with
    | none => rfl
    | some node =>
      cases node with
      | directory => rfl
      | file content =>
        rw [file_of_ensureDirectories hmade] at hnode
        cases hnode

/-- A file that is updated has the bytes that are made of those before. -/
theorem readFile_of_update {change : Bytes → Bytes} (h : fs.updateFile p change = .ok fs') :
    fs'.readFile p = .ok (change (fs.contentOf p)) := by
  rw [updateFile, bind_eq_ok] at h
  obtain ⟨target, hlocate, h⟩ := h
  have hplace := place_of_locate hlocate
  have hleads := (locate_iff.mp hlocate).2
  cases target with
  | absent place =>
    cases h
    obtain ⟨hroot, hnone⟩ := hleads.absent
    have hnew := locate_setNode hlocate hroot (by simp [Target.place, hnone])
      (.file (change []))
    have hempty : fs.contentOf p = [] := by
      rw [contentOf, ← hplace, Target.place, hnone]
    rw [hempty]
    exact readFile_of_locate hnew
  | present place node =>
    cases node with
    | directory => cases h
    | file content =>
      cases h
      have hnew := locate_setNode hlocate (ne_root_of_file hleads.present)
        (by simp [Target.place, hleads.present]) (.file (change content))
      rw [contentOf_of_readFile (readFile_of_locate hlocate)]
      exact readFile_of_locate hnew

/-- A file that can be read can be written at its end. -/
theorem exists_appendFile (h : fs.readFile p = .ok content) (more : Bytes) :
    ∃ fs', fs.appendFile p more = .ok fs' := by
  obtain ⟨place, hlocate⟩ := readFile_eq_ok.mp h
  refine ⟨fs.setNode place (.file (content ++ more)), ?_⟩
  simp only [appendFile, updateFile, hlocate, bind, Except.bind]

end FileSystem

namespace RunState

variable {s : RunState} {log : Path} {start files : FileSystem}

/-- The events that are urgent enough for a log file. -/
def urgent (s : RunState) : List LogEvent := s.events.filter (Level.info ≤ ·.level)

/-- The blocks that these events leave. -/
def logEntries (s : RunState) : List Entry := entriesOf s.clock true s.urgent

/-- The text of these blocks. -/
def logText (s : RunState) : Text := Text.unlines (fileLines s.logEntries)

/-- Where nothing was reported nothing is urgent. -/
theorem urgent_of_no_events (h : s.events = []) : s.urgent = [] := by
  rw [urgent, h, List.filter_nil]

/-- Nor is there a text. -/
theorem logText_of_no_events (h : s.events = []) : s.logText = [] := by
  rw [logText, logEntries, urgent_of_no_events h]
  rfl

/-- A log holds the blocks of the events of a run behind what it held at the start. -/
structure Logged (log : Path) (start : FileSystem) (s : RunState) : Prop where
  /-- Relative paths begin in the same place as at the start. -/
  workingDirectory : s.files.workingDirectory = start.workingDirectory
  /-- The events are known. -/
  known : ∀ e ∈ s.events, IsKnown e
  /-- Their blocks have written forms. -/
  unicode : s.logText.IsUnicode
  /-- The blocks stand at the end of the log. -/
  content : s.files.contentOf log = start.contentOf log ++ s.logText.flatMap Utf8.bytesOf

/-- The log is open, and it holds the blocks of the events so far. -/
structure LogsTo (log : Path) (start : FileSystem) (s : RunState) : Prop
    extends Logged log start s where
  /-- The log is fresh until the first block is written. -/
  logFile : s.logFile = some ⟨log, s.urgent.isEmpty⟩
  /-- There is a file to write to. -/
  readable : s.files.readFile log = .ok (s.files.contentOf log)

/-- A log that is read as before still holds the blocks of the events. -/
theorem LogsTo.of_files (h : s.LogsTo log start)
    (hworking : files.workingDirectory = s.files.workingDirectory)
    (hread : ∀ content, s.files.readFile log = .ok content → files.readFile log = .ok content) :
    LogsTo log start { s with files } := by
  have hsame := hread _ h.readable
  have hcontent : files.contentOf log = s.files.contentOf log :=
    FileSystem.contentOf_of_readFile hsame
  exact ⟨⟨hworking.trans h.workingDirectory, h.known, h.unicode, hcontent.trans h.content⟩,
    h.logFile, hcontent ▸ hsame⟩

/-- An event that is not urgent leaves no block. -/
theorem urgent_note_of_lt {e : LogEvent} (h : e.level < Level.info) :
    (s.note e).urgent = s.urgent := by
  have hlow : ¬Level.info ≤ e.level := Int.not_le.mpr h
  rw [urgent, events_note, List.filter_append, List.filter_cons_of_neg (by simpa using hlow),
    List.filter_nil, List.append_nil, urgent]

/-- An urgent event stands behind the others. -/
theorem urgent_note {e : LogEvent} (h : ¬e.level < Level.info) :
    (s.note e).urgent = s.urgent ++ [e] := by
  have hhigh : Level.info ≤ e.level := Int.not_lt.mp h
  rw [urgent, events_note, List.filter_append, List.filter_cons_of_pos (by simpa using hhigh),
    List.filter_nil, urgent]

/-- The time stays the same. -/
theorem clock_note (s : RunState) (e : LogEvent) : (s.note e).clock = s.clock := by
  rw [note]
  split
  · rfl
  · split <;> rfl

/-- An event that is not urgent adds nothing to the text of the log. -/
theorem logText_note_of_lt {e : LogEvent} (h : e.level < Level.info) :
    (s.note e).logText = s.logText := by
  rw [logText, logText, logEntries, logEntries, urgent_note_of_lt h, clock_note]

/-- An urgent event adds its block to the text of the log. -/
theorem logText_note {e : LogEvent} (h : ¬e.level < Level.info) :
    (s.note e).logText = s.logText ++
      Text.unlines (fileLines ((linesOf? s.clock e).map (Entry.mk s.urgent.isEmpty)).toList) := by
  rw [logText, logText, logEntries, logEntries, clock_note, urgent_note h, entriesOf_concat,
    Bool.true_and, fileLines_append, Text.unlines_append]

/-- All events are known when one more known event is noted. -/
theorem Logged.known_note (h : s.Logged log start) {e : LogEvent} (he : IsKnown e) :
    ∀ other ∈ (s.note e).events, IsKnown other := by
  rw [events_note]
  exact List.forall_mem_append.mpr ⟨h.known, List.forall_mem_singleton.mpr he⟩

/-- Noting an event that is not urgent changes neither the files nor the log. -/
theorem LogsTo.note_of_lt (h : s.LogsTo log start) {e : LogEvent} (he : IsKnown e)
    (hlevel : e.level < Level.info) : (s.note e).LogsTo log start := by
  have hnoted : s.note e = { s with events := s.events ++ [e] } := by
    rw [RunState.note, h.logFile]
    exact if_pos hlevel
  have hfiles : (s.note e).files = s.files := by rw [hnoted]
  have hlogFile : (s.note e).logFile = s.logFile := by rw [hnoted]
  have htext := logText_note_of_lt (s := s) hlevel
  refine ⟨⟨?_, h.known_note he, ?_, ?_⟩, ?_, ?_⟩
  · rw [hfiles]
    exact h.workingDirectory
  · rw [htext]
    exact h.unicode
  · rw [hfiles, htext]
    exact h.content
  · rw [hlogFile, urgent_note_of_lt hlevel]
    exact h.logFile
  · rw [hfiles]
    exact h.readable

/-- Noting an urgent event writes its block at the end of the log. -/
theorem LogsTo.note_of_not_lt (h : s.LogsTo log start) {e : LogEvent} (he : IsKnown e)
    (hlevel : ¬e.level < Level.info) : (s.note e).LogsTo log start := by
  obtain ⟨hunicode, hblock⟩ := s.blockOf_eq ⟨log, s.urgent.isEmpty⟩ e
  obtain ⟨files, happend⟩ := FileSystem.exists_appendFile h.readable
    (s.blockOf ⟨log, s.urgent.isEmpty⟩ e)
  have hread := FileSystem.readFile_of_update happend
  have hworking := (FileSystem.AgreesOff.of_updateFile happend).workingDirectory
  have hnoted : s.note e = { s with
      events := s.events ++ [e], files, logFile := some ⟨log, false⟩ } := by
    rw [RunState.note, h.logFile]
    dsimp only
    rw [if_neg hlevel, happend]
  have hfiles : (s.note e).files = files := by rw [hnoted]
  have hcontent : files.contentOf log = s.files.contentOf log ++ _ :=
    FileSystem.contentOf_of_readFile hread
  have hnonempty : (s.urgent ++ [e]).isEmpty = false := by simp
  refine ⟨⟨?_, h.known_note he, ?_, ?_⟩, ?_, ?_⟩
  · rw [hfiles, hworking]
    exact h.workingDirectory
  · rw [logText_note hlevel, Text.isUnicode_append]
    exact ⟨h.unicode, hunicode⟩
  · rw [hfiles, hcontent, h.content, logText_note hlevel, List.flatMap_append,
      List.append_assoc, hblock]
  · rw [urgent_note hlevel, hnonempty]
    rw [hnoted]
  · rw [hfiles, hcontent]
    exact hread

/-- Noting an event puts its block, if it leaves one, behind the others. -/
theorem LogsTo.note (h : s.LogsTo log start) {e : LogEvent} (he : IsKnown e) :
    (s.note e).LogsTo log start := by
  by_cases hlevel : e.level < Level.info
  · exact h.note_of_lt he hlevel
  · exact h.note_of_not_lt he hlevel

end RunState

namespace Generate

open RunState

variable {s s' : RunState} {log : Path} {start : FileSystem} {paths : GeneratePaths}
  {suffix : Text} {isPlaceholder : PlaceholderTest}

/-- A run whose output is not the log adds the blocks of its events to the log. -/
theorem logsTo_of_run {outcome : Except Failure Report.RunSummary} (h : s.LogsTo log start)
    (hlog : log.IsResolved) (houtput : paths.output.IsResolved) (hne : paths.output ≠ log)
    (hrun : (run paths suffix isPlaceholder).run.run s = (outcome, s')) :
    s'.LogsTo log start := by
  have hs' : s' = ((run paths suffix isPlaceholder).run.run s).2 := by rw [hrun]
  rw [hs']
  refine maintains_run (P := LogsTo log start) (fun s e he hs => hs.note he.isKnown)
    (fun s files hs hgrows => ?_) (fun s files content hs hwrite => ?_)
    (h.note (IsOfRun.start _ _ _ _).isKnown) isPlaceholder
  · exact hs.of_files hgrows.workingDirectory fun _ => hgrows.readFile
  · have hagrees := FileSystem.AgreesOff.of_updateFile hwrite
    have hapart : some (s.files.placeOf paths.output) ≠ some (s.files.placeOf log) :=
      fun heq => FileSystem.placeOf_ne_of_isResolved houtput hlog hne (Option.some.inj heq)
    exact hs.of_files hagrees.workingDirectory fun _ => hagrees.readFile hapart

end Generate

end CommandDocs
