import CommandDocs.Proofs.Corpus.GenerateRun
import CommandDocs.Proofs.Record.Regeneration

/-!
# Runs on an earlier output

A run whose baseline is the output of a run before it, with the same pages, writes the same
bytes. It reads each record as an entry, and merging takes from the entry only what merging
has left in it before.
-/

namespace CommandDocs

open RunState

variable {s s' : RunState} {paths : GeneratePaths} {suffix : Text} {output : Path}
  {isPlaceholder : PlaceholderTest} {baselines : List BaselineRecord}

/-- Events are written to none of the files of a run, and to no entry of the directory that bears
the suffix. But for an entry named by two dots, which no directory has, the latter are
the pages. -/
structure RunState.LogsAside (s : RunState) (paths : GeneratePaths) (suffix : Text) : Prop
    extends s.LogsApart paths suffix where
  /-- The log is no entry with the suffix. -/
  entries : ∀ name, s.logPlace? ≠ some (s.files.placeOf paths.pages ++ [name ++ suffix])

/-- A run without a log file is aside from it. -/
theorem RunState.logsAside_of_none (h : s.logFile = none) : s.LogsAside paths suffix := by
  refine ⟨logsApart_of_none h, fun name => ?_⟩
  rw [logPlace?, h, Option.map_none]
  exact (Option.some_ne_none _).symm

/-- The output can be opened, whatever is in the log by then. -/
def RunState.CanWrite (s : RunState) (output : Path) : Prop :=
  ∀ fs, FileSystem.AgreesOff s.logPlace? s.files fs → fs.CanOpen output

/-- An output that is there can be written over. -/
theorem RunState.canWrite_of_readFile {content : Bytes}
    (h : s.files.readFile output = .ok content) (hparts : output.parts ≠ [])
    (hlog : s.logPlace? ≠ some (s.files.placeOf output)) : s.CanWrite output :=
  fun _ hagrees => FileSystem.canOpen_of_readFile (hagrees.readFile hlog h) hparts

/-- Each command merged with the page that is listed under its name. -/
def FileSystem.mergedRecords (fs : FileSystem) (directory : Path) (suffix : Text)
    (isPlaceholder : PlaceholderTest) (baselines : List BaselineRecord) : List MergedRecord :=
  baselines.map fun b => b.merge isPlaceholder (fs.pageNamed? directory suffix b.name)

/-- Noting events changes nothing about the pages that are listed. -/
theorem RunState.LogsAside.mergedRecords (h : s.LogsAside paths suffix) (hnoted : OnlyNoted s s')
    (isPlaceholder : PlaceholderTest) (baselines : List BaselineRecord) :
    s'.files.mergedRecords paths.pages suffix isPlaceholder baselines =
      s.files.mergedRecords paths.pages suffix isPlaceholder baselines :=
  List.map_congr_left fun b _ => by
    rw [hnoted.files.pageNamed? (h.pages b.name) (h.entries b.name)]

namespace Generate

/-- The first stage ends well where the baseline is read and pages are listed. -/
theorem exists_run_prepare (hlog : s.LogsAside paths suffix)
    (hbaselines : s.files.readBaseline paths.baseline = .ok baselines)
    (hlist : ∃ found, s.files.listPages paths.pages suffix = .ok found)
    (isPlaceholder : PlaceholderTest) :
    ∃ found corpus s',
      (prepare paths suffix isPlaceholder).run.run s = (.ok (found, corpus), s') ∧
        corpus.records = s.files.mergedRecords paths.pages suffix isPlaceholder baselines := by
  have hstarted := onlyNoted_note s (.runStart paths.baseline paths.pages paths.output suffix)
  have hread := FileSystem.readBaseline_of_kept
    (fun content => (hstarted.sameContent hlog.baseline content).mpr) hbaselines
  have hloaded := hstarted.trans
    (onlyNoted_note _ (.baselineLoaded paths.baseline baselines.length))
  obtain ⟨found, s₁, hscan⟩ :=
    exists_run_scan (hloaded.files.exists_listPages hlog.pages hlog.entries hlist)
  obtain ⟨-, hfind⟩ := run_scan hscan fun name => hloaded.apart (hlog.pages name)
  simp only [prepare, merge, Run.run_bind_eq_ok, Run.run_ask_eq_ok, Run.run_report_eq_ok,
    Run.run_pure_eq_ok]
  refine ⟨found, mergeCorpus isPlaceholder baselines found.pages, _, ⟨(), _, rfl, baselines, _,
    ⟨hread, rfl⟩, (), _, rfl, found, s₁, hscan, _, _, ⟨(), _, rfl, rfl, rfl⟩, rfl, rfl⟩, ?_⟩
  rw [← hlog.mergedRecords hloaded, mergeCorpus, FileSystem.mergedRecords]
  simp only [hfind]

/-- A run that ends well leaves the text of the merged records in its output. -/
theorem text_of_run {summary : Report.RunSummary}
    (hrun : (run paths suffix isPlaceholder).run.run s = (.ok summary, s'))
    (hlog : s.LogsAside paths suffix) :
    ∃ baselines text bytes, s.files.readBaseline paths.baseline = .ok baselines ∧
      corpusText (s.files.mergedRecords paths.pages suffix isPlaceholder baselines) = .ok text ∧
      Utf8.encode text = .ok bytes ∧ s'.files.readFile paths.output = .ok bytes := by
  obtain ⟨baselines, s₁, _, found, text, bytes, hbaselines, hstarted, hscan, htext, hencode,
    hfile⟩ := output_of_run hrun hlog.baseline hlog.output
  obtain ⟨-, hfind⟩ := run_scan hscan fun name => hstarted.apart (hlog.pages name)
  refine ⟨baselines, text, bytes, hbaselines, ?_, hencode, hfile⟩
  rw [← htext, ← hlog.mergedRecords hstarted, mergeCorpus, FileSystem.mergedRecords]
  simp only [hfind]

/-- The output of a run that ended well can be written over. -/
theorem canWrite_of_run {summary : Report.RunSummary}
    (hrun : (run paths suffix isPlaceholder).run.run s = (.ok summary, s'))
    (hlog : s.LogsAside paths suffix) : s'.CanWrite paths.output := by
  obtain ⟨_, _, _, -, -, -, hfile⟩ := text_of_run hrun hlog
  obtain ⟨found, corpus, s₁, s₂, hprepare, hwrite, hwritten⟩ := run_eq_ok hrun
  obtain ⟨text, bytes, opened, written, -, -, hdirectories, hopened, -, -⟩ :=
    run_writeCorpus_eq_ok.mp hwrite
  have hparts := FileSystem.CanOpen.parts_ne_nil ⟨hdirectories, opened, hopened⟩
  have hprepared : OnlyNoted s s₁ := (onlyNotes_prepare _ _ _).onlyNoted hprepare
  obtain ⟨hplace, hlogPlace⟩ := placeOf_of_run_writeCorpus hwrite
  refine canWrite_of_readFile hfile hparts (hwritten.apart ?_)
  rw [hlogPlace, hplace]
  exact hprepared.apart hlog.output

/-- Where the baseline is read, pages are listed and the output can be opened, a run ends well
with the text of the merged records, if that has bytes. -/
theorem exists_run {text : Text} {bytes : Bytes} (hlog : s.LogsAside paths suffix)
    (hbaselines : s.files.readBaseline paths.baseline = .ok baselines)
    (hlist : ∃ found, s.files.listPages paths.pages suffix = .ok found)
    (hopen : s.CanWrite paths.output)
    (htext : corpusText (s.files.mergedRecords paths.pages suffix isPlaceholder baselines) =
      .ok text) (hencode : Utf8.encode text = .ok bytes) :
    ∃ summary s', (run paths suffix isPlaceholder).run.run s = (.ok summary, s') ∧
      s'.files.readFile paths.output = .ok bytes := by
  obtain ⟨found, corpus, s₁, hprepare, hrecords⟩ :=
    exists_run_prepare hlog hbaselines hlist isPlaceholder
  have hprepared : OnlyNoted s s₁ := (onlyNotes_prepare _ _ _).onlyNoted hprepare
  obtain ⟨hdirectories, opened, hopened⟩ := hopen s₁.files hprepared.files
  obtain ⟨written, hwritten⟩ := FileSystem.writeFile_of_writeFile hopened bytes
  have hwrite : (writeCorpus paths.output corpus.records).run.run s₁ =
      (.ok (), { s₁ with files := written }) :=
    run_writeCorpus_eq_ok.mpr ⟨text, bytes, opened, written, hrecords ▸ htext, hencode,
      hdirectories, hopened, hwritten, rfl⟩
  have hconclude : ∃ summary s', (conclude paths.output found corpus).run.run s₁ =
      (.ok summary, s') ∧ OnlyNoted { s₁ with files := written } s' :=
    ⟨_, _, run_conclude_eq_ok.mpr ⟨_, hwrite, rfl, rfl⟩, onlyNoted_note _ _⟩
  obtain ⟨summary, s', hconclude, hnoted⟩ := hconclude
  obtain ⟨text', bytes', htext', hencode', hfile⟩ :=
    output_of_run_writeCorpus hwrite hnoted (hprepared.apart hlog.output)
  rw [hrecords, htext, Except.ok.injEq] at htext'
  rw [← htext', hencode, Except.ok.injEq] at hencode'
  rw [← hencode'] at hfile
  refine ⟨summary, s', ?_, hfile⟩
  rw [run_eq_bind, Run.run_bind_eq_ok]
  exact ⟨(found, corpus), s₁, hprepare, hconclude⟩

/-- The items of a written corpus are read as the entries that have its objects. -/
theorem readBaseline_of_corpusText {fs : FileSystem} {p : Path} {bytes : Bytes} {text : Text}
    {records : List MergedRecord} (hfile : fs.readFile p = .ok bytes)
    (htext : corpusText records = .ok text) (hencode : Utf8.encode text = .ok bytes)
    (hproper : ∀ r ∈ records, r.IsProper) :
    fs.readBaseline p = .ok (records.map fun r => r.finitePart.asBaseline) := by
  rw [FileSystem.readBaseline_eq_ok]
  refine ⟨_, readItems_of_corpusText hfile htext hencode hproper _, ?_⟩
  rw [List.forall₂_map_left_iff, List.forall₂_map_right_iff, List.forall₂_same]
  intro r hr
  have hfurther := (hproper r hr).finitePart.further
  refine MergedRecord.ofJson_asBaseline (fun name hname hdeclared =>
    hfurther name hname (List.mem_append_left _ hdeclared)) fun name hname => ?_
  rw [MergedRecord.finitePart, Json.keys_finiteMembers] at hname
  obtain ⟨member, hmember, rfl⟩ := List.mem_map.mp hname
  exact (Json.checkWritableMembers_eq_ok.mp ((corpusText_eq_ok.mp htext).2.1 r hr) member hmember).1

/-- Without the numbers that JSON does not know records have the same text. -/
theorem corpusText_map_finitePart {records : List MergedRecord} {text : Text}
    (htext : corpusText records = .ok text) :
    corpusText (records.map MergedRecord.finitePart) = .ok text := by
  obtain ⟨rfl, hchecks, hshort⟩ := corpusText_eq_ok.mp htext
  have hsame : MergedRecord.collection (records.map MergedRecord.finitePart) =
      MergedRecord.collection records := by
    rw [MergedRecord.collection, MergedRecord.collection, List.map_map]
    simp only [Function.comp_def, MergedRecord.finitePart_finitePart]
  refine corpusText_eq_ok.mpr ⟨by rw [hsame], List.forall_mem_map.mpr fun r hr => ?_, ?_⟩
  · rw [MergedRecord.finitePart, Json.checkWritableMembers_finiteMembers]
    exact hchecks r hr
  · rw [hsame]
    exact hshort

/-- Records that were read as entries and are merged again with the same pages are the records,
without the numbers that JSON does not know. -/
theorem mergedRecords_again {fs fs₂ : FileSystem} {directory directory₂ : Path}
    (hpages : ∀ name, fs₂.pageNamed? directory₂ suffix name = fs.pageNamed? directory suffix name)
    (isPlaceholder : PlaceholderTest) (baselines : List BaselineRecord) :
    fs₂.mergedRecords directory₂ suffix isPlaceholder
        ((fs.mergedRecords directory suffix isPlaceholder baselines).map fun r =>
          r.finitePart.asBaseline) =
      (fs.mergedRecords directory suffix isPlaceholder baselines).map MergedRecord.finitePart := by
  simp only [FileSystem.mergedRecords, List.map_map]
  refine List.map_congr_left fun b _ => ?_
  have hname : (b.merge isPlaceholder
      (fs.pageNamed? directory suffix b.name)).finitePart.asBaseline.name = b.name :=
    (BaselineRecord.merge_eq b isPlaceholder _).1
  simp only [Function.comp_apply, hname, hpages, BaselineRecord.merge_asBaseline]

/-- Regeneration is idempotent.
1. The payload of a merged record is accepted as an entry of a baseline, and merged with the
same page under the same test that entry has the same payload.
2. A run whose baseline holds what an earlier run wrote, with the same pages, ends well and
writes the same bytes, into the same output or into any other that can be opened. The log of either
run, if there is one, is none of its files. -/
theorem regenerate (isPlaceholder : PlaceholderTest) :
    (∀ (b : BaselineRecord) (page : Option Page.Extraction) (payload : Json),
      (∀ name ∈ b.extras.keys, name ∉ BaselineRecord.declaredNames) →
      (b.merge isPlaceholder page).payload = .ok payload →
      ∃ again, BaselineRecord.ofJson payload = .ok again ∧
        (again.merge isPlaceholder page).payload = .ok payload) ∧
    ∀ (s s' : RunState) (paths : GeneratePaths) (suffix : Text) (summary : Report.RunSummary),
      (run paths suffix isPlaceholder).run.run s = (.ok summary, s') → s.LogsAside paths suffix →
      ∃ bytes, s'.files.readFile paths.output = .ok bytes ∧ s'.CanWrite paths.output ∧
        ∀ (s₂ : RunState) (paths₂ : GeneratePaths), s₂.LogsAside paths₂ suffix →
          s₂.files.readFile paths₂.baseline = .ok bytes →
          (∃ found, s₂.files.listPages paths₂.pages suffix = .ok found) →
          (∀ name, s₂.files.pageNamed? paths₂.pages suffix name =
            s.files.pageNamed? paths.pages suffix name) →
          s₂.CanWrite paths₂.output →
          ∃ summary₂ s₂', (run paths₂ suffix isPlaceholder).run.run s₂ = (.ok summary₂, s₂') ∧
            s₂'.files.readFile paths₂.output = .ok bytes := by
  refine ⟨fun b page payload => BaselineRecord.payload_merge_again, ?_⟩
  intro s s' paths suffix summary hrun hlog
  obtain ⟨baselines, text, bytes, hbaselines, htext, hencode, hfile⟩ := text_of_run hrun hlog
  refine ⟨bytes, hfile, canWrite_of_run hrun hlog, ?_⟩
  intro s₂ paths₂ hlog₂ hbaseline hlist hpages hopen
  have hproper : ∀ r ∈ s.files.mergedRecords paths.pages suffix isPlaceholder baselines,
      r.IsProper := by
    intro r hr
    obtain ⟨b, hb, rfl⟩ := List.mem_map.mp hr
    exact BaselineRecord.isProper_merge
      (FileSystem.areFurther_of_readBaseline hbaselines b hb) isPlaceholder _
  refine exists_run hlog₂ (readBaseline_of_corpusText hbaseline htext hencode hproper) hlist
    hopen ?_ hencode
  rw [mergedRecords_again hpages]
  exact corpusText_map_finitePart htext

/-- A file beside the sample leaves its pages as they are. -/
theorem pages_sampleFiles (bytes : Bytes) :
    (∃ found, (sampleFiles.setNode ["out.json"] (.file bytes)).listPages samplePaths.pages
      defaultSuffix = .ok found) ∧
    ∀ name, (sampleFiles.setNode ["out.json"] (.file bytes)).pageNamed? samplePaths.pages
      defaultSuffix name = sampleFiles.pageNamed? samplePaths.pages defaultSuffix name := by
  have hwritten : sampleFiles.writeFile samplePaths.output bytes =
      .ok (sampleFiles.setNode ["out.json"] (.file bytes)) := rfl
  have hagrees : FileSystem.AgreesOff (some ["out.json"]) sampleFiles
      (sampleFiles.setNode ["out.json"] (.file bytes)) := .of_updateFile hwritten
  have hentries : ∀ name : Text, some [("out.json" : Text)] ≠
      some (sampleFiles.placeOf samplePaths.pages ++ [name ++ defaultSuffix]) := by
    intro name h
    cases h
  have hpages : ∀ name : Text, some [("out.json" : Text)] ≠
      some (sampleFiles.placeOf (samplePaths.pages.child (name ++ defaultSuffix))) := by
    intro name
    by_cases hname : name ++ defaultSuffix = Path.parentName
    · rw [hname]
      decide
    · rw [FileSystem.placeOf_child hname]
      exact hentries name
  exact ⟨hagrees.exists_listPages hpages hentries ⟨_, listPages_sampleFiles⟩,
    fun name => hagrees.pageNamed? (hpages name) (hentries name)⟩

/-- The entry of the sample has the same payload when it is merged again, and a second run on the
output of the run on the sample, over that output, writes the same bytes. -/
theorem regenerate_sampleState :
    (∃ payload again, (sampleEntry.merge (placeholderTest defaultPlaceholder)
        (some samplePage)).payload = .ok payload ∧
      BaselineRecord.ofJson payload = .ok again ∧
      (again.merge (placeholderTest defaultPlaceholder) (some samplePage)).payload =
        .ok payload) ∧
    ∃ summary s' bytes summary₂ s₂',
      (run samplePaths defaultSuffix (placeholderTest defaultPlaceholder)).run.run sampleState =
        (.ok summary, s') ∧
      s'.files.readFile samplePaths.output = .ok bytes ∧
      (run { samplePaths with baseline := samplePaths.output } defaultSuffix
        (placeholderTest defaultPlaceholder)).run.run s' = (.ok summary₂, s₂') ∧
      s₂'.files.readFile samplePaths.output = .ok bytes := by
  obtain ⟨hrecord, hruns⟩ := regenerate (placeholderTest defaultPlaceholder)
  constructor
  · obtain ⟨again, hread, hagain⟩ :=
      hrecord sampleEntry (some samplePage) sampleMerged.toJson (fun _ h => nomatch h) rfl
    exact ⟨_, again, rfl, hread, hagain⟩
  · obtain ⟨summary, s', content, hrun, hfiles, hlog⟩ := run_sampleState
    obtain ⟨bytes, hfile, hopen, hsecond⟩ :=
      hruns _ _ _ _ _ hrun (logsAside_of_none rfl)
    obtain ⟨hlist, hpages⟩ := pages_sampleFiles content
    rw [← hfiles] at hlist hpages
    obtain ⟨summary₂, s₂', hrun₂, hfile₂⟩ := hsecond s'
      { samplePaths with baseline := samplePaths.output } (logsAside_of_none hlog) hfile hlist
      hpages hopen
    exact ⟨summary, s', bytes, summary₂, s₂', hrun, hfile, hrun₂, hfile₂⟩

end Generate

end CommandDocs
