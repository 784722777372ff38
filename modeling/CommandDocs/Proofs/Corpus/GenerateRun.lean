import CommandDocs.Proofs.Corpus.Pages
import CommandDocs.Proofs.Corpus.Stages
import CommandDocs.Proofs.Corpus.Writing

/-!
# What a generation run writes

A run that ends well leaves a corpus in which each record comes from the entry of the
baseline in the same position and from the page of that entry alone. Until the corpus is
written nothing changes but the log, so that every page is read as it was before the run.
-/

namespace CommandDocs

open RunState

variable {s s' : RunState} {paths : GeneratePaths} {directory p : Path} {suffix : Text}
  {found : List Path} {isPlaceholder : PlaceholderTest}

/-- Events are written to none of the files of a run: not to the baseline, not to a page that
the suffix selects, and not to the corpus. -/
structure RunState.LogsApart (s : RunState) (paths : GeneratePaths) (suffix : Text) : Prop where
  /-- The log is not the baseline. -/
  baseline : s.logPlace? ≠ some (s.files.placeOf paths.baseline)
  /-- The log is not a page. -/
  pages : ∀ name, s.logPlace? ≠ some (s.files.placeOf (paths.pages.child (name ++ suffix)))
  /-- The log is not the corpus. -/
  output : s.logPlace? ≠ some (s.files.placeOf paths.output)

/-- A run without a log file is apart from it, whatever its files are. -/
theorem RunState.logsApart_of_none (h : s.logFile = none) : s.LogsApart paths suffix := by
  have hnone : s.logPlace? = none := by rw [logPlace?, h, Option.map_none]
  constructor
  · simp [hnone]
  · simp [hnone]
  · simp [hnone]

/-- Pages apart from the log say the same after events were noted. -/
theorem RunState.OnlyNoted.pagesAt (h : OnlyNoted s s')
    (hfound : ∀ p ∈ found, s.logPlace? ≠ some (s.files.placeOf p)) :
    s'.files.pagesAt found = s.files.pagesAt found := by
  induction found with
  | nil => rfl
  | cons p rest ih =>
    rw [List.forall_mem_cons] at hfound
    rw [FileSystem.pagesAt_cons, FileSystem.pagesAt_cons, h.files.pageAt? hfound.1, ih hfound.2]

/-- The page of a command, apart from the log, says the same after events were noted. -/
theorem RunState.OnlyNoted.pageOf? (h : OnlyNoted s s') {name : Text}
    (hpage : s.logPlace? ≠ some (s.files.placeOf (directory.child (name ++ suffix)))) :
    s'.files.pageOf? directory suffix name = s.files.pageOf? directory suffix name := by
  rw [FileSystem.pageOf?, FileSystem.pageOf?, h.files.pageAt? hpage]

namespace Generate

/-- What reading one page does: nothing when the page can be read, and otherwise it is noted as
passed over. -/
inductive ReadStep (s : RunState) (p : Path) : RunState → Prop
  /-- The page can be read. -/
  | read {page : Page.Extraction} (h : s.files.pageAt? p = some page) : ReadStep s p s
  /-- The page is passed over. -/
  | skip (reason : Text) (h : s.files.pageAt? p = none) :
    ReadStep s p (s.note (.pageSkipped p reason))

/-- Reading one page does nothing but note an event. -/
theorem ReadStep.onlyNoted (h : ReadStep s p s') : OnlyNoted s s' := by
  cases h with
  | read => exact .refl s
  | skip reason => exact onlyNoted_note s _

/-- One page is read before the others. It is put in front of the others that can be read, or its
name in front of the others that cannot. -/
theorem run_readPages_cons {pairs : List (Text × Page.Extraction)} {skipped : List Text}
    (h : (readPages (p :: found)).run.run s = (.ok (pairs, skipped), s')) :
    ∃ s₁ pages others, ReadStep s p s₁ ∧
      (readPages found).run.run s₁ = (.ok (pages, others), s') ∧
      pairs = ((s.files.pageAt? p).map fun page => (p.stem, page)).toList ++ pages ∧
      skipped = if (s.files.pageAt? p).isSome then others else p.name :: others := by
  rw [readPages, Run.run_bind_eq_ok] at h
  obtain ⟨now, s₁, hget, h⟩ := h
  cases hget
  dsimp only at h
  cases hpage : s.files.readPage p with
  | ok text =>
    rw [hpage, Run.run_bind_eq_ok] at h
    obtain ⟨⟨pages, others⟩, s₁, hrest, h⟩ := h
    rw [Run.run_pure_eq_ok] at h
    obtain ⟨hpairs, rfl⟩ := h
    cases hpairs
    have hsaid : s.files.pageAt? p = some (Page.extract text) :=
      FileSystem.pageAt?_eq_some.mpr ⟨text, mapError_eq_ok.mp hpage, rfl⟩
    rw [hsaid]
    exact ⟨s, pages, others, .read hsaid, hrest, rfl, rfl⟩
  | error failure =>
    rw [hpage, Run.run_bind_eq_ok] at h
    obtain ⟨u, s₁, hreport, h⟩ := h
    rw [Run.run_report_eq_ok] at hreport
    rw [Run.run_bind_eq_ok] at h
    obtain ⟨⟨pages, others⟩, s₂, hrest, h⟩ := h
    rw [Run.run_pure_eq_ok] at h
    obtain ⟨hpairs, rfl⟩ := h
    cases hpairs
    have hsaid : s.files.pageAt? p = none := FileSystem.pageAt?_of_readPage_error hpage
    subst hreport
    rw [hsaid]
    exact ⟨_, pages, others, .skip _ hsaid, hrest, rfl, rfl⟩

/-- Reading pages gives those that can be read, and nothing happens but that the others are
noted. -/
theorem run_readPages {pairs : List (Text × Page.Extraction)} {skipped : List Text}
    (h : (readPages found).run.run s = (.ok (pairs, skipped), s'))
    (hfound : ∀ p ∈ found, s.logPlace? ≠ some (s.files.placeOf p)) :
    OnlyNoted s s' ∧ pairs = s.files.pagesAt found := by
  refine ⟨(onlyNotes_readPages found).onlyNoted h, ?_⟩
  induction found generalizing s pairs skipped with
  | nil =>
    rw [readPages, Run.run_pure_eq_ok] at h
    obtain ⟨hpairs, rfl⟩ := h
    cases hpairs
    rfl
  | cons p rest ih =>
    rw [List.forall_mem_cons] at hfound
    obtain ⟨s₁, pages, others, hstep, hrest, hpairs, -⟩ := run_readPages_cons h
    have hnoted := hstep.onlyNoted
    -- the later pages are apart from the log as before, so they say the same
    rw [hpairs, ih hrest fun p hp => hnoted.apart (hfound.2 p hp), hnoted.pagesAt hfound.2,
      FileSystem.pagesAt_cons]

/-- Scanning gives under each name the page that is listed under it. -/
theorem run_scan {answer : Scan} (h : (scan directory suffix).run.run s = (.ok answer, s'))
    (hpages : ∀ name, s.logPlace? ≠ some (s.files.placeOf (directory.child (name ++ suffix)))) :
    OnlyNoted s s' ∧
      ∀ name, answer.pages.find? name = s.files.pageNamed? directory suffix name := by
  obtain ⟨found, pairs, skipped, s₁, hlist, hread, rfl, rfl⟩ := run_scan_eq_ok.mp h
  obtain ⟨hnoted, rfl⟩ := run_readPages hread fun p hp => by
    rw [(FileSystem.eq_child_of_mem_listPages hlist hp).1]
    exact hpages _
  exact ⟨hnoted.trans (onlyNoted_note s₁ _), FileSystem.find?_pagesAt hlist⟩

/-- Every page that is read was extracted from the text of a file. -/
theorem exists_text_of_run_readPages {pairs : List (Text × Page.Extraction)} {skipped : List Text}
    (h : (readPages found).run.run s = (.ok (pairs, skipped), s')) :
    ∀ pair ∈ pairs, ∃ (fs : FileSystem) (p : Path) (text : Text),
      fs.readText p = .ok text ∧ Page.extract text = pair.2 := by
  induction found generalizing s pairs skipped with
  | nil =>
    rw [readPages, Run.run_pure_eq_ok] at h
    cases h.1
    exact List.forall_mem_nil _
  | cons p rest ih =>
    obtain ⟨s₁, pages, others, -, hrest, rfl, -⟩ := run_readPages_cons h
    refine List.forall_mem_append.mpr ⟨fun pair hpair => ?_, ih hrest⟩
    obtain ⟨page, hpage, rfl⟩ := Option.map_eq_some_iff.mp (Option.mem_toList.mp hpair)
    exact ⟨s.files, p, FileSystem.pageAt?_eq_some.mp hpage⟩

/-- Every page that is found was extracted from the text of a file. -/
theorem exists_text_of_run_scan {answer : Scan}
    (h : (scan directory suffix).run.run s = (.ok answer, s')) :
    ∀ entry ∈ answer.pages, ∃ (fs : FileSystem) (p : Path) (text : Text),
      fs.readText p = .ok text ∧ Page.extract text = entry.2 := by
  obtain ⟨found, pairs, skipped, s₁, -, hread, rfl, -⟩ := run_scan_eq_ok.mp h
  exact fun entry hentry => exists_text_of_run_readPages hread entry
    (Entries.mem_of_mem_ofPairs hentry)

/-- A run that ends well leaves in its output the text of the baseline merged with the pages
that were found. -/
theorem output_of_run {summary : Report.RunSummary}
    (hrun : (run paths suffix isPlaceholder).run.run s = (.ok summary, s'))
    (hbaseline : s.logPlace? ≠ some (s.files.placeOf paths.baseline))
    (houtput : s.logPlace? ≠ some (s.files.placeOf paths.output)) :
    ∃ baselines s₁ s₂ found text bytes, s.files.readBaseline paths.baseline = .ok baselines ∧
      OnlyNoted s s₁ ∧ (scan paths.pages suffix).run.run s₁ = (.ok found, s₂) ∧
      corpusText (mergeCorpus isPlaceholder baselines found.pages).records = .ok text ∧
      Utf8.encode text = .ok bytes ∧ s'.files.readFile paths.output = .ok bytes := by
  obtain ⟨found, corpus, s₂, s₃, hprepare, hwrite, hwritten⟩ := run_eq_ok hrun
  obtain ⟨baselines, s₁, s₁', hbaselines, hstarted, hscan, rfl⟩ :=
    run_prepare_eq_ok hprepare hbaseline
  have hprepared : OnlyNoted s s₂ := (onlyNotes_prepare _ _ _).onlyNoted hprepare
  obtain ⟨text, bytes, htext, hencode, hfile⟩ :=
    output_of_run_writeCorpus hwrite hwritten (hprepared.apart houtput)
  exact ⟨baselines, s₁, s₁', found, text, bytes, hbaselines, hstarted, hscan, htext, hencode, hfile⟩

/-- All records of a baseline merged with pages are proper. -/
theorem isProper_mergeCorpus {fs : FileSystem} {baselines : List BaselineRecord}
    (hbaselines : fs.readBaseline p = .ok baselines) (isPlaceholder : PlaceholderTest)
    (pages : Entries Text Page.Extraction) :
    ∀ r ∈ (mergeCorpus isPlaceholder baselines pages).records, r.IsProper := by
  intro r hr
  obtain ⟨b, hb, rfl⟩ := List.mem_map.mp hr
  exact BaselineRecord.isProper_merge
    (FileSystem.areFurther_of_readBaseline hbaselines b hb) isPlaceholder _

/-- All records of the first stage are proper. -/
theorem isProper_of_run_prepare {found : Scan} {corpus : MergedCorpus}
    (h : (prepare paths suffix isPlaceholder).run.run s = (.ok (found, corpus), s')) :
    ∀ r ∈ corpus.records, r.IsProper := by
  simp only [prepare, merge, Run.run_bind_eq_ok, Run.run_ask_eq_ok, Run.run_report_eq_ok,
    Run.run_pure_eq_ok] at h
  obtain ⟨_, _, rfl, baselines, _, ⟨hbaselines, rfl⟩, _, _, rfl, _, _, -, _, _,
    ⟨_, _, rfl, rfl, rfl⟩, h, rfl⟩ := h
  cases h
  exact isProper_mergeCorpus hbaselines _ _

/-- From the text of a baseline merged with pages each entry is read with its page, without the
numbers that JSON does not know. -/
theorem readCommandData_of_mergeCorpus {fs fs' : FileSystem} {output : Path} {text : Text}
    {bytes : Bytes} {baselines : List BaselineRecord} {pages : Entries Text Page.Extraction}
    (hbaselines : fs.readBaseline p = .ok baselines)
    (htext : corpusText (mergeCorpus isPlaceholder baselines pages).records = .ok text)
    (hencode : Utf8.encode text = .ok bytes) (hfile : fs'.readFile output = .ok bytes) :
    fs'.readCommandData output = .ok (baselines.map fun b =>
      (b.merge isPlaceholder (pages.find? b.name)).finitePart) := by
  rw [readCommandData_of_corpusText hfile htext hencode
    (isProper_mergeCorpus hbaselines isPlaceholder pages), mergeCorpus, List.map_map]
  rfl

/-- Each record of the corpus that a run writes comes from the entry in its position and the
page of that entry. -/
theorem readCommandData_of_run {summary : Report.RunSummary}
    (hrun : (run paths suffix isPlaceholder).run.run s = (.ok summary, s'))
    (hsuffix : Path.IsSuffix suffix) (hlog : s.LogsApart paths suffix) :
    ∃ baselines, s.files.readBaseline paths.baseline = .ok baselines ∧
      s'.files.readCommandData paths.output = .ok (baselines.map fun b =>
        (b.merge isPlaceholder (s.files.pageOf? paths.pages suffix b.name)).finitePart) := by
  obtain ⟨baselines, s₁, _, found, text, bytes, hbaselines, hstarted, hscan, htext, hencode,
    hfile⟩ := output_of_run hrun hlog.baseline hlog.output
  obtain ⟨-, hfind⟩ := run_scan hscan fun name => hstarted.apart (hlog.pages name)
  refine ⟨baselines, hbaselines, ?_⟩
  rw [readCommandData_of_mergeCorpus hbaselines htext hencode hfile]
  refine congrArg Except.ok (List.map_congr_left fun b _ => ?_)
  rw [hfind, FileSystem.pageNamed?_eq_pageOf? hsuffix, hstarted.pageOf? (hlog.pages b.name)]

/-- The corpus that a run writes has one record for each entry of the baseline, in their
order, merged with the page that bears the name of the entry. Entries that agree, and whose
pages say the same or are missing alike, have the same record in any two corpora, whatever
other entries and pages there are. A log, if there is one, is none of the files of the run. -/
theorem run_pointwise {summary : Report.RunSummary}
    (hrun : (run paths suffix isPlaceholder).run.run s = (.ok summary, s'))
    (hsuffix : Path.IsSuffix suffix) (hlog : s.LogsApart paths suffix) :
    ∃ baselines records, s.files.readBaseline paths.baseline = .ok baselines ∧
      s'.files.readCommandData paths.output = .ok records ∧
      records = baselines.map (fun b =>
        (b.merge isPlaceholder (s.files.pageOf? paths.pages suffix b.name)).finitePart) ∧
      ∀ (s₂ s₂' : RunState) (paths₂ : GeneratePaths) (summary₂ : Report.RunSummary),
        (run paths₂ suffix isPlaceholder).run.run s₂ = (.ok summary₂, s₂') →
        s₂.LogsApart paths₂ suffix →
        ∃ baselines₂ records₂, s₂.files.readBaseline paths₂.baseline = .ok baselines₂ ∧
          s₂'.files.readCommandData paths₂.output = .ok records₂ ∧
          ∀ (i j : ℕ) (b : BaselineRecord), baselines[i]? = some b → baselines₂[j]? = some b →
            s₂.files.pageOf? paths₂.pages suffix b.name =
              s.files.pageOf? paths.pages suffix b.name →
            records₂[j]? = records[i]? := by
  obtain ⟨baselines, hbaselines, hrecords⟩ := readCommandData_of_run hrun hsuffix hlog
  refine ⟨baselines, _, hbaselines, hrecords, rfl, fun s₂ s₂' paths₂ summary₂ hrun₂ hlog₂ => ?_⟩
  obtain ⟨baselines₂, hbaselines₂, hrecords₂⟩ := readCommandData_of_run hrun₂ hsuffix hlog₂
  refine ⟨baselines₂, _, hbaselines₂, hrecords₂, fun i j b hi hj hpage => ?_⟩
  rw [List.getElem?_map, List.getElem?_map, hi, hj, Option.map_some, Option.map_some, hpage]

/-- A baseline with one entry and a directory with its page. -/
def sampleFiles : FileSystem where
  nodes := [
    (["base.json"], .file ((Text.ofString
      "[\x7b\"name\": \"abs\", \"description\": \"d\", \"usage\": \"abs(x)\"\x7d]").flatMap
        Utf8.bytesOf)),
    (["docs"], .directory),
    (["docs", "abs.md"], .file ((Text.ofString "# Magnitude").flatMap Utf8.bytesOf))]
  workingDirectory := []

/-- The paths of a run on the sample. -/
def samplePaths : GeneratePaths :=
  ⟨⟨.relative, ["base.json"]⟩, ⟨.relative, ["docs"]⟩, ⟨.relative, ["out.json"]⟩⟩

/-- The state before a run on the sample, without a log. -/
def sampleState : RunState := { files := sampleFiles, clock := .epoch }

/-- The entry of the sample baseline. -/
def sampleEntry : BaselineRecord := { name := "abs", description := "d", usage := "abs(x)" }

/-- What the sample page says. -/
def samplePage : Page.Extraction :=
  { title := "Magnitude", summary := "Magnitude", body := "# Magnitude" }

/-- The entry and the page merged. -/
def sampleMerged : MergedRecord where
  name := "abs"
  description := "d"
  usage := "abs(x)"
  markdown := "# Magnitude"
  summary := "Magnitude"

/-- The sample page is listed. -/
theorem listPages_sampleFiles : sampleFiles.listPages samplePaths.pages defaultSuffix =
    .ok [⟨.relative, ["docs", "abs.md"]⟩] := by
  have hentries : sampleFiles.listDirectory samplePaths.pages =
      .ok [⟨.relative, ["docs", "abs.md"]⟩] := rfl
  have hfiles : sampleFiles.filesAmong
      ([⟨.relative, ["docs", "abs.md"]⟩].filter (·.suffix == defaultSuffix)) =
      .ok [⟨.relative, ["docs", "abs.md"]⟩] := rfl
  simp only [FileSystem.listPages, hentries, hfiles, Text.sortOn, List.mergeSort_singleton,
    Except.mapError, bind, Except.bind]

/-- A run on the sample ends well, with one more file. -/
theorem run_sampleState : ∃ summary s' bytes,
    (run samplePaths defaultSuffix (placeholderTest defaultPlaceholder)).run.run sampleState =
      (.ok summary, s') ∧ s'.files = sampleFiles.setNode ["out.json"] (.file bytes) ∧
      s'.logFile = none := by
  have htext : ∃ text bytes, corpusText [sampleMerged] = .ok text ∧
      Utf8.encode text = .ok bytes := ⟨_, _, rfl, rfl⟩
  obtain ⟨text, bytes, htext, hencode⟩ := htext
  have hdirectories : sampleFiles.ensureDirectories samplePaths.output.parent =
      (.ok (), sampleFiles) := FileSystem.ensureDirectories_of_present rfl
  have hopen : (sampleFiles.ensureDirectories samplePaths.output.parent).2.writeFile
      samplePaths.output [] = .ok (sampleFiles.setNode ["out.json"] (.file [])) := by
    rw [hdirectories]
    rfl
  simp only [run, merge, scan, Run.run_bind_eq_ok, Run.run_ask_eq_ok, Run.run_report_eq_ok,
    Run.run_pure_eq_ok, run_writeCorpus_eq_ok]
  exact ⟨_, _, bytes, ⟨(), _, rfl, [sampleEntry], _, ⟨rfl, rfl⟩, (), _, rfl,
    ⟨[("abs", samplePage)], []⟩, _, ⟨_, _, ⟨listPages_sampleFiles, rfl⟩,
      ([("abs", samplePage)], []), _, rfl, (), _, rfl, rfl, rfl⟩,
    ⟨[sampleMerged], 1, 0⟩, _, ⟨(), _, rfl, rfl, rfl⟩,
    (), _, ⟨text, bytes, sampleFiles.setNode ["out.json"] (.file []),
      sampleFiles.setNode ["out.json"] (.file bytes), htext, hencode,
      congrArg Prod.fst hdirectories, hopen, rfl, rfl⟩,
    (), _, rfl, rfl, rfl⟩, rfl, rfl⟩

/-- The usual suffix is one that names are listed by. -/
theorem isSuffix_defaultSuffix : Path.IsSuffix defaultSuffix :=
  ⟨"md", rfl, by decide, by decide⟩

/-- The run on the sample merges its entry with its page. -/
theorem run_sampleState_pointwise : ∃ summary s',
    (run samplePaths defaultSuffix (placeholderTest defaultPlaceholder)).run.run sampleState =
      (.ok summary, s') ∧
    sampleState.files.readBaseline samplePaths.baseline = .ok [sampleEntry] ∧
    s'.files.readCommandData samplePaths.output = .ok [sampleMerged] := by
  obtain ⟨summary, s', -, hrun, -⟩ := run_sampleState
  have hbaseline : sampleState.files.readBaseline samplePaths.baseline = .ok [sampleEntry] := rfl
  have hlog : sampleState.LogsApart samplePaths defaultSuffix := logsApart_of_none rfl
  obtain ⟨baselines, records, hread, hwritten, hrecords, -⟩ :=
    run_pointwise hrun isSuffix_defaultSuffix hlog
  rw [hbaseline, Except.ok.injEq] at hread
  refine ⟨summary, s', hrun, hbaseline, ?_⟩
  rw [hwritten, hrecords, ← hread]
  rfl

end Generate

end CommandDocs
