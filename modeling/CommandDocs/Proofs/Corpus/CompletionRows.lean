import CommandDocs.CommandLine.Program
import CommandDocs.Proofs.Corpus.SourcesAgree
import CommandDocs.Proofs.Page.Shape
import CommandDocs.Proofs.Text.Canonical
import CommandDocs.Report

/-!
# Rows of completion

A row for each name that matches: the name, filled up to a common column, and beside it the summary
of its page or the description of the baseline. Summaries of pages are single lines. Names and
descriptions of the baseline are shown as they are, so a row is broken exactly where one of these
is.
-/

namespace CommandDocs

/-- Two texts are unbroken together exactly when each of them is. -/
theorem Text.isUnbroken_append {s t : Text} :
    IsUnbroken (s ++ t) ↔ s.IsUnbroken ∧ t.IsUnbroken := List.forall_mem_append

namespace Report

variable {items : List CompletionItem} {item : CompletionItem} {width : ℕ} {t : Text}

/-- The width covers every label. -/
theorem length_le_labelWidth (h : item ∈ items) : item.label.length ≤ labelWidth items := by
  have hfold (items : List CompletionItem) (width : ℕ) :
      width ≤ items.foldl (fun width item => max width item.label.length) width ∧
        ∀ item ∈ items, item.label.length ≤
          items.foldl (fun width item => max width item.label.length) width := by
    induction items generalizing width with
    | nil => exact ⟨Nat.le_refl _, List.forall_mem_nil _⟩
    | cons first rest ih =>
      obtain ⟨hwidth, hrest⟩ := ih (max width first.label.length)
      rw [max_le_iff] at hwidth
      exact ⟨hwidth.1, List.forall_mem_cons.mpr ⟨hwidth.2, hrest⟩⟩
  exact (hfold items 0).2 item h

/-- A text that is not too long is filled up to the width. -/
theorem length_padded (h : t.length ≤ width) : (padded width t).length = width := by
  rw [padded, List.length_append, List.length_replicate]
  omega

/-- Filling up with spaces breaks no line. -/
theorem isUnbroken_padded : (padded width t).IsUnbroken ↔ t.IsUnbroken := by
  rw [padded, Text.isUnbroken_append]
  refine and_iff_left fun c hc => ?_
  rw [List.eq_of_mem_replicate hc]
  rfl

/-- Where each offer bears its name, its row consists of the name, filled up, and the detail. -/
theorem completionRows_map {itemOf : Text → CompletionItem} (hlabel : ∀ name,
    (itemOf name).label = name) (names : List Text) :
    completionRows (names.map itemOf) = names.map fun name =>
      padded (labelWidth (names.map itemOf)) name ++ "  " ++ (itemOf name).detail := by
  rw [completionRows, List.map_map]
  refine List.map_congr_left fun name _ => ?_
  rw [Function.comp_apply, hlabel]

end Report

/-! ### What is shown beside a name -/

/-- What is shown for an entry with the given page: the summary of the page, if it has one, or else
the description of the entry, or the usual placeholder where that is empty. -/
inductive BaselineRecord.Shows (b : BaselineRecord) (page : Option Page.Extraction) : Text → Prop
  /-- The page has a summary. -/
  | summary {said : Page.Extraction} (hpage : page = some said) (h : said.summary ≠ []) :
    Shows b page said.summary
  /-- The page has none, or there is no page. -/
  | description (hnone : ∀ said ∈ page, said.summary = []) (h : b.description ≠ []) :
    Shows b page b.description
  /-- The entry says nothing either. -/
  | placeholder (hnone : ∀ said ∈ page, said.summary = []) (h : b.description = []) :
    Shows b page defaultPlaceholder

namespace BaselineRecord

variable {b : BaselineRecord} {page : Option Page.Extraction} {detail : Text} {r : MergedRecord}

/-- Beside the name of a record that has only the texts of its entry its description is shown. -/
theorem shows_of_description (hnone : ∀ said ∈ page, said.summary = [])
    (hdescription : r.description = b.description)
    (hsummary : r.summary = [] ∨ r.summary = b.description) :
    b.Shows page (Completion.detail r) := by
  by_cases hempty : b.description = []
  · rw [hempty, or_self] at hsummary
    rw [Completion.detail, hsummary, hdescription, hempty]
    exact .placeholder hnone hempty
  · have hshown : Completion.detail r = b.description := by
      rw [Completion.detail, hdescription]
      rcases hsummary with hsummary | hsummary <;> rw [hsummary] <;> simp [hempty]
    rw [hshown]
    exact .description hnone hempty

/-- A merged record has the name of its entry. -/
theorem name_merge (b : BaselineRecord) (isPlaceholder : PlaceholderTest)
    (page : Option Page.Extraction) : (b.merge isPlaceholder page).name = b.name := by
  cases page <;> rfl

/-- Beside the name of a merged record stands what its page or its entry says. -/
theorem shows_merge (b : BaselineRecord) (isPlaceholder : PlaceholderTest)
    (hpage : ∀ said ∈ page, said.IsTidy) :
    b.Shows page (Completion.detail (b.merge isPlaceholder page)) := by
  cases page with
  | none =>
    exact shows_of_description (fun said h => absurd h (Option.not_mem_none said)) rfl (Or.inr rfl)
  | some said =>
    by_cases hsummary : said.summary = []
    · -- then the page has no description that could replace the one of the entry
      have hdescription : said.description = [] := by
        by_contra hne
        exact (hpage said rfl).summary_ne_nil.mpr (Or.inr hne) hsummary
      refine shows_of_description (fun other h => ?_) ?_ (Or.inl hsummary)
      · cases h
        exact hsummary
      · rw [merge, withPage, hdescription]
        rfl
    · have hshown : Completion.detail (b.merge isPlaceholder (some said)) = said.summary := by
        rw [Completion.detail, merge, withPage, if_pos (by simpa using hsummary)]
      rw [hshown]
      exact .summary rfl hsummary

/-- What is shown is broken only where the description of the entry is and no summary of a page
takes its place. -/
theorem Shows.isUnbroken_iff (h : b.Shows page detail) (hpage : ∀ said ∈ page, said.IsTidy) :
    detail.IsUnbroken ↔
      ((∀ said ∈ page, said.summary = []) → b.description.IsUnbroken) := by
  cases h with
  | @summary said hsaid hne =>
    refine iff_of_true (hpage said hsaid).summary fun hnone => ?_
    exact absurd (hnone said hsaid) hne
  | description hnone => exact (imp_iff_right hnone).symm
  | placeholder hnone hempty =>
    refine iff_of_true (by decide) fun _ => ?_
    rw [hempty]
    exact List.forall_mem_nil _

end BaselineRecord

/-! ### The command -/

namespace Program

variable {env : Surroundings} {source : IndexArguments} {s : RunState} {index : CommandIndex}
  {loaded : LoadedRecords}

/-- Without a log file events are only kept. -/
theorem run_forM_report (hlog : s.logFile = none) (events : List LogEvent) :
    (events.forM Run.report).run.run s = (.ok (), { s with events := s.events ++ events }) := by
  induction events generalizing s with
  | nil =>
    rw [List.append_nil]
    rfl
  | cons e rest ih =>
    have hnote : s.note e = { s with events := s.events ++ [e] } := by
      rw [RunState.note, hlog]
    have hfirst : (e :: rest).forM Run.report =
        Run.report e >>= fun _ => rest.forM Run.report := rfl
    rw [hfirst, Run.run_bind_eq_ok]
    refine ⟨(), s.note e, Run.run_report_eq_ok.mpr rfl, ?_⟩
    have hrest := ih (s := { s with events := s.events ++ [e] }) hlog
    rw [List.append_assoc, List.singleton_append] at hrest
    rw [hnote, hrest]

/-- The index of a command has the records that it could read. -/
theorem run_openIndex (hlog : s.logFile = none)
    (hdata : pathOf (rootsOf env s.files) "--data" source.data = .ok index.data)
    (hbaseline : source.baseline.mapM (pathOf (rootsOf env s.files) "--baseline") =
      .ok index.baseline)
    (hnone : index.loaded = none) (houtcome : (index.load s.files).outcome = .ok (some loaded)) :
    (openIndex env source).run.run s = (.ok { index with loaded := some loaded },
      { s with events := s.events ++ (index.load s.files).events }) := by
  have hindex : index = { data := index.data, baseline := index.baseline } := by
    rw [← hnone]
  have hget : (get : Run RunState).run.run s = (.ok s, s) := rfl
  rw [openIndex, Run.run_bind_eq_ok]
  refine ⟨s, s, hget, ?_⟩
  rw [Run.run_bind_eq_ok]
  refine ⟨index.data, s, Run.run_ask_eq_ok.mpr ⟨hdata, rfl⟩, ?_⟩
  rw [Run.run_bind_eq_ok]
  refine ⟨index.baseline, s, Run.run_ask_eq_ok.mpr ⟨hbaseline, rfl⟩, ?_⟩
  rw [← hindex, Run.run_bind_eq_ok]
  refine ⟨s, s, hget, ?_⟩
  rw [Run.run_bind_eq_ok]
  refine ⟨(), _, run_forM_report hlog _, ?_⟩
  rw [CommandIndex.after, houtcome]
  rfl

/-- A command for completion prints the rows of what its index offers and changes no file. -/
theorem runCommand_complete {fs : FileSystem} (typed : Text)
    (hdata : pathOf (rootsOf env fs) "--data" source.data = .ok index.data)
    (hbaseline : source.baseline.mapM (pathOf (rootsOf env fs) "--baseline") = .ok index.baseline)
    (hnone : index.loaded = none) (houtcome : (index.load fs).outcome = .ok (some loaded)) :
    ∃ errors, runCommand env fs (.complete typed source) =
      (.exit 0 (Report.completionRows (Completion.items loaded.records typed typed)) errors,
        fs) := by
  have hopen := run_openIndex (s := { files := fs, clock := env.clock }) rfl hdata hbaseline hnone
    houtcome
  have hperform : (perform env (.complete typed source)).run.run
      { files := fs, clock := env.clock } =
        (.ok (0, Report.completionRows (Completion.items loaded.records typed typed), []),
          { files := fs, clock := env.clock, events := (index.load fs).events }) := by
    rw [perform, Run.run_bind_eq_ok]
    exact ⟨_, _, hopen, rfl⟩
  rw [runCommand, hperform]
  exact ⟨_, rfl⟩

end Program

/-! ### Where the records come from -/

/-- An index serves the entries of a baseline with their pages: from a corpus that was made of
them, or from the baseline itself, when there is no command data or it has a fault. -/
inductive CommandIndex.Serves (index : CommandIndex) (fs : FileSystem)
    (baselines : List BaselineRecord) : (Text → Option Page.Extraction) → Prop
  /-- The command data is the text of a corpus. -/
  | corpus {isPlaceholder : PlaceholderTest} {pages : Entries Text Page.Extraction}
    {origin : FileSystem} {p : Path} {text : Text} {bytes : Bytes}
    (hbaselines : origin.readBaseline p = .ok baselines)
    (hpages : ∀ entry ∈ pages, ∃ t, entry.2 = Page.extract t)
    (htext : Generate.corpusText (mergeCorpus isPlaceholder baselines pages).records = .ok text)
    (hencode : Utf8.encode text = .ok bytes) (hfile : fs.readFile index.data = .ok bytes) :
    Serves index fs baselines fun name => pages.find? name
  /-- The baseline takes the place of the command data. -/
  | entries {p : Path}
    (hdata : fs.pathExists index.data = .ok false ∨ fs.pathExists index.data = .ok true ∧
      ∃ kind fault place, fs.readCommandData index.data = .error (.collection kind fault place))
    (hbaseline : index.baseline = some p) (hread : fs.readBaseline p = .ok baselines) :
    Serves index fs baselines fun _ => none

namespace CommandIndex

variable {index : CommandIndex} {fs : FileSystem} {baselines : List BaselineRecord}
  {page : Text → Option Page.Extraction}

/-- The pages that an index serves were extracted from texts. -/
theorem Serves.isTidy (h : index.Serves fs baselines page) (name : Text) :
    ∀ said ∈ page name, said.IsTidy := by
  intro said hsaid
  cases h with
  | corpus hbaselines hpages =>
    obtain ⟨t, rfl⟩ := hpages _ (Entries.mem_of_find? hsaid)
    exact Page.extract_isTidy t
  | entries => cases hsaid

/-- The records of an index that serves entries have their names, and beside them stands what the
entries and their pages say. -/
theorem Serves.outcome (h : index.Serves fs baselines page) (hnone : index.loaded = none) :
    ∃ (source : IndexSource) (toRecord : BaselineRecord → MergedRecord),
      (index.load fs).outcome = .ok (some (.ofRecords source (baselines.map toRecord))) ∧
        (∀ b, (toRecord b).name = b.name) ∧
          ∀ b : BaselineRecord, b.Shows (page b.name) (Completion.detail (toRecord b)) := by
  have htidy := h.isTidy
  cases h with
  | @corpus isPlaceholder pages _ _ _ _ hbaselines hpages htext hencode hfile =>
    refine ⟨.generated, fun b => (b.merge isPlaceholder (pages.find? b.name)).finitePart,
      load_of_readCommandData hnone
        (Generate.readCommandData_of_mergeCorpus hbaselines htext hencode hfile),
      fun b => b.name_merge isPlaceholder _, fun b => b.shows_merge isPlaceholder (htidy b.name)⟩
  | entries hdata hbaseline hread =>
    have houtcome : (index.load fs).outcome = .ok (some
        (.ofRecords .baseline (baselines.map BaselineRecord.withoutDocumentation))) := by
      rcases hdata with hmissing | ⟨hexists, kind, fault, place, hfault⟩
      · exact load_of_readBaseline hnone hmissing hbaseline hread
      · exact load_of_fault hnone hexists hfault hbaseline hread
    refine ⟨.baseline, _, houtcome, fun b => rfl, fun b => ?_⟩
    exact BaselineRecord.shows_of_description
      (fun said h => absurd h (Option.not_mem_none said)) rfl (Or.inr rfl)

/-! ### The rows -/

/-- The row of a name: the name, filled up to the column in which the details begin, and what is
shown for its entry. -/
structure IsRow (b : BaselineRecord) (page : Option Page.Extraction) (width : ℕ)
    (name row : Text) : Prop where
  /-- The detail stands behind the name. -/
  text : ∃ detail, b.Shows page detail ∧ row = Report.padded width name ++ "  " ++ detail
  /-- All details begin in one column. -/
  column : (Report.padded width name).length = width
  /-- The row is broken where the name is, or the description of the entry where it is shown. -/
  isUnbroken_iff : row.IsUnbroken ↔
    name.IsUnbroken ∧ ((∀ said ∈ page, said.summary = []) → b.description.IsUnbroken)

/-- The names of a baseline that are offered where this much of a line was typed. -/
def namesFor (baselines : List BaselineRecord) (typed : Text) : List Text :=
  if Completion.isWanted typed then
    (BaselineRecord.table baselines).keys.filter (Completion.matchesWord typed)
  else []

/-- What is offered for entries is an item for each of the names. -/
theorem items_of_table (baselines : List BaselineRecord) (toRecord : BaselineRecord → MergedRecord)
    (typed : Text) : Completion.items (Entries.mapValues toRecord (BaselineRecord.table baselines))
      typed typed = (namesFor baselines typed).map fun name =>
        Completion.item name (((BaselineRecord.table baselines).find? name).map toRecord) := by
  rw [Completion.items, namesFor]
  split
  · rw [Entries.keys_mapValues]
    refine List.map_congr_left fun name _ => ?_
    rw [Entries.find?_mapValues]
  · rfl

/-- A name that is offered is the name of an entry. -/
theorem exists_of_mem_namesFor {name typed : Text} (h : name ∈ namesFor baselines typed) :
    ∃ b, (BaselineRecord.table baselines).find? name = some b ∧ b ∈ baselines ∧ b.name = name := by
  have hkey : name ∈ (BaselineRecord.table baselines).keys := by
    rw [namesFor] at h
    split at h
    · exact (List.mem_filter.mp h).1
    · cases h
  obtain ⟨b, hb⟩ := Option.isSome_iff_exists.mp (Entries.isSome_find?.mpr hkey)
  exact ⟨b, hb, BaselineRecord.of_find?_table hb⟩

/-- An index that serves entries has records for each of the names that match, and beside a name
stands what is shown for the entry of that name. -/
theorem Serves.exists_items (h : index.Serves fs baselines page) (hnone : index.loaded = none)
    (typed : Text) :
    ∃ (loaded : LoadedRecords) (itemOf : Text → CompletionItem),
      (index.load fs).outcome = .ok (some loaded) ∧
      Completion.items loaded.records typed typed = (namesFor baselines typed).map itemOf ∧
      (∀ name, (itemOf name).label = name) ∧
      ∀ name ∈ namesFor baselines typed, ∃ b ∈ baselines,
        (BaselineRecord.table baselines).find? name = some b ∧ b.name = name ∧
          b.Shows (page name) (itemOf name).detail := by
  obtain ⟨source, toRecord, houtcome, hname, hshows⟩ := h.outcome hnone
  refine ⟨_, fun name =>
    Completion.item name (((BaselineRecord.table baselines).find? name).map toRecord), houtcome,
    ?_, fun name => rfl, fun name hmem => ?_⟩
  · rw [LoadedRecords.records_ofRecords hname, items_of_table]
  · obtain ⟨b, hfind, hb, rfl⟩ := exists_of_mem_namesFor hmem
    refine ⟨b, hb, hfind, rfl, ?_⟩
    simp only [hfind]
    exact hshows b

/-- A name and what is shown for its entry make a row. -/
theorem isRow_of_shows {b : BaselineRecord} {said : Option Page.Extraction} {width : ℕ}
    {name detail : Text} (h : b.Shows said detail) (htidy : ∀ page ∈ said, page.IsTidy)
    (hwidth : name.length ≤ width) :
    IsRow b said width name (Report.padded width name ++ "  " ++ detail) := by
  have hgap : Text.IsUnbroken ("  " : Text) := by decide
  refine ⟨⟨detail, h, rfl⟩, Report.length_padded hwidth, ?_⟩
  rw [Text.isUnbroken_append, Text.isUnbroken_append, and_iff_left hgap, Report.isUnbroken_padded,
    h.isUnbroken_iff htidy]

/-- Completion shows one row for each name that matches, in the order of the baseline, whatever
becomes of the files once the records are read, and the command prints these rows. Every row begins
with its name, and all details begin in one column. A row is broken only where its name is, or the
description of its entry when no page has a summary instead. So if no name and no description of
the baseline is broken, as many lines are printed as there are names. -/
theorem completionRows_of_serves (index : CommandIndex) (fs : FileSystem)
    (baselines : List BaselineRecord) (page : Text → Option Page.Extraction)
    (hnone : index.loaded = none) (hserves : index.Serves fs baselines page) (typed : Text) :
    ∃ items width,
      (∀ fs', ((index.call fs .load).index.call fs' (.complete typed typed)).reply =
        .ok (.offers items)) ∧
      (∀ env source, Program.pathOf (Program.rootsOf env fs) "--data" source.data =
          .ok index.data →
        source.baseline.mapM (Program.pathOf (Program.rootsOf env fs) "--baseline") =
          .ok index.baseline →
        ∃ errors, Program.runCommand env fs (.complete typed source) =
          (.exit 0 (Report.completionRows items) errors, fs)) ∧
      items.map CompletionItem.label = namesFor baselines typed ∧
      List.Forall₂ (fun name row => ∃ b, (BaselineRecord.table baselines).find? name = some b ∧
        IsRow b (page name) width name row) (namesFor baselines typed)
        (Report.completionRows items) ∧
      ((∀ b ∈ baselines, b.name.IsUnbroken ∧ b.description.IsUnbroken) →
        Text.lines (Text.unlines (Report.completionRows items)) = Report.completionRows items ∧
          (Text.lines (Text.unlines (Report.completionRows items))).length =
            (namesFor baselines typed).length) := by
  obtain ⟨loaded, itemOf, houtcome, hitems, hlabel, hoffers⟩ := hserves.exists_items hnone typed
  have hloaded := loaded_call_load houtcome
  obtain ⟨names, hnames⟩ : ∃ names, namesFor baselines typed = names := ⟨_, rfl⟩
  rw [hnames] at hitems hoffers ⊢
  have hrows := Report.completionRows_map hlabel names
  obtain ⟨width, hwidth⟩ : ∃ width, Report.labelWidth (names.map itemOf) = width := ⟨_, rfl⟩
  rw [hwidth] at hrows
  -- each row on its own; the width is that of the longest name, so it fits all of them
  have hrow : ∀ name ∈ names, ∃ b ∈ baselines,
      (BaselineRecord.table baselines).find? name = some b ∧ b.name = name ∧
        IsRow b (page name) width name
          (Report.padded width name ++ "  " ++ (itemOf name).detail) := by
    intro name hmem
    obtain ⟨b, hb, hfind, hname, hshows⟩ := hoffers name hmem
    have hlength := Report.length_le_labelWidth (List.mem_map_of_mem (f := itemOf) hmem)
    rw [hlabel, hwidth] at hlength
    exact ⟨b, hb, hfind, hname, isRow_of_shows hshows (hserves.isTidy name) hlength⟩
  refine ⟨names.map itemOf, width, fun fs' => ?_, fun env source hdata hbaseline => ?_, ?_, ?_,
    fun hunbroken => ?_⟩
  · rw [reply_call_of_loaded hloaded fs' (by simp), IndexCall.reply, complete,
      CommandIndex.records, hloaded, hitems]
  · rw [← hitems]
    exact Program.runCommand_complete typed hdata hbaseline hnone houtcome
  · rw [List.map_map]
    exact (List.map_congr_left fun name _ => hlabel name).trans (List.map_id' _)
  · rw [hrows, List.forall₂_map_right_iff, List.forall₂_same]
    intro name hmem
    obtain ⟨b, -, hfind, -, hisRow⟩ := hrow name hmem
    exact ⟨b, hfind, hisRow⟩
  · rw [Text.lines_unlines, hrows, List.length_map]
    · exact ⟨rfl, rfl⟩
    · intro row hmem
      rw [hrows] at hmem
      obtain ⟨name, hname, rfl⟩ := List.mem_map.mp hmem
      obtain ⟨b, hb, -, rfl, hisRow⟩ := hrow name hname
      exact hisRow.isUnbroken_iff.mpr ⟨(hunbroken b hb).1, fun _ => (hunbroken b hb).2⟩

end CommandIndex

/-! ### After a run -/

namespace Generate

open RunState

variable {s s' : RunState} {paths : GeneratePaths} {suffix : Text}
  {isPlaceholder : PlaceholderTest}

/-- An index of the output of a run serves the entries of the baseline with the pages that the run
found. -/
theorem serves_of_run {summary : Report.RunSummary}
    (hrun : (run paths suffix isPlaceholder).run.run s = (.ok summary, s'))
    (hbaseline : s.logPlace? ≠ some (s.files.placeOf paths.baseline))
    (houtput : s.logPlace? ≠ some (s.files.placeOf paths.output)) (other : Option Path) :
    ∃ baselines page, s.files.readBaseline paths.baseline = .ok baselines ∧
      CommandIndex.Serves { data := paths.output, baseline := other } s'.files baselines page := by
  obtain ⟨baselines, s₁, s₂, scanned, text, bytes, hbaselines, -, hscan, htext, hencode, hfile⟩ :=
    output_of_run hrun hbaseline houtput
  refine ⟨baselines, _, hbaselines, .corpus hbaselines (fun entry hentry => ?_) htext hencode hfile⟩
  obtain ⟨-, -, said, -, hsaid⟩ := exists_text_of_run_scan hscan entry hentry
  exact ⟨said, hsaid.symm⟩

end Generate

namespace CommandIndex

open Generate in
/-- An index of the output of the sample run prints one line for its command. -/
theorem completionRows_of_sampleState : ∃ (summary : Report.RunSummary) (s' : RunState)
    (items : List CompletionItem),
    (run samplePaths defaultSuffix (placeholderTest defaultPlaceholder)).run.run sampleState =
      (.ok summary, s') ∧
    ((CommandIndex.call { data := samplePaths.output } s'.files .load).index.call s'.files
      (.complete [] [])).reply = .ok (.offers items) ∧
    items.map CompletionItem.label = [("abs" : Text)] ∧
    (Text.lines (Text.unlines (Report.completionRows items))).length = 1 := by
  obtain ⟨summary, s', -, hrun, -⟩ := run_sampleState
  have hapart (place : Place) : sampleState.logPlace? ≠ some place := by
    intro h
    cases h
  obtain ⟨baselines, page, hbaselines, hserves⟩ := serves_of_run hrun (hapart _) (hapart _) none
  have hread : sampleState.files.readBaseline samplePaths.baseline = .ok [sampleEntry] := rfl
  obtain rfl := Except.ok.inj (hread.symm.trans hbaselines)
  obtain ⟨items, width, hreply, -, hlabels, -, hlines⟩ := completionRows_of_serves
    { data := samplePaths.output } s'.files [sampleEntry] page rfl hserves []
  have hunbroken : ∀ b ∈ [sampleEntry], b.name.IsUnbroken ∧ b.description.IsUnbroken :=
    List.forall_mem_singleton.mpr (by decide)
  exact ⟨summary, s', items, hrun, hreply s'.files, hlabels, (hlines hunbroken).2⟩

/-- Two entries, the first with a description that ends with a newline. -/
def brokenEntries : List BaselineRecord :=
  [{ name := "abs", description := "Absolute value.\n", usage := "abs(x)" },
    { name := "add", description := "Sum.", usage := "add(x)" }]

/-- The baseline of these entries. -/
def brokenFiles : FileSystem where
  nodes := [(["base"], .file ((Text.ofString
    ("[\x7b\"name\":\"abs\",\"description\":\"Absolute value.\\n\",\"usage\":\"abs(x)\"\x7d," ++
      "\x7b\"name\":\"add\",\"description\":\"Sum.\",\"usage\":\"add(x)\"\x7d]")).flatMap
        Utf8.bytesOf))]
  workingDirectory := []

set_option maxRecDepth 4000 in
/-- The two entries are read. -/
theorem readBaseline_brokenFiles :
    brokenFiles.readBaseline ⟨.slash, ["base"]⟩ = .ok brokenEntries := rfl

/-- A program and a home directory beside these files. -/
def plainSurroundings : Surroundings := ⟨⟨.slash, ["app"]⟩, ⟨.slash, ["home"]⟩, .epoch⟩

/-- The command for completion falls back to this baseline and prints three lines for its two
names. -/
theorem completionRows_of_brokenFiles :
    ∃ items errors, Program.runCommand plainSurroundings brokenFiles
        (.complete [] ⟨.text "data", some (.text "base"), false⟩) =
          (.exit 0 (Report.completionRows items) errors, brokenFiles) ∧
      items.map CompletionItem.label = brokenEntries.map BaselineRecord.name ∧
      Report.completionRows items = [("abs  Absolute value.\n" : Text), ("add  Sum." : Text)] ∧
      Text.lines (Text.unlines (Report.completionRows items)) =
        [("abs  Absolute value." : Text), [], ("add  Sum." : Text)] := by
  let index : CommandIndex :=
    { data := ⟨.slash, ["data"]⟩, baseline := some ⟨.slash, ["base"]⟩ }
  have houtcome : (index.load brokenFiles).outcome = .ok (some
      (.ofRecords .baseline (brokenEntries.map BaselineRecord.withoutDocumentation))) :=
    load_of_readBaseline rfl rfl rfl readBaseline_brokenFiles
  let source : IndexArguments := ⟨.text "data", some (.text "base"), false⟩
  let roots := Program.rootsOf plainSurroundings brokenFiles
  have hdata : Program.pathOf roots "--data" source.data = .ok index.data := by
    rw [Program.pathOf, Argument.toPath, Text.normalize_of_lt (by decide)]
    rfl
  have hbase : Program.pathOf roots "--baseline" (.text "base") = .ok ⟨.slash, ["base"]⟩ := by
    rw [Program.pathOf, Argument.toPath, Text.normalize_of_lt (by decide)]
    rfl
  have hbaseline : source.baseline.mapM (Program.pathOf roots "--baseline") =
      .ok index.baseline := by
    rw [Option.mapM_some, hbase]
    rfl
  obtain ⟨errors, hrun⟩ := Program.runCommand_complete [] hdata hbaseline rfl houtcome
  exact ⟨_, errors, hrun, rfl, rfl, rfl⟩

end CommandIndex

end CommandDocs
