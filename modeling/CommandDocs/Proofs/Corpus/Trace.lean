import CommandDocs.Proofs.Corpus.Accounting

/-!
# What a run reports

A generation run reports its start, the baseline, each page that it passes over, the scan, the
merge and the output, in this order. A run that breaks off has reported the first of these events
and no others; all of them are reported if and only if the run ends well. The numbers in the
events agree with each other and with the files.

Only the first stage of a run and its very last step report anything, so that all runs are told
apart by where the first stage ends. Writing the corpus is silent.
-/

namespace CommandDocs

open RunState

variable {α β : Type} {s s' : RunState}

namespace RunState

/-- An event is noted behind those before it. -/
@[simp]
theorem events_note (s : RunState) (e : LogEvent) : (s.note e).events = s.events ++ [e] := by
  unfold note
  split
  · rfl
  · split
    · rfl
    · rfl

/-- Where each place is held once it stays so, also when the log is a new file. -/
theorem nodup_nodes_note (h : s.files.nodes.keys.Nodup) (e : LogEvent) :
    (s.note e).files.nodes.keys.Nodup := by
  have hself : s.Reordered s := ⟨s.files, ⟨rfl, .refl _, h⟩, rfl⟩
  obtain ⟨files, hfiles, -⟩ := hself.note e
  exact hfiles.distinct

end RunState

namespace Run

/-- Nothing is reported, whether the computation ends well or not. -/
def IsSilent (x : Run α) : Prop := ∀ s, (x.run.run s).2.events = s.events

/-- Of two steps each is silent. -/
theorem IsSilent.bind {x : Run α} {f : α → Run β} (hx : x.IsSilent) (hf : ∀ a, (f a).IsSilent) :
    (x >>= f).IsSilent := by
  intro s
  have hfirst := hx s
  rw [run_bind]
  cases hrun : x.run.run s with
  | mk outcome s₁ =>
    rw [hrun] at hfirst
    cases outcome with
    | ok a => exact (hf a s₁).trans hfirst
    | error failure => exact hfirst

/-- A question is silent. -/
theorem isSilent_ask (question : FileSystem → Except Failure α) : IsSilent (ask question) := by
  intro s
  cases hrun : (ask question).run.run s with
  | mk outcome s₁ =>
    cases outcome with
    | ok a => rw [(run_ask_eq_ok.mp hrun).2]
    | error failure => rw [(run_ask_eq_error.mp hrun).2]

/-- A change of the files is silent. -/
theorem isSilent_change (action : FileSystem → Except Failure FileSystem) :
    IsSilent (change action) :=
  (isSilent_ask action).bind fun _ _ => rfl

/-- Making directories is silent. -/
theorem isSilent_ensureDirectories (p : Path) (onError : FileError → Failure) :
    IsSilent (ensureDirectories p onError) := by
  intro s
  cases hrun : (ensureDirectories p onError).run.run s with
  | mk outcome s₁ =>
    cases outcome with
    | ok u => rw [(run_ensureDirectories_eq_ok.mp hrun).2]
    | error failure =>
      obtain ⟨e, -, -, rfl⟩ := run_ensureDirectories_eq_error.mp hrun
      rfl

end Run

/-- A field of an event holds a number. -/
def LogEvent.Counts (e : LogEvent) (field : Text) (n : ℕ) : Prop :=
  Entries.find? field e.fields = some (.int n)

namespace Generate

variable {paths : GeneratePaths} {suffix : Text} {isPlaceholder : PlaceholderTest}
  {found : List Path} {pairs : List (Text × Page.Extraction)} {skipped : List Text}

/-- Writing a corpus is silent. -/
theorem isSilent_writeCorpus (output : Path) (records : List MergedRecord) :
    (writeCorpus output records).IsSilent := by
  refine (Run.isSilent_ask _).bind fun _ => (Run.isSilent_ensureDirectories _ _).bind fun _ => ?_
  exact (Run.isSilent_ask _).bind fun _ => (Run.isSilent_change _).bind fun _ =>
    (Run.isSilent_ask _).bind fun _ => Run.isSilent_change _

/-! ### Where the first stage ends -/

/-- The state in which the baseline is read: the start was reported. -/
def begun (paths : GeneratePaths) (suffix : Text) (s : RunState) : RunState :=
  s.note (.runStart paths.baseline paths.pages paths.output suffix)

/-- The state in which the pages are listed: the start and the baseline were reported. -/
def loaded (paths : GeneratePaths) (suffix : Text) (s : RunState) (entries : ℕ) : RunState :=
  (begun paths suffix s).note (.baselineLoaded paths.baseline entries)

/-- When the pages are listed each place is held once. -/
theorem nodup_nodes_loaded (h : s.files.nodes.keys.Nodup) (entries : ℕ) :
    (loaded paths suffix s entries).files.nodes.keys.Nodup :=
  nodup_nodes_note (nodup_nodes_note h _) _

/-- Everything that the first stage of a run can come to. -/
inductive Prepared (paths : GeneratePaths) (suffix : Text) (isPlaceholder : PlaceholderTest)
    (s : RunState) : Except Failure (Scan × MergedCorpus) → RunState → Prop
  /-- The baseline is not read. -/
  | noBaseline {failure : Failure}
    (hbaselines : (begun paths suffix s).files.readBaseline paths.baseline = .error failure) :
    Prepared paths suffix isPlaceholder s (.error failure) (begun paths suffix s)
  /-- The pages are not listed. -/
  | noPages {baselines : List BaselineRecord} {failure : Failure}
    (hbaselines : (begun paths suffix s).files.readBaseline paths.baseline = .ok baselines)
    (hlist : (loaded paths suffix s baselines.length).files.listPages paths.pages suffix =
      .error failure) :
    Prepared paths suffix isPlaceholder s (.error failure) (loaded paths suffix s baselines.length)
  /-- The pages are read and merged. -/
  | merged {baselines : List BaselineRecord} {found : List Path}
    {pairs : List (Text × Page.Extraction)} {skipped : List Text} {s₁ : RunState}
    (hbaselines : (begun paths suffix s).files.readBaseline paths.baseline = .ok baselines)
    (hlist : (loaded paths suffix s baselines.length).files.listPages paths.pages suffix =
      .ok found)
    (hread : (readPages found).run.run (loaded paths suffix s baselines.length) =
      (.ok (pairs, skipped), s₁)) :
    Prepared paths suffix isPlaceholder s
      (.ok (⟨Entries.ofPairs pairs, skipped⟩,
        mergeCorpus isPlaceholder baselines (Entries.ofPairs pairs)))
      ((s₁.note (.pagesScanned paths.pages found.length (Entries.ofPairs pairs).length
        skipped.length)).note
        (.mergeComplete
          (mergeCorpus isPlaceholder baselines (Entries.ofPairs pairs)).records.length
          (mergeCorpus isPlaceholder baselines (Entries.ofPairs pairs)).enhanced
          (mergeCorpus isPlaceholder baselines (Entries.ofPairs pairs)).fallback))

/-- Scanning breaks off when the pages are not listed. -/
theorem listPages_of_run_scan_error {directory : Path} {failure : Failure}
    (h : (scan directory suffix).run.run s = (.error failure, s')) :
    s.files.listPages directory suffix = .error failure ∧ s' = s := by
  rw [scan, Run.run_bind_eq_error] at h
  rcases h with hlist | ⟨found, s₀, -, h⟩
  · exact Run.run_ask_eq_error.mp hlist
  · obtain ⟨answer, s₁, hread⟩ := exists_run_readPages found s₀
    simp only [Run.run_bind_eq_error, Run.run_report_ne_error, Run.run_pure_ne_error, hread,
      and_false, exists_false, or_false] at h
    cases h

/-- The first stage comes to nothing else. -/
theorem prepared_of_run {outcome : Except Failure (Scan × MergedCorpus)}
    (h : (prepare paths suffix isPlaceholder).run.run s = (outcome, s')) :
    Prepared paths suffix isPlaceholder s outcome s' := by
  cases outcome with
  | ok answer =>
    simp only [prepare, merge, run_scan_eq_ok, Run.run_bind_eq_ok, Run.run_ask_eq_ok,
      Run.run_report_eq_ok, Run.run_pure_eq_ok] at h
    obtain ⟨_, _, rfl, baselines, _, ⟨hbaselines, rfl⟩, _, _, rfl, _, _,
      ⟨found, pairs, skipped, s₁, hlist, hread, rfl, rfl⟩, _, _, ⟨_, _, rfl, rfl, rfl⟩, rfl,
      rfl⟩ := h
    exact .merged hbaselines hlist hread
  | error failure =>
    simp only [prepare, merge, Run.run_bind_eq_error, Run.run_report_ne_error,
      Run.run_pure_ne_error, Run.run_ask_eq_error, Run.run_ask_eq_ok, Run.run_report_eq_ok,
      and_false, exists_false, or_false, false_or] at h
    obtain ⟨_, _, rfl, ⟨hbaselines, rfl⟩ | ⟨baselines, _, ⟨hbaselines, rfl⟩, _, _, rfl, hscan⟩⟩ := h
    · exact .noBaseline hbaselines
    · obtain ⟨hlist, rfl⟩ := listPages_of_run_scan_error hscan
      exact .noPages hbaselines hlist

/-! ### The events of the first stage -/

/-- Reading pages reports those that cannot be read, in the order of the list. -/
theorem events_of_run_readPages (h : (readPages found).run.run s = (.ok (pairs, skipped), s'))
    (hfiles : ∀ p ∈ found, ∃ content, s.files.readFile p = .ok content) :
    ∃ passed : List (Path × Text),
      s'.events = s.events ++ passed.map (fun page => .pageSkipped page.1 page.2) ∧
      passed.map Prod.fst = found.filter (!s.files.isReadable ·) ∧
      passed.map (fun page => page.1.name) = skipped := by
  induction found generalizing s pairs skipped with
  | nil =>
    obtain ⟨hpairs, rfl⟩ := Run.run_pure_eq_ok.mp h
    cases hpairs
    exact ⟨[], (List.append_nil _).symm, rfl, rfl⟩
  | cons p rest ih =>
    obtain ⟨s₁, pages, others, hstep, hrest, -, hskipped⟩ := run_readPages_cons h
    have hkeeps := hstep.keepsReadable
    rw [List.forall_mem_cons] at hfiles
    obtain ⟨passed, hevents, hpassed, hnames⟩ := ih hrest fun q hq => by
      obtain ⟨content, hcontent⟩ := hfiles.2 q hq
      obtain ⟨content', hcontent', -⟩ := hkeeps q content hcontent
      exact ⟨content', hcontent'⟩
    -- the later pages are as readable as before
    have hsame : ∀ q ∈ rest, (!s₁.files.isReadable q) = !s.files.isReadable q := by
      intro q hq
      obtain ⟨content, hcontent⟩ := hfiles.2 q hq
      exact congrArg (!·) (hkeeps.isReadable hcontent)
    rw [List.filter_congr hsame] at hpassed
    cases hstep with
    | read hpage =>
      rw [hpage] at hskipped
      have hreadable : s.files.isReadable p = true := by rw [FileSystem.isReadable, hpage]; rfl
      refine ⟨passed, hevents, ?_, hnames.trans hskipped.symm⟩
      rw [List.filter_cons_of_neg (by simp [hreadable]), hpassed]
    | skip reason hpage =>
      rw [hpage] at hskipped
      have hreadable : s.files.isReadable p = false := by rw [FileSystem.isReadable, hpage]; rfl
      refine ⟨(p, reason) :: passed, ?_, ?_, ?_⟩
      · rw [hevents, events_note, List.append_assoc]
        rfl
      · rw [List.filter_cons_of_pos (by simp [hreadable]), List.map_cons, hpassed]
      · exact (congrArg (p.name :: ·) hnames).trans hskipped.symm

/-! ### The events of a run -/

/-- What a run reports when nothing stops it. -/
structure Trace where
  /-- The number of entries in the baseline. -/
  entries : ℕ := 0
  /-- The pages that are passed over, each with the reason. -/
  skipped : List (Path × Text) := []
  /-- The number of pages in the directory. -/
  found : ℕ := 0
  /-- The number of pages that are read. -/
  parsed : ℕ := 0
  /-- The number of entries with a page. -/
  enhanced : ℕ := 0
  /-- The number of entries without one. -/
  fallback : ℕ := 0

/-- The events before the scan is told: the start, the baseline, and the pages passed over. -/
def Trace.opening (trace : Trace) (paths : GeneratePaths) (suffix : Text) : List LogEvent :=
  [{ name := "run_start"
     fields := [("baseline_file", .path paths.baseline), ("docs_dir", .path paths.pages),
       ("output_file", .path paths.output), ("suffix", .text suffix)] },
    { name := "baseline_loaded"
      fields := [("baseline_file", .path paths.baseline), ("count", .int trace.entries)] }] ++
  trace.skipped.map fun page =>
    { name := "document_skipped"
      level := Level.warning
      fields := [("document", .path page.1), ("error", .text page.2)] }

/-- The event of the scan. -/
def Trace.scanEvent (trace : Trace) (paths : GeneratePaths) : LogEvent where
  name := "docs_scanned"
  fields := [("docs_dir", .path paths.pages), ("found", .int trace.found),
    ("parsed", .int trace.parsed), ("skipped", .int trace.skipped.length)]

/-- The event of the merge. -/
def Trace.mergeEvent (trace : Trace) : LogEvent where
  name := "merge_complete"
  fields := [("total", .int trace.entries), ("enhanced", .int trace.enhanced),
    ("fallback", .int trace.fallback)]

/-- The events of the first stage. -/
def Trace.prepared (trace : Trace) (paths : GeneratePaths) (suffix : Text) : List LogEvent :=
  trace.opening paths suffix ++ [trace.scanEvent paths, trace.mergeEvent]

/-- All events, in order. -/
def Trace.events (trace : Trace) (paths : GeneratePaths) (suffix : Text) : List LogEvent :=
  trace.prepared paths suffix ++
  [{ name := "output_written"
     fields := [("output_file", .path paths.output), ("count", .int trace.entries)] }]

/-- The numbers of a trace agree with each other and with the files that the run finds, as far
as it comes. -/
structure Trace.Tells (trace : Trace) (paths : GeneratePaths) (suffix : Text) (s : RunState) :
    Prop where
  /-- A page is read or passed over. -/
  scan : trace.found = trace.parsed + trace.skipped.length
  /-- An entry has a page or none. -/
  merge : trace.entries = trace.enhanced + trace.fallback
  /-- Pages are passed over in the order of their names, none of them twice. -/
  order : (trace.skipped.map fun page => page.1.name).Pairwise
    fun a b => Text.le a b = true ∧ a ≠ b
  /-- The entries are those of the baseline. -/
  baseline : ∀ baselines, (begun paths suffix s).files.readBaseline paths.baseline =
    .ok baselines → trace.entries = baselines.length
  /-- The pages are those that are listed, and those that are not decoded are passed over. -/
  pages : ∀ baselines found,
    (begun paths suffix s).files.readBaseline paths.baseline = .ok baselines →
    (loaded paths suffix s baselines.length).files.listPages paths.pages suffix = .ok found →
    trace.found = found.length ∧ trace.skipped.map Prod.fst =
      found.filter (!(loaded paths suffix s baselines.length).files.isReadable ·)

/-- The number of events with a name. -/
def countNamed (name : Text) (events : List LogEvent) : ℕ := (events.map (·.name)).count name

/-- The numbers in the fields of events agree with each other. -/
structure NumbersAgree (events : List LogEvent) : Prop where
  /-- Pages that are found are read or passed over, and each of the latter has an event. -/
  scan : ∀ e ∈ events, e.name = ("docs_scanned" : Text) → ∃ found parsed skipped,
    e.Counts "found" found ∧ e.Counts "parsed" parsed ∧ e.Counts "skipped" skipped ∧
      found = parsed + skipped ∧ skipped = countNamed "document_skipped" events
  /-- Entries that are merged have a page or none, and are those that were loaded. -/
  merge : ∀ e ∈ events, e.name = ("merge_complete" : Text) → ∃ total enhanced fallback,
    e.Counts "total" total ∧ e.Counts "enhanced" enhanced ∧ e.Counts "fallback" fallback ∧
      total = enhanced + fallback ∧
      ∃ before ∈ events, before.name = ("baseline_loaded" : Text) ∧ before.Counts "count" total

namespace Trace

variable {trace : Trace} {events : List LogEvent} {e : LogEvent}

/-- The names of the events before the scan. -/
theorem names_opening (trace : Trace) (paths : GeneratePaths) (suffix : Text) :
    (trace.opening paths suffix).map (·.name) =
      [("run_start" : Text), "baseline_loaded"] ++
        List.replicate trace.skipped.length ("document_skipped" : Text) := by
  rw [opening, List.map_append, List.map_map]
  exact congrArg (_ ++ ·) List.map_const'

/-- The scan and the merge have other names. -/
theorem not_mem_opening (hname : e.name ∈ [("docs_scanned" : Text), "merge_complete"]) :
    e ∉ trace.opening paths suffix := by
  intro h
  have hearly : e.name ∈ (trace.opening paths suffix).map (·.name) := List.mem_map_of_mem h
  rw [names_opening, List.mem_append] at hearly
  have hdisjoint : ∀ name ∈ [("docs_scanned" : Text), "merge_complete"],
      name ∉ [("run_start" : Text), "baseline_loaded"] ∧ name ≠ "document_skipped" := by decide
  rcases hearly with hearly | hearly
  · exact (hdisjoint _ hname).1 hearly
  · exact (hdisjoint _ hname).2 (List.eq_of_mem_replicate hearly)

/-- As many of them as there are pages passed over tell of such a page. -/
theorem countNamed_opening (trace : Trace) (paths : GeneratePaths) (suffix : Text) :
    countNamed "document_skipped" (trace.opening paths suffix) = trace.skipped.length := by
  rw [countNamed, names_opening, List.count_append, List.count_replicate_self]
  exact Nat.zero_add _

/-- No other event of a trace does. -/
theorem countNamed_events (trace : Trace) (paths : GeneratePaths) (suffix : Text) :
    countNamed "document_skipped" (trace.events paths suffix) = trace.skipped.length := by
  rw [events, prepared, countNamed, List.map_append, List.map_append, List.count_append,
    List.count_append]
  exact countNamed_opening trace paths suffix

/-- The events before the scan stand before any other event of a trace. -/
theorem opening_begins (hbegins : events <+: trace.events paths suffix) (he : e ∈ events)
    (hlate : e ∉ trace.opening paths suffix) : trace.opening paths suffix <+: events := by
  have hopening : trace.opening paths suffix <+: trace.events paths suffix :=
    ⟨_, (List.append_assoc _ _ _).symm⟩
  exact (List.prefix_or_prefix_of_prefix hopening hbegins).resolve_right fun h =>
    hlate (h.subset he)

/-- Where the first events of a trace go beyond those before the scan, all pages that are passed
over are told. -/
theorem countNamed_of_begins (hbegins : events <+: trace.events paths suffix)
    (hopening : trace.opening paths suffix <+: events) :
    countNamed "document_skipped" events = trace.skipped.length := by
  refine le_antisymm ?_ ?_
  · rw [← countNamed_events trace paths suffix]
    exact (hbegins.sublist.map _).count_le _
  · rw [← countNamed_opening trace paths suffix]
    exact (hopening.sublist.map _).count_le _

/-- The events after those are told apart by their names. -/
theorem late_cases (he : e ∈ trace.events paths suffix) (hlate : e ∉ trace.opening paths suffix) :
    (e.name = ("docs_scanned" : Text) ∧ e = trace.scanEvent paths) ∨
      (e.name = ("merge_complete" : Text) ∧ e = trace.mergeEvent) ∨
        e.name = ("output_written" : Text) := by
  simp only [Trace.events, prepared, List.mem_append, List.mem_cons, List.not_mem_nil, or_false,
    hlate, false_or, or_assoc] at he
  rcases he with rfl | rfl | rfl
  · exact Or.inl ⟨rfl, rfl⟩
  · exact Or.inr (Or.inl ⟨rfl, rfl⟩)
  · exact Or.inr (Or.inr rfl)

/-- The numbers in the first events of a trace agree. -/
theorem Tells.numbersAgree (h : trace.Tells paths suffix s)
    (hbegins : events <+: trace.events paths suffix) : NumbersAgree events where
  scan := by
    intro e he hname
    have hlate : e ∉ trace.opening paths suffix := not_mem_opening (by rw [hname]; decide)
    rcases late_cases (hbegins.subset he) hlate with ⟨-, rfl⟩ | ⟨hother, -⟩ | hother
    · exact ⟨trace.found, trace.parsed, trace.skipped.length, rfl, rfl, rfl, h.scan,
        (countNamed_of_begins hbegins (opening_begins hbegins he hlate)).symm⟩
    · exact absurd (hname.symm.trans hother) (by decide)
    · exact absurd (hname.symm.trans hother) (by decide)
  merge := by
    intro e he hname
    have hlate : e ∉ trace.opening paths suffix := not_mem_opening (by rw [hname]; decide)
    rcases late_cases (hbegins.subset he) hlate with ⟨hother, -⟩ | ⟨-, rfl⟩ | hother
    · exact absurd (hname.symm.trans hother) (by decide)
    · have hbefore := (opening_begins hbegins he hlate).subset
        (List.mem_cons_of_mem _ List.mem_cons_self)
      exact ⟨trace.entries, trace.enhanced, trace.fallback, rfl, rfl, rfl, h.merge, _, hbefore, rfl,
        rfl⟩
    · exact absurd (hname.symm.trans hother) (by decide)

end Trace

/-- Each page that is listed is read under a stem of its own or passed over. -/
theorem length_of_run_readPages (h : (readPages found).run.run s = (.ok (pairs, skipped), s'))
    (hdistinct : s.files.nodes.keys.Nodup) {directory : Path}
    (hlist : s.files.listPages directory suffix = .ok found) :
    found.length = (Entries.ofPairs pairs).length + skipped.length := by
  have hstems := FileSystem.nodup_stems_of_listPages hdistinct hlist
  obtain ⟨hkeys, hskipped⟩ := names_of_run_readPages h fun p hp =>
    FileSystem.exists_readFile_of_mem_listPages hlist hp
  have hlength : pairs.length = (Entries.keys pairs).length := by
    rw [Entries.keys, List.length_map]
  rw [Entries.ofPairs_of_nodup (nodup_keys_of_stems hkeys hstems), hlength, hkeys, hskipped,
    List.length_map, List.length_map]
  exact List.length_eq_length_filter_add _

/-- The trace of a run that reads the baseline and the pages and merges them. -/
def Trace.ofMerge (passed : List (Path × Text)) (found : List Path)
    (pages : Entries Text Page.Extraction) (corpus : MergedCorpus) : Trace where
  entries := corpus.records.length
  skipped := passed
  found := found.length
  parsed := pages.length
  enhanced := corpus.enhanced
  fallback := corpus.fallback

/-- A run that does not read the baseline tells nothing but that it began. -/
theorem Trace.tells_of_noBaseline {failure : Failure}
    (hbaselines : (begun paths suffix s).files.readBaseline paths.baseline = .error failure) :
    Trace.Tells {} paths suffix s where
  scan := rfl
  merge := rfl
  order := List.Pairwise.nil
  baseline := by
    intro baselines hread
    rw [hbaselines] at hread
    cases hread
  pages := by
    intro baselines found hread
    rw [hbaselines] at hread
    cases hread

/-- A run that does not list the pages tells the number of entries. -/
theorem Trace.tells_of_noPages {baselines : List BaselineRecord} {failure : Failure}
    (hbaselines : (begun paths suffix s).files.readBaseline paths.baseline = .ok baselines)
    (hlist : (loaded paths suffix s baselines.length).files.listPages paths.pages suffix =
      .error failure) :
    Trace.Tells { entries := baselines.length, fallback := baselines.length } paths suffix s where
  scan := rfl
  merge := (Nat.zero_add _).symm
  order := List.Pairwise.nil
  baseline := by
    intro others hread
    rw [hbaselines] at hread
    cases hread
    rfl
  pages := by
    intro others found hread hfound
    rw [hbaselines] at hread
    cases hread
    rw [hlist] at hfound
    cases hfound

/-- A run that reads and merges tells all numbers. -/
theorem Trace.tells_ofMerge (isPlaceholder : PlaceholderTest) {baselines : List BaselineRecord}
    {passed : List (Path × Text)} {s₁ : RunState} (hdistinct : s.files.nodes.keys.Nodup)
    (hbaselines : (begun paths suffix s).files.readBaseline paths.baseline = .ok baselines)
    (hlist : (loaded paths suffix s baselines.length).files.listPages paths.pages suffix =
      .ok found)
    (hread : (readPages found).run.run (loaded paths suffix s baselines.length) =
      (.ok (pairs, skipped), s₁))
    (hpassed : passed.map Prod.fst =
      found.filter (!(loaded paths suffix s baselines.length).files.isReadable ·))
    (hskipped : passed.map (fun page => page.1.name) = skipped) :
    (Trace.ofMerge passed found (Entries.ofPairs pairs)
      (mergeCorpus isPlaceholder baselines (Entries.ofPairs pairs))).Tells paths suffix s where
  scan := by
    have hcount := length_of_run_readPages hread (nodup_nodes_loaded hdistinct _) hlist
    rw [← hskipped, List.length_map] at hcount
    exact hcount
  merge := by
    have hrecords : (mergeCorpus isPlaceholder baselines (Entries.ofPairs pairs)).records.length =
        baselines.length := List.length_map _
    exact hrecords.trans (length_eq_countP_isSome_add _ _)
  order := by
    have hnames : (passed.map fun page => page.1.name) = (passed.map Prod.fst).map Path.name := by
      rw [List.map_map]
      rfl
    rw [Trace.ofMerge, hnames, hpassed]
    exact (FileSystem.increasing_names_of_listPages (nodup_nodes_loaded hdistinct _) hlist).sublist
      (List.filter_sublist.map _)
  baseline := by
    intro others hothers
    rw [hbaselines] at hothers
    cases hothers
    exact List.length_map _
  pages := by
    intro others listed hothers hlisted
    rw [hbaselines] at hothers
    cases hothers
    rw [hlist] at hlisted
    cases hlisted
    exact ⟨rfl, hpassed⟩

/-- The first stage reports a part of a trace, and the whole of it if the stage ends well. -/
theorem events_of_prepared {outcome : Except Failure (Scan × MergedCorpus)}
    (h : Prepared paths suffix isPlaceholder s outcome s')
    (hdistinct : s.files.nodes.keys.Nodup) :
    ∃ (trace : Trace) (events : List LogEvent), trace.Tells paths suffix s ∧
      s'.events = s.events ++ events ∧ events <+: trace.prepared paths suffix ∧
      ∀ scanned corpus, outcome = .ok (scanned, corpus) →
        events = trace.prepared paths suffix ∧ trace.entries = corpus.records.length ∧
          trace.enhanced = corpus.enhanced ∧ trace.fallback = corpus.fallback := by
  cases h with
  | noBaseline hbaselines =>
    refine ⟨{}, [.runStart paths.baseline paths.pages paths.output suffix],
      Trace.tells_of_noBaseline hbaselines, events_note s _, ⟨_, rfl⟩, ?_⟩
    intro scanned corpus houtcome
    cases houtcome
  | @noPages baselines failure hbaselines hlist =>
    refine ⟨_, [.runStart paths.baseline paths.pages paths.output suffix,
        .baselineLoaded paths.baseline baselines.length],
      Trace.tells_of_noPages hbaselines hlist, ?_, ⟨_, rfl⟩, ?_⟩
    · rw [loaded, begun, events_note, events_note, List.append_assoc]
      rfl
    · intro scanned corpus houtcome
      cases houtcome
  | @merged baselines found pairs skipped s₁ hbaselines hlist hread =>
    obtain ⟨passed, hevents, hpassed, hskipped⟩ := events_of_run_readPages hread fun p hp =>
      FileSystem.exists_readFile_of_mem_listPages hlist hp
    refine ⟨_, _, Trace.tells_ofMerge isPlaceholder hdistinct hbaselines hlist hread hpassed
      hskipped, ?_, List.prefix_rfl, ?_⟩
    · have hrecords : (mergeCorpus isPlaceholder baselines
          (Entries.ofPairs pairs)).records.length = baselines.length := List.length_map _
      have hcount : skipped.length = passed.length := by rw [← hskipped, List.length_map]
      rw [events_note, events_note, hevents, loaded, begun, events_note, events_note, hcount]
      rw [Trace.prepared, Trace.opening, Trace.ofMerge, hrecords, List.append_assoc,
        List.append_assoc, List.append_assoc, List.append_assoc]
      rfl
    · intro scanned corpus houtcome
      cases houtcome
      exact ⟨rfl, rfl, rfl, rfl⟩

/-- The events of a run are the first ones of a trace that agrees with the files, and all of them
if and only if the run ends well. The numbers in their fields agree, as far as the events come; in
a run that ends well they are those of its summary. -/
theorem events_of_run {outcome : Except Failure Report.RunSummary}
    (hrun : (run paths suffix isPlaceholder).run.run s = (outcome, s'))
    (hdistinct : s.files.nodes.keys.Nodup) :
    ∃ (trace : Trace) (events : List LogEvent), trace.Tells paths suffix s ∧
      s'.events = s.events ++ events ∧ events <+: trace.events paths suffix ∧
      (events = trace.events paths suffix ↔ ∃ summary, outcome = .ok summary) ∧
      NumbersAgree events ∧
      ∀ summary, outcome = .ok summary → trace.entries = summary.total ∧
        trace.enhanced = summary.enhanced ∧ trace.fallback = summary.fallback := by
  have hfails (failure : Failure) (summary : Report.RunSummary) :
      Except.error failure ≠ Except.ok summary := nofun
  rw [run_eq_bind, Run.run_bind] at hrun
  cases hprepare : (prepare paths suffix isPlaceholder).run.run s with
  | mk prepared s₁ =>
    obtain ⟨trace, events, htells, hevents, hbegins, hwhole⟩ :=
      events_of_prepared (prepared_of_run hprepare) hdistinct
    -- the first stage alone never reports the whole trace
    have hshort : events <+: trace.events paths suffix ∧ events ≠ trace.events paths suffix := by
      have hlength := hbegins.length_le
      refine ⟨hbegins.trans ⟨_, rfl⟩, fun h => ?_⟩
      rw [h, Trace.events, List.length_append, List.length_singleton] at hlength
      omega
    rw [hprepare] at hrun
    cases prepared with
    | error failure =>
      cases hrun
      exact ⟨trace, events, htells, hevents, hshort.1,
        iff_of_false hshort.2 (not_exists.mpr (hfails _)), htells.numbersAgree hshort.1,
        fun summary h => absurd h (hfails _ summary)⟩
    | ok answer =>
      obtain ⟨rfl, hentries, henhanced, hfallback⟩ := hwhole answer.1 answer.2 rfl
      have hsilent := isSilent_writeCorpus paths.output answer.2.records s₁
      cases outcome with
      | error failure =>
        rw [run_conclude_eq_error.mp hrun] at hsilent
        exact ⟨trace, _, htells, hsilent.trans hevents, hshort.1,
          iff_of_false hshort.2 (not_exists.mpr (hfails _)), htells.numbersAgree hshort.1,
          fun summary h => absurd h (hfails _ summary)⟩
      | ok summary =>
        obtain ⟨s₂, hwrite, rfl, rfl⟩ := run_conclude_eq_ok.mp hrun
        rw [hwrite] at hsilent
        refine ⟨trace, _, htells, ?_, List.prefix_rfl, iff_of_true rfl ⟨_, rfl⟩,
          htells.numbersAgree List.prefix_rfl, ?_⟩
        · rw [events_note, hsilent, hevents, List.append_assoc, ← hentries]
          rfl
        · intro summary h
          rw [← Except.ok.inj h, hentries, henhanced, hfallback]
          exact ⟨rfl, rfl, rfl⟩

set_option maxRecDepth 4000 in
/-- Of the two pages in the counted directory the second one cannot be read. -/
theorem unreadable_countedFiles :
    [(⟨.relative, ["docs", "a.md"]⟩ : Path), ⟨.relative, ["docs", "b.md"]⟩].filter
      (!countedFiles.isReadable ·) = [⟨.relative, ["docs", "b.md"]⟩] := rfl

/-- A run on these files merges three entries, two of them with a page. -/
theorem merged_countedState {summary : Report.RunSummary}
    (hrun : (run samplePaths defaultSuffix (placeholderTest defaultPlaceholder)).run.run
      countedState = (.ok summary, s')) :
    summary.total = 3 ∧ summary.enhanced = 2 ∧ summary.fallback = 1 := by
  obtain ⟨baselines, listed, pages, hbaselines, hlisted, hfind, ⟨skipped, rfl⟩, -⟩ :=
    summary_of_run hrun (logsAside_of_none rfl)
  cases hbaselines.symm.trans readBaseline_countedFiles
  cases hlisted.symm.trans listPages_countedFiles
  have hpage : ∀ name said, pages.find? name = some said ↔
      ∃ p ∈ [(⟨.relative, ["docs", "a.md"]⟩ : Path), ⟨.relative, ["docs", "b.md"]⟩],
        p.stem = name ∧ countedFiles.pageAt? p = some said := by
    intro name said
    rw [hfind, FileSystem.pageNamed?_eq_some hlisted]
    rfl
  obtain ⟨ha, hb⟩ := pages_countedFiles hpage
  have hname (name : Text) : (countedEntry name).name = name := rfl
  refine ⟨rfl, ?_, ?_⟩
  all_goals
    simp only [summarize, mergeCorpus, List.countP_cons, List.countP_nil, hname, ha, hb]
    rfl

/-- A run that passes over one page reports six events. -/
theorem events_countedState : countedState.files.nodes.keys.Nodup ∧ ∃ summary s' reason,
    (run samplePaths defaultSuffix (placeholderTest defaultPlaceholder)).run.run countedState =
      (.ok summary, s') ∧
    s'.events = [
      { name := "run_start"
        fields := [("baseline_file", .path ⟨.relative, ["base.json"]⟩),
          ("docs_dir", .path ⟨.relative, ["docs"]⟩),
          ("output_file", .path ⟨.relative, ["out.json"]⟩), ("suffix", .text ".md")] },
      { name := "baseline_loaded"
        fields := [("baseline_file", .path ⟨.relative, ["base.json"]⟩), ("count", .int 3)] },
      { name := "document_skipped"
        level := Level.warning
        fields := [("document", .path ⟨.relative, ["docs", "b.md"]⟩), ("error", .text reason)] },
      { name := "docs_scanned"
        fields := [("docs_dir", .path ⟨.relative, ["docs"]⟩), ("found", .int 2),
          ("parsed", .int 1), ("skipped", .int 1)] },
      { name := "merge_complete"
        fields := [("total", .int 3), ("enhanced", .int 2), ("fallback", .int 1)] },
      { name := "output_written"
        fields := [("output_file", .path ⟨.relative, ["out.json"]⟩), ("count", .int 3)] }] := by
  have hdistinct : countedState.files.nodes.keys.Nodup := by decide
  have hlog : countedState.LogsAside samplePaths defaultSuffix := logsAside_of_none rfl
  have hfile : countedState.files.readFile samplePaths.output = .ok [] := rfl
  have hopen := canWrite_of_readFile hfile (by decide) hlog.output
  obtain ⟨text, bytes, htext, hencode⟩ := corpusText_countedFiles
  obtain ⟨summary, s', hrun, -⟩ := exists_run hlog readBaseline_countedFiles
    ⟨_, listPages_countedFiles⟩ hopen htext hencode
  obtain ⟨trace, events, htells, hevents, -, hwhole, -, hcounts⟩ := events_of_run hrun hdistinct
  obtain ⟨hentries, henhanced, hfallback⟩ := hcounts summary rfl
  obtain ⟨hthree, htwo, hone⟩ := merged_countedState hrun
  rw [hthree] at hentries
  rw [htwo] at henhanced
  rw [hone] at hfallback
  obtain ⟨hfound, hpassed⟩ := htells.pages _ _ readBaseline_countedFiles listPages_countedFiles
  obtain ⟨⟨page, reason⟩, hskipped, hpage⟩ := List.map_eq_singleton_iff.mp
    (hpassed.trans unreadable_countedFiles)
  have hparsed : trace.parsed = 1 := by
    have hscan := htells.scan
    rw [hfound, hskipped] at hscan
    exact (Nat.add_right_cancel hscan).symm
  dsimp only at hpage
  subst hpage
  refine ⟨hdistinct, summary, s', reason, hrun, ?_⟩
  rw [hevents, hwhole.mpr ⟨summary, rfl⟩, Trace.events, Trace.prepared, Trace.opening,
    Trace.scanEvent, Trace.mergeEvent, hskipped, hparsed, hfound, hentries, henhanced, hfallback]
  rfl

end Generate

end CommandDocs
