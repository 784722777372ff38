import CommandDocs.Proofs.Corpus.GenerateRun
import CommandDocs.Proofs.Corpus.IndexRun

/-!
# The two sources of an index

An index takes its records from the corpus that a run wrote or, without one, from the
baseline of that run. Both tables are filled from the same entries, so that they have the
same names in the same order, and under each name the same entry with and without its
documentation.
-/

namespace CommandDocs

/-- Two records stand for the same command: they differ in nothing but the description and
the documentation. -/
structure MergedRecord.SameCommand (r r' : MergedRecord) : Prop where
  /-- They have the same name. -/
  name : r.name = r'.name
  /-- The command is called in the same way. -/
  usage : r.usage = r'.usage
  /-- The category is the same, also when it is null or missing. -/
  category : r.category = r'.category
  /-- All further members are the same, in the same order. -/
  extras : r.extras = r'.extras

/-- An entry stands for the same command whether it is merged with a page or not, as long as
all numbers in its further members are finite. -/
theorem BaselineRecord.sameCommand_merge {b : BaselineRecord}
    (hnumbers : ∀ member ∈ b.extras, member.2.Everywhere Json.HasFinite)
    (isPlaceholder : PlaceholderTest) (page : Option Page.Extraction) :
    (b.merge isPlaceholder page).finitePart.SameCommand b.withoutDocumentation := by
  have hfinite : (b.merge isPlaceholder page).finitePart = b.merge isPlaceholder page := by
    refine MergedRecord.finitePart_of_everywhere fun member hmember => ?_
    rw [extras_merge] at hmember
    exact hnumbers member (List.mem_filter.mp hmember).1
  rw [hfinite]
  cases page <;> exact ⟨rfl, rfl, rfl, rfl⟩

namespace FileSystem

/-- There is something at a path from which command data is read. -/
theorem pathExists_of_readCommandData {fs : FileSystem} {p : Path} {records : List MergedRecord}
    (h : fs.readCommandData p = .ok records) : fs.pathExists p = .ok true := by
  rw [readCommandData, bind_eq_ok] at h
  obtain ⟨items, hitems, -⟩ := h
  obtain ⟨text, htext, -⟩ := readItems_eq_ok.mp hitems
  obtain ⟨content, hcontent⟩ := readFile_of_readText htext
  obtain ⟨place, hlocate⟩ := readFile_eq_ok.mp hcontent
  rw [pathExists, nodeAt?, hlocate]
  rfl

end FileSystem

/-- The entries of a baseline under their names. -/
def BaselineRecord.table (baselines : List BaselineRecord) : Entries Text BaselineRecord :=
  Entries.ofPairs (baselines.map fun b => (b.name, b))

/-- What stands in the table under a name is an entry of the baseline with this name. -/
theorem BaselineRecord.of_find?_table {baselines : List BaselineRecord} {name : Text}
    {b : BaselineRecord} (h : (table baselines).find? name = some b) :
    b ∈ baselines ∧ b.name = name := by
  obtain ⟨b', hb', heq⟩ := List.mem_map.mp (Entries.mem_of_mem_ofPairs (Entries.mem_of_find? h))
  obtain ⟨hname, rfl⟩ := Prod.mk.inj heq
  exact ⟨hb', hname⟩

/-- Records that come from entries and keep their names stand where the entries do. -/
theorem LoadedRecords.records_ofRecords {source : IndexSource} {baselines : List BaselineRecord}
    {toRecord : BaselineRecord → MergedRecord} (hname : ∀ b, (toRecord b).name = b.name) :
    (ofRecords source (baselines.map toRecord)).records =
      Entries.mapValues toRecord (BaselineRecord.table baselines) := by
  rw [BaselineRecord.table, ← Entries.ofPairs_mapValues, ofRecords, Entries.mapValues,
    List.map_map, List.map_map]
  simp only [Function.comp_def, hname]

namespace CommandIndex

variable {index : CommandIndex} {fs : FileSystem} {loaded : LoadedRecords}

/-- Command data that is read is taken. -/
theorem load_of_readCommandData {records : List MergedRecord} (hnone : index.loaded = none)
    (hdata : fs.readCommandData index.data = .ok records) :
    (index.load fs).outcome = .ok (some (.ofRecords .generated records)) := by
  simp only [load, hnone, readRecords, FileSystem.pathExists_of_readCommandData hdata, hdata, store]

/-- Without command data the baseline is taken. -/
theorem load_of_readBaseline {baselines : List BaselineRecord} {p : Path}
    (hnone : index.loaded = none) (hmissing : fs.pathExists index.data = .ok false)
    (hbaseline : index.baseline = some p) (hread : fs.readBaseline p = .ok baselines) :
    (index.load fs).outcome =
      .ok (some (.ofRecords .baseline (baselines.map BaselineRecord.withoutDocumentation))) := by
  simp only [load, hnone, readRecords, hmissing, readBaseline, hbaseline, hread, store]

/-- The baseline is taken as well when there is command data that has a fault. -/
theorem load_of_fault {baselines : List BaselineRecord} {p place : Path} {kind : CollectionKind}
    {fault : CollectionFault} (hnone : index.loaded = none)
    (hexists : fs.pathExists index.data = .ok true)
    (hfault : fs.readCommandData index.data = .error (.collection kind fault place))
    (hbaseline : index.baseline = some p) (hread : fs.readBaseline p = .ok baselines) :
    (index.load fs).outcome =
      .ok (some (.ofRecords .baseline (baselines.map BaselineRecord.withoutDocumentation))) := by
  simp only [load, hnone, readRecords, hexists, hfault, readBaseline, hbaseline, hread, store]

/-- An index that could read its records answers from them. -/
theorem reply_call_of_outcome (h : (index.load fs).outcome = .ok (some loaded)) {call : IndexCall}
    (hcall : call ≠ .reset) :
    (index.call fs call).reply = .ok (call.reply { index with loaded := some loaded }) := by
  rw [reply_call hcall (outcome_ne_error_of_ok h), settled_of_outcome h]

/-- An index that has its records answers from them, whatever the files are. -/
theorem reply_call_of_loaded (h : index.loaded = some loaded) (fs : FileSystem) {call : IndexCall}
    (hcall : call ≠ .reset) : (index.call fs call).reply = .ok (call.reply index) := by
  rw [reply_call_of_outcome (congrArg LoadAttempt.outcome (load_of_loaded h)) hcall, ← h]

/-- An index that could read its records has them after a call for loading. -/
theorem loaded_call_load (h : (index.load fs).outcome = .ok (some loaded)) :
    (index.call fs .load).index.loaded = some loaded := by
  have hneeds : IndexCall.load.needsRecords = true := rfl
  rw [index_call (by simp), if_pos hneeds, settled_of_outcome h]

/-- An index whose records come from entries answers from the table of the entries. -/
theorem replies_of_table {source : IndexSource} {baselines : List BaselineRecord}
    {toRecord : BaselineRecord → MergedRecord}
    (hload : (index.load fs).outcome = .ok (some (.ofRecords source (baselines.map toRecord))))
    (hname : ∀ b, (toRecord b).name = b.name) :
    (index.call fs .load).reply = .ok (.truth true) ∧
      (index.call fs .names).reply = .ok (.names (BaselineRecord.table baselines).keys) ∧
      (index.call fs .count).reply = .ok (.count (BaselineRecord.table baselines).length) ∧
      (∀ name, (index.call fs (.has name)).reply =
        .ok (.truth ((BaselineRecord.table baselines).keys.contains name))) ∧
      ∀ name, (index.call fs (.lookup name)).reply =
        .ok (.record (((BaselineRecord.table baselines).find? name).map toRecord)) := by
  have hreply {call : IndexCall} (hcall : call ≠ .reset) := reply_call_of_outcome hload hcall
  have hrecords : (LoadedRecords.ofRecords source (baselines.map toRecord)).records = _ :=
    LoadedRecords.records_ofRecords hname
  generalize LoadedRecords.ofRecords source (baselines.map toRecord) = loaded at hreply hrecords
  refine ⟨hreply (by simp), ?_, ?_, fun name => ?_, fun name => ?_⟩
  · rw [hreply (by simp), ← Entries.keys_mapValues toRecord, ← hrecords]
    rfl
  · rw [hreply (by simp), ← List.length_map, ← Entries.mapValues, ← hrecords]
    rfl
  · rw [hreply (by simp), ← Entries.keys_mapValues toRecord, ← hrecords]
    rfl
  · rw [hreply (by simp), ← Entries.find?_mapValues, ← hrecords]
    rfl

/-- Two indexes answer alike from the same files, and each has loaded its own source: both
have the same names in the same order, and their records differ at most in documentation. -/
structure AnswersAlike (index other : CommandIndex) (fs : FileSystem) : Prop where
  /-- Both are loaded. -/
  load : (index.call fs .load).reply = .ok (.truth true) ∧
    (other.call fs .load).reply = .ok (.truth true)
  /-- Both list the same names in the same order. -/
  names : ∃ names, (index.call fs .names).reply = .ok (.names names) ∧
    (other.call fs .names).reply = .ok (.names names)
  /-- Both have as many commands. -/
  count : ∃ count, (index.call fs .count).reply = .ok (.count count) ∧
    (other.call fs .count).reply = .ok (.count count)
  /-- Both have the same commands. -/
  has : ∀ name, ∃ truth, (index.call fs (.has name)).reply = .ok (.truth truth) ∧
    (other.call fs (.has name)).reply = .ok (.truth truth)
  /-- The records of a name stand for the same command, or there is none in either. -/
  lookup : ∀ name, ∃ found found',
    (index.call fs (.lookup name)).reply = .ok (.record found) ∧
      (other.call fs (.lookup name)).reply = .ok (.record found') ∧
      Option.Rel MergedRecord.SameCommand found found'

/-- Two indexes answer alike when their records come from the same entries and stand for the
same commands. -/
theorem answersAlike_of_load {other : CommandIndex} {source source' : IndexSource}
    {baselines : List BaselineRecord} {toRecord toRecord' : BaselineRecord → MergedRecord}
    (hload : (index.load fs).outcome = .ok (some (.ofRecords source (baselines.map toRecord))))
    (hload' : (other.load fs).outcome = .ok (some (.ofRecords source' (baselines.map toRecord'))))
    (hname : ∀ b, (toRecord b).name = b.name) (hname' : ∀ b, (toRecord' b).name = b.name)
    (hsame : ∀ b ∈ baselines, (toRecord b).SameCommand (toRecord' b)) :
    index.AnswersAlike other fs := by
  obtain ⟨hloaded, hnames, hcount, hhas, hlookup⟩ := replies_of_table hload hname
  obtain ⟨hloaded', hnames', hcount', hhas', hlookup'⟩ := replies_of_table hload' hname'
  refine ⟨⟨hloaded, hloaded'⟩, ⟨_, hnames, hnames'⟩, ⟨_, hcount, hcount'⟩,
    fun name => ⟨_, hhas name, hhas' name⟩, fun name => ⟨_, _, hlookup name, hlookup' name, ?_⟩⟩
  cases hfind : (BaselineRecord.table baselines).find? name with
  | none => exact .none
  | some b => exact .some (hsame b (BaselineRecord.of_find?_table hfind).1)

end CommandIndex

namespace Generate

open RunState

variable {s s' : RunState} {paths : GeneratePaths} {suffix : Text}
  {isPlaceholder : PlaceholderTest}

/-- A run that does not write over its baseline leaves it as it was. -/
theorem readBaseline_of_run {summary : Report.RunSummary} {baselines : List BaselineRecord}
    (hrun : (run paths suffix isPlaceholder).run.run s = (.ok summary, s'))
    (hlog : s.logPlace? ≠ some (s.files.placeOf paths.baseline))
    (hplaces : s.files.placeOf paths.output ≠ s.files.placeOf paths.baseline)
    (hread : s.files.readBaseline paths.baseline = .ok baselines) :
    s'.files.readBaseline paths.baseline = .ok baselines := by
  obtain ⟨found, corpus, s₁, s₂, hprepare, hwrite, hwritten⟩ := run_eq_ok hrun
  have hprepared : OnlyNoted s s₁ := (onlyNotes_prepare _ _ _).onlyNoted hprepare
  obtain ⟨hplace, hlogPlace⟩ := placeOf_of_run_writeCorpus hwrite
  have hlog₁ : s₁.logPlace? ≠ some (s₁.files.placeOf paths.baseline) := hprepared.apart hlog
  have hlog₂ : s₂.logPlace? ≠ some (s₂.files.placeOf paths.baseline) := by
    rw [hlogPlace, hplace]
    exact hlog₁
  refine FileSystem.readBaseline_of_kept (fun content hcontent => ?_) hread
  refine (hwritten.sameContent hlog₂ content).mpr (readFile_of_run_writeCorpus hwrite ?_ ?_)
  · rw [hprepared.files.placeOf_eq, hprepared.files.placeOf_eq]
    exact hplaces
  · exact (hprepared.sameContent hlog content).mpr hcontent

/-- After a run an index of its output and an index that has to fall back to its baseline
answer alike, the one from the corpus and the other from the entries, as long as all numbers in
further members are finite and the output is another file than the baseline. A log, if there is one,
is neither of them. -/
theorem answersAlike_of_run {summary : Report.RunSummary}
    (hrun : (run paths suffix isPlaceholder).run.run s = (.ok summary, s'))
    (hbaseline : s.logPlace? ≠ some (s.files.placeOf paths.baseline))
    (houtput : s.logPlace? ≠ some (s.files.placeOf paths.output))
    (hplaces : s.files.placeOf paths.output ≠ s.files.placeOf paths.baseline)
    (hnumbers : ∀ baselines, s.files.readBaseline paths.baseline = .ok baselines →
      ∀ b ∈ baselines, ∀ member ∈ b.extras, member.2.Everywhere Json.HasFinite)
    (other : Option Path) {data : Path} (hmissing : s'.files.pathExists data = .ok false) :
    let generated : CommandIndex := { data := paths.output, baseline := other }
    let fallback : CommandIndex := { data, baseline := some paths.baseline }
    (generated.load s'.files).outcome.map (·.map (·.source)) = .ok (some .generated) ∧
      (fallback.load s'.files).outcome.map (·.map (·.source)) = .ok (some .baseline) ∧
      generated.AnswersAlike fallback s'.files := by
  intro generated fallback
  obtain ⟨baselines, _, _, found, text, bytes, hbaselines, -, -, htext, hencode, hfile⟩ :=
    output_of_run hrun hbaseline houtput
  have hgenerated : (generated.load s'.files).outcome = _ :=
    CommandIndex.load_of_readCommandData rfl
      (readCommandData_of_mergeCorpus hbaselines htext hencode hfile)
  have hfallback : (fallback.load s'.files).outcome = _ :=
    CommandIndex.load_of_readBaseline rfl hmissing rfl
      (readBaseline_of_run hrun hbaseline hplaces hbaselines)
  refine ⟨by rw [hgenerated]; rfl, by rw [hfallback]; rfl, ?_⟩
  refine CommandIndex.answersAlike_of_load hgenerated hfallback (fun b => ?_) (fun b => rfl) ?_
  · cases found.pages.find? b.name <;> rfl
  · exact fun b hb =>
      BaselineRecord.sameCommand_merge (hnumbers baselines hbaselines b hb) isPlaceholder _

/-- After the run on the sample an index of the corpus and one of the baseline answer alike. -/
theorem answersAlike_sampleState : ∃ summary s',
    (run samplePaths defaultSuffix (placeholderTest defaultPlaceholder)).run.run sampleState =
      (.ok summary, s') ∧
    ({ data := samplePaths.output } : CommandIndex).AnswersAlike
      { data := ⟨.relative, ["none.json"]⟩, baseline := some samplePaths.baseline } s'.files := by
  obtain ⟨summary, s', bytes, hrun, hfiles, -⟩ := run_sampleState
  have hread : sampleState.files.readBaseline samplePaths.baseline = .ok [sampleEntry] := rfl
  have hmissing : s'.files.pathExists ⟨.relative, ["none.json"]⟩ = .ok false := by
    rw [hfiles]
    rfl
  refine ⟨summary, s', hrun, ?_⟩
  refine (answersAlike_of_run hrun nofun nofun (by decide) ?_ none hmissing).2.2
  intro baselines hbaselines b hb
  rw [hread, Except.ok.injEq] at hbaselines
  rw [← hbaselines, List.mem_singleton] at hb
  rw [hb]
  exact fun member hmember => nomatch hmember

end Generate

end CommandDocs
