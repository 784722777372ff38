import CommandDocs.Proofs.Corpus.GenerateRun
import CommandDocs.Proofs.Corpus.PassThrough

/-!
# Runs that break off

A generation run that breaks off leaves the corpus of an earlier run as it was, with one
exception. Pages are decoded from bytes and have no surrogates, but a baseline may name one
by its escape. Such a text is found out only when it is to be encoded, and by then the output
is open and empty.
-/

namespace CommandDocs.Generate

open RunState

variable {s s' : RunState} {paths : GeneratePaths} {directory output : Path} {suffix : Text}
  {found : List Path} {isPlaceholder : PlaceholderTest} {records : List MergedRecord}

/-- Pages that are read are Unicode. -/
theorem isUnicode_of_run_readPages {pairs : List (Text × Page.Extraction)} {skipped : List Text}
    (h : (readPages found).run.run s = (.ok (pairs, skipped), s')) :
    ∀ entry ∈ Entries.ofPairs pairs, entry.2.IsUnicode := by
  intro entry hentry
  obtain ⟨fs, p, text, htext, hpage⟩ :=
    exists_text_of_run_readPages h entry (Entries.mem_of_mem_ofPairs hentry)
  rw [← hpage]
  exact Page.isUnicode_extract (FileSystem.isUnicode_of_readText htext)

/-- So are the pages of a directory. -/
theorem isUnicode_scan {answer : Scan}
    (h : (scan directory suffix).run.run s = (.ok answer, s')) :
    ∀ entry ∈ answer.pages, entry.2.IsUnicode := by
  obtain ⟨found, pairs, skipped, s₁, -, hread, rfl, -⟩ := run_scan_eq_ok.mp h
  exact isUnicode_of_run_readPages hread

/-- The text of a baseline merged with pages is Unicode when the baseline and the pages are. -/
theorem isUnicode_of_mergeCorpus {items : List Json} {baselines : List BaselineRecord}
    {pages : Entries Text Page.Extraction}
    {text : Text}
    (hbaselines : List.Forall₂ (fun item b => BaselineRecord.ofJson item = .ok b) items baselines)
    (htexts : ∀ item ∈ items, item.Everywhere Json.HasUnicode)
    (hpages : ∀ entry ∈ pages, entry.2.IsUnicode)
    (htext : corpusText (mergeCorpus isPlaceholder baselines pages).records = .ok text) :
    text.IsUnicode := by
  rw [isUnicode_corpusText htext, MergedRecord.collection, Json.everywhere_array]
  refine ⟨trivial, fun written hwritten => ?_⟩
  obtain ⟨r, hr, rfl⟩ := List.mem_map.mp hwritten
  obtain ⟨b, hb, rfl⟩ := List.mem_map.mp hr
  obtain ⟨item, hitem, hread⟩ := exists_item_of_mem_baselines hbaselines hb
  rw [← MergedRecord.finitePart_toJson]
  exact Json.hasUnicode_finitePart (BaselineRecord.hasUnicode_merge
    (BaselineRecord.hasUnicode_of_ofJson hread (htexts item hitem))
    (Entries.isUnicode_of_find? hpages b.name) isPlaceholder)

/-- Where the text of a corpus has no bytes the attempt to write it leaves an empty file. -/
theorem run_writeCorpus_of_surrogates {text : Text} {e : Utf8.EncodeError}
    (htext : corpusText records = .ok text) (hencode : Utf8.encode text = .error e)
    (hopen : s.files.CanOpen output) :
    ∃ s', (writeCorpus output records).run.run s = (.error (.unwritable (.surrogates e)), s') ∧
      s'.files.readFile output = .ok [] := by
  obtain ⟨hdirectories, opened, hopened⟩ := hopen
  exact ⟨_, run_writeCorpus_eq_error.mpr (.noBytes htext hencode hdirectories hopened),
    FileSystem.readFile_of_writeFile hopened⟩

/-- A run that breaks off leaves what can be read at its output as it was, or as little. The one
exception is a run on a baseline with a surrogate in one of its texts, which may break off with
an empty file at its output. -/
theorem output_of_failed_run {failure : Failure}
    (hrun : (run paths suffix isPlaceholder).run.run s = (.error failure, s'))
    (hbaseline : s.logPlace? ≠ some (s.files.placeOf paths.baseline))
    (houtput : s.logPlace? ≠ some (s.files.placeOf paths.output)) :
    FileSystem.SameContent paths.output s.files s'.files ∨
      ∃ e items, failure = .unwritable (.surrogates e) ∧
        s'.files.readFile paths.output = .ok [] ∧
        s.files.readItems .baseline paths.baseline = .ok items ∧
        ∃ item ∈ items, ¬item.Everywhere Json.HasUnicode := by
  rcases run_eq_error hrun with hnoted | ⟨found, corpus, s₁, hprepare, hwrite⟩
  · exact Or.inl (hnoted.sameContent houtput)
  have hprepared : OnlyNoted s s₁ := (onlyNotes_prepare _ _ _).onlyNoted hprepare
  rcases output_of_unwritten (run_writeCorpus_eq_error.mp hwrite)
      (isProper_of_run_prepare hprepare) with
    hkept | ⟨text, e, htext, hencode, hfailure, hempty⟩
  · exact Or.inl ((hprepared.sameContent houtput).trans hkept)
  · obtain ⟨baselines, s₂, s₃, hread, -, hscan, rfl⟩ := run_prepare_eq_ok hprepare hbaseline
    obtain ⟨items, hitems, hrecords⟩ := FileSystem.readBaseline_eq_ok.mp hread
    refine Or.inr ⟨e, items, hfailure, hempty, hitems, ?_⟩
    by_contra hnone
    -- a baseline without surrogates would have a text that is encoded
    have htexts : ∀ item ∈ items, item.Everywhere Json.HasUnicode := by
      intro item hitem
      by_contra hsurrogate
      exact hnone ⟨item, hitem, hsurrogate⟩
    have hunicode := isUnicode_of_mergeCorpus hrecords htexts (isUnicode_scan hscan) htext
    rw [Utf8.encode_of_isUnicode hunicode] at hencode
    cases hencode

/-- The corpus of an earlier run, without any command. -/
def earlierCorpus : Bytes := (Text.ofString "[]\n").flatMap Utf8.bytesOf

/-- A baseline with the given text, an empty directory of pages, and an earlier corpus. -/
def earlierState (baseline : Text) : RunState where
  files :=
    { nodes := [
        (["base.json"], .file (baseline.flatMap Utf8.bytesOf)),
        (["docs"], .directory),
        (["out.json"], .file earlierCorpus)]
      workingDirectory := [] }
  clock := .epoch

/-- There is no log beside the earlier corpus. -/
theorem logPlace?_earlierState (baseline : Text) (place : Place) :
    (earlierState baseline).logPlace? ≠ some place := nofun

/-- A run on a baseline that is no JSON breaks off and keeps the earlier corpus. -/
theorem output_of_failed_run_malformed : ∃ failure s',
    (run samplePaths defaultSuffix (placeholderTest defaultPlaceholder)).run.run
        (earlierState "[") = (.error failure, s') ∧
      s'.files.readFile samplePaths.output = .ok earlierCorpus := by
  have hrun : ∃ s', (run samplePaths defaultSuffix (placeholderTest defaultPlaceholder)).run.run
      (earlierState "[") = (.error (.collection .baseline .notJson samplePaths.baseline), s') := by
    rw [run]
    simp only [Run.run_bind_eq_error, Run.run_ask_eq_error, Run.run_report_eq_ok]
    exact ⟨_, Or.inr ⟨(), _, rfl, Or.inl ⟨rfl, rfl⟩⟩⟩
  obtain ⟨s', hrun⟩ := hrun
  refine ⟨_, s', hrun, ?_⟩
  rcases output_of_failed_run hrun (logPlace?_earlierState _ _) (logPlace?_earlierState _ _) with
    hkept | ⟨e, items, hfailure, -⟩
  · exact (hkept earlierCorpus).mpr rfl
  · cases hfailure

/-- A baseline with one entry, in which a further member names a surrogate. -/
def surrogateBaseline : Text :=
  "[\x7b\"name\":\"abs\",\"description\":\"d\",\"usage\":\"abs(x)\",\"note\":\"\\ud800\"\x7d]"

/-- The entry of that baseline. -/
def surrogateEntry : BaselineRecord where
  name := "abs"
  description := "d"
  usage := "abs(x)"
  extras := [("note", .text [.surrogate 0])]

/-- The corpus of that baseline, without a page. -/
def surrogateCorpus : MergedCorpus :=
  mergeCorpus (placeholderTest defaultPlaceholder) [surrogateEntry] []

/-- The corpus has a text, and the text has no bytes. -/
theorem encode_surrogateCorpus : ∃ text e, corpusText surrogateCorpus.records = .ok text ∧
    Utf8.encode text = .error e := by
  have hchecks : ∀ r ∈ surrogateCorpus.records,
      Json.checkWritableMembers Json.writableDepth r.extras = .ok () := by
    intro r hr
    rw [List.mem_singleton.mp hr]
    rfl
  have hshort : (MergedRecord.collection surrogateCorpus.records).Everywhere
      Json.HasShortIntegers := Json.checkDigits_eq_ok.mp rfl
  obtain ⟨e, hencode⟩ := Utf8.encode_of_not_isUnicode (t := Json.write Json.Layout.indented
    (MergedRecord.collection surrogateCorpus.records) ++ ("\n" : Text)) (by decide +kernel)
  exact ⟨_, e, corpusText_eq_ok.mpr ⟨rfl, hchecks, hshort⟩, hencode⟩

set_option maxRecDepth 4000 in
/-- The entry is read from that baseline. -/
theorem readBaseline_surrogateBaseline :
    (earlierState surrogateBaseline).files.readBaseline samplePaths.baseline =
      .ok [surrogateEntry] := rfl

/-- The first stage of a run on that baseline ends well. -/
theorem run_prepare_surrogateBaseline : ∃ s',
    (prepare samplePaths defaultSuffix (placeholderTest defaultPlaceholder)).run.run
        (earlierState surrogateBaseline) = (.ok (⟨[], []⟩, surrogateCorpus), s') ∧
      s'.files = (earlierState surrogateBaseline).files := by
  have hpages : (earlierState surrogateBaseline).files.listPages samplePaths.pages
      defaultSuffix = .ok [] := by
    have hentries : (earlierState surrogateBaseline).files.listDirectory samplePaths.pages =
        .ok [] := rfl
    simp only [FileSystem.listPages, hentries, List.filter_nil, FileSystem.filesAmong,
      Text.sortOn, List.mergeSort_nil, Except.mapError, bind, Except.bind]
  simp only [prepare, merge, run_scan_eq_ok, Run.run_bind_eq_ok, Run.run_ask_eq_ok,
    Run.run_report_eq_ok, Run.run_pure_eq_ok]
  exact ⟨_, ⟨(), _, rfl, [surrogateEntry], _, ⟨readBaseline_surrogateBaseline, rfl⟩, (), _, rfl,
    ⟨[], []⟩, _, ⟨[], [], [], _, hpages, rfl, rfl, rfl⟩, surrogateCorpus, _,
    ⟨(), _, rfl, rfl, rfl⟩, rfl, rfl⟩, rfl⟩

/-- A run on a baseline with a surrogate breaks off when the earlier corpus is lost. -/
theorem output_lost_of_surrogateBaseline :
    (earlierState surrogateBaseline).files.readFile samplePaths.output = .ok earlierCorpus ∧
    ∃ e s', (run samplePaths defaultSuffix (placeholderTest defaultPlaceholder)).run.run
        (earlierState surrogateBaseline) = (.error (.unwritable (.surrogates e)), s') ∧
      s'.files.readFile samplePaths.output = .ok [] ∧ earlierCorpus ≠ [] := by
  refine ⟨rfl, ?_⟩
  obtain ⟨s₁, hprepare, hfiles⟩ := run_prepare_surrogateBaseline
  have hopen : s₁.files.CanOpen samplePaths.output := by
    have hthere : s₁.files.readFile samplePaths.output = .ok earlierCorpus := by
      rw [hfiles]
      rfl
    exact FileSystem.canOpen_of_readFile hthere (by decide)
  obtain ⟨text, e, htext, hencode⟩ := encode_surrogateCorpus
  obtain ⟨s', hwrite, hempty⟩ := run_writeCorpus_of_surrogates htext hencode hopen
  refine ⟨e, s', ?_, hempty, by decide⟩
  rw [run_eq_bind]
  refine Run.run_bind_eq_error.mpr (Or.inr ⟨_, s₁, hprepare, ?_⟩)
  exact Run.run_bind_eq_error.mpr (Or.inl hwrite)

end CommandDocs.Generate
