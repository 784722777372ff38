import CommandDocs.Corpus.Generate
import CommandDocs.Proofs.Corpus.Noting
import CommandDocs.Proofs.Corpus.Steps
import CommandDocs.Proofs.Record.Reading

/-!
# Stages of a run

A generation run first reads the baseline and the pages and merges them, and then writes.
Nothing happens in the first stage but that events are noted, however it ends, so that a run
which breaks off in it leaves all files but the log as they were.
-/

namespace CommandDocs

open RunState

variable {α β : Type} {s s' : RunState}

namespace Run

/-- Nothing happens but that events are noted, whether the computation ends well or not. -/
def OnlyNotes (x : Run α) : Prop := ∀ s, OnlyNoted s (x.run.run s).2

/-- What such a computation leads to. -/
theorem OnlyNotes.onlyNoted {x : Run α} (h : x.OnlyNotes) {outcome : Except Failure α}
    (hrun : x.run.run s = (outcome, s')) : OnlyNoted s s' := by
  have hs := h s
  rw [hrun] at hs
  exact hs

/-- Answering does nothing. -/
theorem onlyNotes_pure (a : α) : OnlyNotes (pure a : Run α) := fun s => .refl s

/-- Looking at the state does nothing. -/
theorem onlyNotes_get : OnlyNotes (get : Run RunState) := fun s => .refl s

/-- Reporting an event notes it. -/
theorem onlyNotes_report (e : LogEvent) : OnlyNotes (report e) := fun s => onlyNoted_note s e

/-- Of two steps each notes its events. -/
theorem OnlyNotes.bind {x : Run α} {f : α → Run β} (hx : x.OnlyNotes)
    (hf : ∀ a, (f a).OnlyNotes) : (x >>= f).OnlyNotes := by
  intro s
  rw [run_bind]
  cases hrun : x.run.run s with
  | mk outcome s₁ =>
    have hfirst := hx.onlyNoted hrun
    cases outcome with
    | ok a => exact hfirst.trans (hf a s₁)
    | error e => exact hfirst

/-- Asking about the files does nothing. -/
theorem onlyNotes_ask (question : FileSystem → Except Failure α) : OnlyNotes (ask question) := by
  refine onlyNotes_get.bind fun now => ?_
  cases question now.files with
  | ok answer => exact onlyNotes_pure answer
  | error failure => exact fun s => .refl s

end Run

namespace Generate

variable {paths : GeneratePaths} {suffix : Text} {isPlaceholder : PlaceholderTest}

/-- Reading pages notes those that cannot be read. -/
theorem onlyNotes_readPages (found : List Path) : (readPages found).OnlyNotes := by
  induction found with
  | nil => exact Run.onlyNotes_pure _
  | cons p rest ih =>
    rw [readPages]
    refine Run.onlyNotes_get.bind fun now => ?_
    cases now.files.readPage p with
    | ok text => exact ih.bind fun _ => Run.onlyNotes_pure _
    | error failure =>
      exact (Run.onlyNotes_report _).bind fun _ => ih.bind fun _ => Run.onlyNotes_pure _

/-- Scanning a directory notes what is found. -/
theorem onlyNotes_scan (directory : Path) (suffix : Text) : (scan directory suffix).OnlyNotes :=
  (Run.onlyNotes_ask _).bind fun found => (onlyNotes_readPages found).bind fun _ =>
    (Run.onlyNotes_report _).bind fun _ => Run.onlyNotes_pure _

/-- Scanning gives the readable pages among those that are listed, and counts them. -/
theorem run_scan_eq_ok {directory : Path} {answer : Scan} :
    (scan directory suffix).run.run s = (.ok answer, s') ↔
      ∃ found pairs skipped s₁, s.files.listPages directory suffix = .ok found ∧
        (readPages found).run.run s = (.ok (pairs, skipped), s₁) ∧
        answer = ⟨Entries.ofPairs pairs, skipped⟩ ∧
        s' = s₁.note (.pagesScanned directory found.length (Entries.ofPairs pairs).length
          skipped.length) := by
  simp only [scan, Run.run_bind_eq_ok, Run.run_ask_eq_ok, Run.run_report_eq_ok,
    Run.run_pure_eq_ok]
  constructor
  · intro h
    obtain ⟨found, _, ⟨hlist, rfl⟩, ⟨pairs, skipped⟩, s₁, hread, _, _, rfl, rfl, rfl⟩ := h
    exact ⟨found, pairs, skipped, s₁, hlist, hread, rfl, rfl⟩
  · intro h
    obtain ⟨found, pairs, skipped, s₁, hlist, hread, rfl, rfl⟩ := h
    exact ⟨found, s, ⟨hlist, rfl⟩, (pairs, skipped), s₁, hread, (), _, rfl, rfl, rfl⟩

/-- Reading pages ends well. -/
theorem exists_run_readPages (found : List Path) (s : RunState) :
    ∃ answer s', (readPages found).run.run s = (.ok answer, s') := by
  induction found generalizing s with
  | nil => exact ⟨([], []), s, rfl⟩
  | cons p rest ih =>
    rw [readPages]
    simp only [Run.run_bind_eq_ok]
    cases hpage : s.files.readPage p with
    | ok text =>
      obtain ⟨⟨pages, skipped⟩, s', hrest⟩ := ih s
      refine ⟨((p.stem, Page.extract text) :: pages, skipped), s', s, s, rfl, ?_⟩
      rw [hpage, Run.run_bind_eq_ok]
      exact ⟨_, _, hrest, rfl⟩
    | error failure =>
      obtain ⟨⟨pages, skipped⟩, s', hrest⟩ := ih (s.note (.pageSkipped p failure.message))
      refine ⟨(pages, p.name :: skipped), s', s, s, rfl, ?_⟩
      rw [hpage, Run.run_bind_eq_ok]
      refine ⟨(), _, Run.run_report_eq_ok.mpr rfl, ?_⟩
      rw [Run.run_bind_eq_ok]
      exact ⟨_, _, hrest, rfl⟩

/-- Scanning ends well where pages are listed. -/
theorem exists_run_scan {directory : Path}
    (hlist : ∃ found, s.files.listPages directory suffix = .ok found) :
    ∃ answer s', (scan directory suffix).run.run s = (.ok answer, s') := by
  obtain ⟨found, hfound⟩ := hlist
  obtain ⟨⟨pairs, skipped⟩, s₁, hread⟩ := exists_run_readPages found s
  exact ⟨_, _, run_scan_eq_ok.mpr ⟨found, pairs, skipped, s₁, hfound, hread, rfl, rfl⟩⟩

/-- The first stage of a run: the baseline and the pages are read and merged. -/
def prepare (paths : GeneratePaths) (suffix : Text) (isPlaceholder : PlaceholderTest) :
    Run (Scan × MergedCorpus) := do
  Run.report (.runStart paths.baseline paths.pages paths.output suffix)
  let baselines ← Run.ask (·.readBaseline paths.baseline)
  Run.report (.baselineLoaded paths.baseline baselines.length)
  let found ← scan paths.pages suffix
  let corpus ← merge isPlaceholder baselines found.pages
  pure (found, corpus)

/-- The second stage of a run: the corpus is written and counted. -/
def conclude (output : Path) (found : Scan) (corpus : MergedCorpus) : Run Report.RunSummary := do
  writeCorpus output corpus.records
  Run.report (.outputWritten output corpus.records.length)
  let (withSyntax, withExample) := coverage corpus.records
  pure
    { output := output.toText
      total := corpus.records.length
      enhanced := corpus.enhanced
      fallback := corpus.fallback
      withSyntax
      withExample
      skipped := found.skipped }

/-- The summary of a run that wrote a merged corpus. -/
def summarize (output : Path) (corpus : MergedCorpus) (skipped : List Text) :
    Report.RunSummary where
  output := output.toText
  total := corpus.records.length
  enhanced := corpus.enhanced
  fallback := corpus.fallback
  withSyntax := (coverage corpus.records).1
  withExample := (coverage corpus.records).2
  skipped := skipped

/-- The second stage ends well when the corpus is written, and sums up what is in it. -/
theorem run_conclude_eq_ok {output : Path} {found : Scan} {corpus : MergedCorpus}
    {summary : Report.RunSummary} :
    (conclude output found corpus).run.run s = (.ok summary, s') ↔
      ∃ s₁, (writeCorpus output corpus.records).run.run s = (.ok (), s₁) ∧
        s' = s₁.note (.outputWritten output corpus.records.length) ∧
        summary = summarize output corpus found.skipped := by
  simp only [conclude, Run.run_bind_eq_ok, Run.run_report_eq_ok, Run.run_pure_eq_ok]
  constructor
  · intro h
    obtain ⟨_, s₁, hwrite, _, _, rfl, rfl, rfl⟩ := h
    exact ⟨s₁, hwrite, rfl, rfl⟩
  · intro h
    obtain ⟨s₁, hwrite, rfl, rfl⟩ := h
    exact ⟨(), s₁, hwrite, (), _, rfl, rfl, rfl⟩

/-- The second stage breaks off when the corpus is not written: after that nothing can fail. -/
theorem run_conclude_eq_error {output : Path} {found : Scan} {corpus : MergedCorpus}
    {failure : Failure} :
    (conclude output found corpus).run.run s = (.error failure, s') ↔
      (writeCorpus output corpus.records).run.run s = (.error failure, s') := by
  simp only [conclude, Run.run_bind_eq_error, Run.run_report_ne_error, Run.run_pure_ne_error,
    and_false, exists_false, or_false]

/-- A run is its two stages. -/
theorem run_eq_bind (paths : GeneratePaths) (suffix : Text) (isPlaceholder : PlaceholderTest) :
    run paths suffix isPlaceholder = prepare paths suffix isPlaceholder >>= fun prepared =>
      conclude paths.output prepared.1 prepared.2 := by
  simp only [run, prepare, conclude, bind_assoc, pure_bind]

/-- The first stage does nothing but note events. -/
theorem onlyNotes_prepare (paths : GeneratePaths) (suffix : Text)
    (isPlaceholder : PlaceholderTest) : (prepare paths suffix isPlaceholder).OnlyNotes :=
  (Run.onlyNotes_report _).bind fun _ => (Run.onlyNotes_ask _).bind fun _ =>
    (Run.onlyNotes_report _).bind fun _ => (onlyNotes_scan _ _).bind fun _ =>
      ((Run.onlyNotes_report _).bind fun _ => Run.onlyNotes_pure _).bind fun _ =>
        Run.onlyNotes_pure _

/-- What the first stage gives: the baseline merged with the pages that were found. -/
theorem run_prepare_eq_ok {found : Scan} {corpus : MergedCorpus}
    (h : (prepare paths suffix isPlaceholder).run.run s = (.ok (found, corpus), s'))
    (hlog : s.logPlace? ≠ some (s.files.placeOf paths.baseline)) :
    ∃ baselines s₁ s₂, s.files.readBaseline paths.baseline = .ok baselines ∧ OnlyNoted s s₁ ∧
      (scan paths.pages suffix).run.run s₁ = (.ok found, s₂) ∧
      corpus = mergeCorpus isPlaceholder baselines found.pages := by
  simp only [prepare, merge, Run.run_bind_eq_ok, Run.run_ask_eq_ok, Run.run_report_eq_ok,
    Run.run_pure_eq_ok] at h
  obtain ⟨_, _, hstart, baselines, s₀, ⟨hbaselines, rfl⟩, _, s₁, hloaded, _, s₂, hscan, _, _,
    ⟨_, _, -, rfl, rfl⟩, hpair, rfl⟩ := h
  cases hpair
  have hbefore : OnlyNoted s s₀ := hstart ▸ onlyNoted_note s _
  have hread := FileSystem.readBaseline_of_kept
    (fun content => (hbefore.sameContent hlog content).mp) hbaselines
  exact ⟨baselines, s₁, s₂, hread,
    hbefore.trans (hloaded ▸ onlyNoted_note s₀ _), hscan, rfl⟩

/-- A run ends well when both stages do. -/
theorem run_eq_ok {summary : Report.RunSummary}
    (h : (run paths suffix isPlaceholder).run.run s = (.ok summary, s')) :
    ∃ found corpus s₁ s₂,
      (prepare paths suffix isPlaceholder).run.run s = (.ok (found, corpus), s₁) ∧
      (writeCorpus paths.output corpus.records).run.run s₁ = (.ok (), s₂) ∧ OnlyNoted s₂ s' := by
  rw [run_eq_bind, Run.run_bind_eq_ok] at h
  obtain ⟨⟨found, corpus⟩, s₁, hprepare, h⟩ := h
  obtain ⟨s₂, hwrite, rfl, -⟩ := run_conclude_eq_ok.mp h
  exact ⟨found, corpus, s₁, s₂, hprepare, hwrite, onlyNoted_note s₂ _⟩

/-- A run that breaks off does so before it writes, or in writing. -/
theorem run_eq_error {failure : Failure}
    (h : (run paths suffix isPlaceholder).run.run s = (.error failure, s')) :
    OnlyNoted s s' ∨ ∃ found corpus s₁,
      (prepare paths suffix isPlaceholder).run.run s = (.ok (found, corpus), s₁) ∧
      (writeCorpus paths.output corpus.records).run.run s₁ = (.error failure, s') := by
  rw [run_eq_bind, Run.run_bind_eq_error] at h
  rcases h with hprepare | ⟨⟨found, corpus⟩, s₁, hprepare, h⟩
  · exact Or.inl ((onlyNotes_prepare _ _ _).onlyNoted hprepare)
  · exact Or.inr ⟨found, corpus, s₁, hprepare, run_conclude_eq_error.mp h⟩

end Generate

end CommandDocs
