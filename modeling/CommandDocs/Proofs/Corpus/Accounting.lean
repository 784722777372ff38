import CommandDocs.Proofs.Corpus.Regeneration
import CommandDocs.Proofs.Corpus.Scanning

/-!
# What a run counts

The counts in the summary of a run come from two passes: commands with and without a page are
counted while they are merged, forms and examples in the merged records. They agree with each
other, with the pages and with the objects in the file that was written: a command without a
page gets one form and no example, and any other has those of its page.
-/

namespace CommandDocs

/-- The value of a member of an object. -/
def Json.member? (name : Text) : Json → Option Json
  | .object members => Entries.find? name members
  | _ => none

/-- The object lists forms: its syntax is an array that is not empty. -/
def Json.listsForms (item : Json) : Bool :=
  match item.member? "syntax" with
  | some (.array forms) => !forms.isEmpty
  | _ => false

/-- The object has an example: a text that is not empty. -/
def Json.hasExample (item : Json) : Bool :=
  match item.member? "example" with
  | some (.text code) => !code.isEmpty
  | _ => false

/-! ### Records and their objects -/

namespace MergedRecord

variable {r : MergedRecord}

/-- The object of a record has its own members. -/
theorem member?_toJson {name : Text} {value : Json} (h : r.ownMembers.find? name = some value) :
    r.toJson.member? name = some value := find?_of_ownMembers h

/-- The object of a record lists forms if the record does. -/
theorem listsForms_toJson (r : MergedRecord) : r.toJson.listsForms = !r.rows.isEmpty := by
  have hfind : r.ownMembers.find? ("syntax" : Text) =
      some (.array (r.rows.map SyntaxRow.toJson)) := by
    rw [ownMembers, BaselineRecord.declaredMembers]
    cases r.category <;> rfl
  rw [Json.listsForms, member?_toJson hfind]
  dsimp only
  rw [List.isEmpty_map]

/-- The object of a record has an example if the record does. -/
theorem hasExample_toJson (r : MergedRecord) : r.toJson.hasExample = !r.exampleCode.isEmpty := by
  have hfind : r.ownMembers.find? ("example" : Text) = some (.text r.exampleCode) := by
    rw [ownMembers, BaselineRecord.declaredMembers]
    cases r.category <;> rfl
  rw [Json.hasExample, member?_toJson hfind]

/-- The objects that are written for records list as many forms and examples as the records. -/
theorem coverage_eq_countP (records : List MergedRecord) :
    coverage records = ((records.map fun r => r.finitePart.toJson).countP Json.listsForms,
      (records.map fun r => r.finitePart.toJson).countP Json.hasExample) := by
  rw [coverage, List.countP_map, List.countP_map]
  simp only [Function.comp_def, listsForms_toJson, hasExample_toJson]
  rfl

end MergedRecord

/-! ### Commands with and without a page -/

section Counting

variable {α β : Type}

/-- What is missing and what is there and meets a condition are counted apart. -/
theorem countP_isNone_or_any (found : α → Option β) (holds : β → Bool) (xs : List α) :
    xs.countP (fun x => (found x).isNone || (found x).any holds) =
      xs.countP (fun x => (found x).isNone) + xs.countP fun x => (found x).any holds := by
  induction xs with
  | nil => rfl
  | cons x xs ih =>
    rw [List.countP_cons, List.countP_cons, List.countP_cons, ih]
    cases found x with
    | none =>
      simp only [Option.isNone_none, Option.any_none, Bool.or_false, if_true, Bool.false_eq_true,
        if_false]
      omega
    | some y =>
      simp only [Option.isNone_some, Option.any_some, Bool.false_or, Bool.false_eq_true, if_false]
      omega

/-- Everything is missing or there. -/
theorem length_eq_countP_isSome_add (found : α → Option β) (xs : List α) :
    xs.length = xs.countP (fun x => (found x).isSome) + xs.countP fun x => (found x).isNone := by
  rw [xs.length_eq_countP_add_countP fun x => (found x).isSome]
  refine congrArg (_ + ·) (List.countP_congr fun x _ => ?_)
  cases found x <;> simp

/-- What meets a condition is there. -/
theorem countP_any_le_countP_isSome (found : α → Option β) (holds : β → Bool) (xs : List α) :
    xs.countP (fun x => (found x).any holds) ≤ xs.countP fun x => (found x).isSome := by
  refine List.countP_mono_left fun x _ h => ?_
  cases hfound : found x with
  | none =>
    rw [hfound] at h
    cases h
  | some y => rfl

end Counting

section Merged

variable (isPlaceholder : PlaceholderTest) (baselines : List BaselineRecord)
  (pages : Entries Text Page.Extraction)

/-- Of the merged records those list forms that have no page or a page with forms. -/
theorem withSyntax_mergeCorpus :
    (coverage (mergeCorpus isPlaceholder baselines pages).records).1 =
      (mergeCorpus isPlaceholder baselines pages).fallback +
        baselines.countP fun b => (pages.find? b.name).any fun page => !page.rows.isEmpty := by
  have hforms (b : BaselineRecord) : (!(b.merge isPlaceholder (pages.find? b.name)).rows.isEmpty) =
      ((pages.find? b.name).isNone || (pages.find? b.name).any fun page => !page.rows.isEmpty) := by
    cases pages.find? b.name <;> rfl
  simp only [coverage, mergeCorpus, List.countP_map, Function.comp_def, hforms]
  exact countP_isNone_or_any _ _ _

/-- Of the merged records those have an example that have a page with one. -/
theorem withExample_mergeCorpus :
    (coverage (mergeCorpus isPlaceholder baselines pages).records).2 =
      baselines.countP fun b => (pages.find? b.name).any fun page => !page.exampleCode.isEmpty := by
  have hexample (b : BaselineRecord) :
      (!(b.merge isPlaceholder (pages.find? b.name)).exampleCode.isEmpty) =
        (pages.find? b.name).any fun page => !page.exampleCode.isEmpty := by
    cases pages.find? b.name <;> rfl
  simp only [coverage, mergeCorpus, List.countP_map, Function.comp_def, hexample]

end Merged

namespace Generate

open RunState

variable {s s' : RunState} {paths : GeneratePaths} {suffix : Text}
  {isPlaceholder : PlaceholderTest}

/-- Pages that are listed after events were noted could be listed before. -/
theorem exists_listPages_of_onlyNoted {s₁ : RunState} (hlog : s.LogsAside paths suffix)
    (hnoted : OnlyNoted s s₁) (hlist : ∃ found, s₁.files.listPages paths.pages suffix = .ok found) :
    ∃ found, s.files.listPages paths.pages suffix = .ok found := by
  refine hnoted.files.symm.exists_listPages (fun name => ?_) (fun name => ?_) hlist
  · rw [hnoted.files.placeOf_eq]
    exact hlog.pages name
  · rw [hnoted.files.placeOf_eq]
    exact hlog.entries name

/-- What a run that ends well has merged, counted and written. -/
theorem summary_of_run {summary : Report.RunSummary}
    (hrun : (run paths suffix isPlaceholder).run.run s = (.ok summary, s'))
    (hlog : s.LogsAside paths suffix) :
    ∃ baselines listed pages, s.files.readBaseline paths.baseline = .ok baselines ∧
      s.files.listPages paths.pages suffix = .ok listed ∧
      (∀ name, Entries.find? name pages = s.files.pageNamed? paths.pages suffix name) ∧
      (∃ skipped, summary =
        summarize paths.output (mergeCorpus isPlaceholder baselines pages) skipped) ∧
      s'.files.readItems .commandData paths.output =
        .ok ((mergeCorpus isPlaceholder baselines pages).records.map fun r =>
          r.finitePart.toJson) := by
  rw [run_eq_bind, Run.run_bind_eq_ok] at hrun
  obtain ⟨⟨scanned, corpus⟩, s₂, hprepare, hconclude⟩ := hrun
  obtain ⟨s₃, hwrite, rfl, hsummary⟩ := run_conclude_eq_ok.mp hconclude
  have hprepared : OnlyNoted s s₂ := (onlyNotes_prepare _ _ _).onlyNoted hprepare
  obtain ⟨baselines, s₁, s₁', hbaselines, hstarted, hscan, hcorpus⟩ :=
    run_prepare_eq_ok hprepare hlog.baseline
  dsimp only at hwrite hsummary
  subst hcorpus
  obtain ⟨text, bytes, htext, hencode, hfile⟩ :=
    output_of_run_writeCorpus hwrite (onlyNoted_note s₃ _) (hprepared.apart hlog.output)
  obtain ⟨-, hfind⟩ := run_scan hscan fun name => hstarted.apart (hlog.pages name)
  obtain ⟨found, _, _, _, hfound, -⟩ := run_scan_eq_ok.mp hscan
  obtain ⟨listed, hlisted⟩ := exists_listPages_of_onlyNoted hlog hstarted ⟨found, hfound⟩
  refine ⟨baselines, listed, scanned.pages, hbaselines, hlisted, fun name => ?_,
    ⟨scanned.skipped, hsummary⟩, ?_⟩
  · rw [hfind, hstarted.files.pageNamed? (hlog.pages name) (hlog.entries name)]
  · exact readItems_of_corpusText hfile htext hencode
      (isProper_mergeCorpus hbaselines isPlaceholder _) _

/-- The counts of a run that ends well agree with the baseline, with the pages and with the
objects in its output. A log, if there is one, is none of the files of the run. -/
theorem counts_of_run {summary : Report.RunSummary}
    (hrun : (run paths suffix isPlaceholder).run.run s = (.ok summary, s'))
    (hlog : s.LogsAside paths suffix) :
    ∃ (baselines : List BaselineRecord) (listed : List Path)
      (page : Text → Option Page.Extraction) (items : List Json),
      s.files.readBaseline paths.baseline = .ok baselines ∧
      s.files.listPages paths.pages suffix = .ok listed ∧
      (∀ name said, page name = some said ↔
        ∃ p ∈ listed, p.stem = name ∧ s.files.pageAt? p = some said) ∧
      s'.files.readItems .commandData paths.output = .ok items ∧
      summary.total = summary.enhanced + summary.fallback ∧
      summary.total = baselines.length ∧
      summary.enhanced = baselines.countP (fun b => (page b.name).isSome) ∧
      summary.withSyntax = summary.fallback +
        baselines.countP (fun b => (page b.name).any fun said => !said.rows.isEmpty) ∧
      summary.withExample =
        baselines.countP (fun b => (page b.name).any fun said => !said.exampleCode.isEmpty) ∧
      summary.withExample ≤ summary.enhanced ∧
      summary.withSyntax = items.countP Json.listsForms ∧
      summary.withExample = items.countP Json.hasExample := by
  obtain ⟨baselines, listed, pages, hbaselines, hlisted, hfind, ⟨skipped, rfl⟩, hitems⟩ :=
    summary_of_run hrun hlog
  have hpage : ∀ name said, pages.find? name = some said ↔
      ∃ p ∈ listed, p.stem = name ∧ s.files.pageAt? p = some said := by
    intro name said
    rw [hfind, FileSystem.pageNamed?_eq_some hlisted]
  have hexamples := withExample_mergeCorpus isPlaceholder baselines pages
  refine ⟨baselines, listed, pages.find?, _, hbaselines, hlisted, hpage, hitems, ?_, ?_, rfl, ?_,
    ?_, ?_, ?_, ?_⟩
  all_goals dsimp only [summarize]
  · rw [mergeCorpus, List.length_map]
    exact_mod_cast length_eq_countP_isSome_add (fun b : BaselineRecord => pages.find? b.name) _
  · rw [mergeCorpus, List.length_map]
  · exact_mod_cast withSyntax_mergeCorpus isPlaceholder baselines pages
  · exact_mod_cast hexamples
  · rw [hexamples]
    exact_mod_cast countP_any_le_countP_isSome _ _ _
  · rw [MergedRecord.coverage_eq_countP]
  · rw [MergedRecord.coverage_eq_countP]

/-- A baseline in which one command stands twice and has a page with an example, and another one
has a page that is not decoded. -/
def countedFiles : FileSystem where
  nodes := [
    (["base.json"], .file ((Text.ofString
      ("[\x7b\"name\":\"a\",\"description\":\"\",\"usage\":\"\"\x7d," ++
        "\x7b\"name\":\"a\",\"description\":\"\",\"usage\":\"\"\x7d," ++
        "\x7b\"name\":\"b\",\"description\":\"\",\"usage\":\"\"\x7d]")).flatMap Utf8.bytesOf)),
    (["docs"], .directory),
    (["docs", "a.md"], .file ((Text.ofString "**Example**\n```\n1\n```").flatMap Utf8.bytesOf)),
    (["docs", "b.md"], .file [0xFF]),
    (["out.json"], .file [])]
  workingDirectory := []

/-- The state before a run on these files, without a log. -/
def countedState : RunState := { files := countedFiles, clock := .epoch }

/-- An entry of this baseline. -/
def countedEntry (name : Text) : BaselineRecord := { name, description := [], usage := [] }

/-- What the page with an example says. -/
def countedPage : Page.Extraction := { exampleCode := "1", body := "**Example**\n```\n1\n```" }

set_option maxRecDepth 4000 in
/-- The baseline is read. -/
theorem readBaseline_countedFiles : countedFiles.readBaseline samplePaths.baseline =
    .ok [countedEntry "a", countedEntry "a", countedEntry "b"] := rfl

/-- Both pages are listed. -/
theorem listPages_countedFiles : countedFiles.listPages samplePaths.pages defaultSuffix =
    .ok [⟨.relative, ["docs", "a.md"]⟩, ⟨.relative, ["docs", "b.md"]⟩] :=
  FileSystem.listPages_eq_ok.mpr ⟨⟨_, rfl⟩, _, rfl, (List.mergeSort_of_pairwise (by decide)).symm⟩

set_option maxRecDepth 4000 in
/-- The merged records have a text and the text has bytes. -/
theorem corpusText_countedFiles : ∃ text bytes,
    corpusText (countedFiles.mergedRecords samplePaths.pages defaultSuffix
      (placeholderTest defaultPlaceholder)
      [countedEntry "a", countedEntry "a", countedEntry "b"]) = .ok text ∧
    Utf8.encode text = .ok bytes := ⟨_, _, rfl, rfl⟩

/-- The first page says something, and the second one does not. -/
theorem pages_countedFiles {page : Text → Option Page.Extraction}
    (hpage : ∀ name said, page name = some said ↔
      ∃ p ∈ [(⟨.relative, ["docs", "a.md"]⟩ : Path), ⟨.relative, ["docs", "b.md"]⟩],
        p.stem = name ∧ countedFiles.pageAt? p = some said) :
    page "a" = some countedPage ∧ page "b" = none := by
  constructor
  · exact (hpage _ _).mpr ⟨⟨.relative, ["docs", "a.md"]⟩, List.mem_cons_self .., rfl, rfl⟩
  · refine Option.eq_none_iff_forall_ne_some.mpr fun said hsaid => ?_
    obtain ⟨p, hp, hstem, hpageAt⟩ := (hpage _ _).mp hsaid
    rcases List.mem_cons.mp hp with rfl | hp
    · exact absurd hstem (by decide)
    · rw [List.mem_singleton.mp hp] at hpageAt
      cases hpageAt

/-- Of three entries two are enhanced by the same page and have its example; the third one
falls back to one form. -/
theorem counts_countedState : ∃ summary s',
    (run samplePaths defaultSuffix (placeholderTest defaultPlaceholder)).run.run countedState =
      (.ok summary, s') ∧
    summary.total = 3 ∧ summary.enhanced = 2 ∧ summary.withSyntax = 1 ∧
    summary.withExample = 2 := by
  have hlog : countedState.LogsAside samplePaths defaultSuffix := logsAside_of_none rfl
  have hfile : countedState.files.readFile samplePaths.output = .ok [] := rfl
  have hopen := canWrite_of_readFile hfile (by decide) hlog.output
  obtain ⟨text, bytes, htext, hencode⟩ := corpusText_countedFiles
  obtain ⟨summary, s', hrun, -⟩ := exists_run hlog readBaseline_countedFiles
    ⟨_, listPages_countedFiles⟩ hopen htext hencode
  obtain ⟨baselines, listed, page, items, hbaselines, hlisted, hpage, -, htotal, hlength, henhanced,
    hsyntax, hexample, -⟩ := counts_of_run hrun hlog
  cases hbaselines.symm.trans readBaseline_countedFiles
  cases hlisted.symm.trans listPages_countedFiles
  obtain ⟨ha, hb⟩ := pages_countedFiles hpage
  have hname (name : Text) : (countedEntry name).name = name := rfl
  simp only [List.countP_cons, List.countP_nil, hname, ha, hb] at henhanced hsyntax hexample
  have htwo : summary.enhanced = 2 := henhanced
  have hthree : summary.total = 3 := hlength
  have hone : summary.fallback = 1 := by omega
  rw [hone] at hsyntax
  exact ⟨summary, s', hrun, hthree, htwo, hsyntax, hexample⟩

end Generate

end CommandDocs
