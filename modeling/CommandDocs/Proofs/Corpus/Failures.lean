import CommandDocs.Proofs.Corpus.FailedRun
import CommandDocs.Proofs.Corpus.Fallback
import CommandDocs.Proofs.Corpus.Trace
import CommandDocs.Proofs.File.Lengths
import CommandDocs.Proofs.Json.Behind

/-!
# Failures of a run

A run on a baseline that the readers and writers of JSON go through breaks off with a failure that
is reported, with two exceptions. The path to a page may be too long, and the output may have a
path that cannot be told to the system. Text behind a JSON baseline does no harm: the baseline is no
JSON any more, and that is reported.
-/

namespace CommandDocs

namespace FileSystem

variable {fs : FileSystem} {p directory output : Path} {suffix : Text} {content : Bytes}

/-! ### Baselines -/

/-- Bytes of ordinary JSON: a text without surrogates behind its escapes, with integers that are
converted, and nested no deeper than readers and writers go. -/
def IsOrdinary (content : Bytes) : Prop :=
  ∃ text value, Utf8.decode content = .ok text ∧ Json.read text.unifyNewlines = .ok value ∧
    value.Everywhere Json.HasUnicode ∧ Json.NestedWithin (Json.writableDepth + 2) value

/-- A baseline at which the reader of JSON does not break off, and whose items can be written. -/
structure IsTame (fs : FileSystem) (p : Path) : Prop where
  /-- The reader tells whether the text is JSON. -/
  within : ¬fs.ExceedsBounds p
  /-- Items have no surrogates and are nested no deeper than the writer goes. -/
  items : ∀ items, fs.readItems .baseline p = .ok items → ∀ item ∈ items,
    item.Everywhere Json.HasUnicode ∧ Json.NestedWithin (Json.writableDepth + 1) item

/-- A baseline whose text is ordinary JSON is tame. -/
theorem isTame_of_isOrdinary (hread : fs.readFile p = .ok content) (h : IsOrdinary content) :
    fs.IsTame p := by
  obtain ⟨text, value, hdecode, hvalue, htexts, hdepth⟩ := h
  have htext : fs.readText p = .ok text.unifyNewlines :=
    readText_eq_ok.mpr ⟨content, text, hread, hdecode, rfl⟩
  constructor
  · rintro ⟨text', e, htext', herror, -⟩
    rw [htext, Except.ok.injEq] at htext'
    rw [← htext', hvalue] at herror
    cases herror
  · intro items hitems item hitem
    obtain ⟨text', htext', hread'⟩ := readItems_eq_ok.mp hitems
    rw [htext, Except.ok.injEq] at htext'
    rw [← htext', hvalue, Except.ok.injEq] at hread'
    rw [hread'] at htexts hdepth
    exact ⟨(Json.everywhere_array.mp htexts).2 item hitem, hdepth item hitem⟩

/-- A baseline whose text was ordinary JSON is tame when foreign text stands behind it. -/
theorem isTame_of_append {tail : Text} (hread : fs.readFile p =
    .ok (content ++ tail.flatMap Utf8.bytesOf)) (h : IsOrdinary content) (htail : tail.IsUnicode)
    (hforeign : Json.IsForeign tail) : fs.IsTame p := by
  obtain ⟨text, value, hdecode, hvalue, -⟩ := h
  obtain ⟨more, rfl⟩ := hforeign
  have htext : fs.readText p =
      .ok (text.unifyNewlines ++ Text.unifyNewlines (.scalar '=' :: more)) := by
    rw [← Text.unifyNewlines_append (by decide)]
    exact readText_eq_ok.mpr ⟨_, _, hread, Utf8.decodeFrom_append htail hdecode, rfl⟩
  have hforeign : Json.IsForeign (Text.unifyNewlines (.scalar '=' :: more)) := ⟨_, rfl⟩
  have hnone := Json.read_append_foreign hforeign hvalue
  constructor
  · rintro ⟨text', e, htext', herror, hne⟩
    rw [htext, Except.ok.injEq] at htext'
    rw [← htext', hnone, Except.error.injEq] at herror
    exact hne herror.symm
  · intro items hitems
    obtain ⟨text', htext', hread'⟩ := readItems_eq_ok.mp hitems
    rw [htext, Except.ok.injEq] at htext'
    rw [← htext', hnone] at hread'
    cases hread'

/-- A tame baseline that is not read is reported. -/
theorem IsTame.isReported (h : fs.IsTame p) (hnul : ¬HasNul p) {failure : Failure}
    (hread : fs.readBaseline p = .error failure) : failure.isReported = true := by
  have houtcome : ReadOutcome fs .baseline p (fs.readBaseline p) := readOutcome_readBaseline hnul
  rw [hread] at houtcome
  cases houtcome with
  | unfit fault => rfl
  | brokenOff e he beyond _ => exact absurd beyond h.within

/-! ### Pages -/

/-- One of the paths is too long when files are not found among them. -/
theorem exists_of_filesAmong_error {paths : List Path} {e : FileError}
    (h : fs.filesAmong paths = .error e) : ∃ q ∈ paths, fs.isFile q = .error e := by
  induction paths with
  | nil => cases h
  | cons first rest ih =>
    rw [filesAmong, bind_eq_error] at h
    rcases h with hfirst | ⟨answer, -, h⟩
    · exact ⟨first, List.mem_cons_self, hfirst⟩
    · rw [bind_eq_error] at h
      rcases h with hrest | ⟨files, -, h⟩
      · obtain ⟨q, hq, hfile⟩ := ih hrest
        exact ⟨q, List.mem_cons_of_mem _ hq, hfile⟩
      · cases h

/-- The pages of a directory that is there are listed unless the path to one of them is too long. -/
theorem exists_of_listPages_error
    (hdirectory : ∃ place, fs.locate directory = .ok (.present place .directory))
    {failure : Failure} (h : fs.listPages directory suffix = .error failure) :
    ∃ name ∈ fs.childNames (fs.placeOf directory), (Path.splitName name).2 = suffix ∧
      fs.IsTooLong (directory.child name) ∧
      failure = .file ⟨.nameTooLong, directory.child name⟩ := by
  have hlist := listDirectory_eq_ok.mpr ⟨hdirectory, rfl⟩
  rw [listPages, hlist, bind_eq_error] at h
  rcases h with h | ⟨entries, hentries, h⟩
  · cases h
  cases hentries
  rw [bind_eq_error] at h
  rcases h with h | ⟨files, -, h⟩
  · obtain ⟨e, hfiles, rfl⟩ := mapError_eq_error.mp h
    obtain ⟨q, hq, hfile⟩ := exists_of_filesAmong_error hfiles
    obtain ⟨hentry, hsuffix⟩ := List.mem_filter.mp hq
    obtain ⟨name, hname, rfl⟩ := List.mem_map.mp hentry
    obtain ⟨rfl, hlong⟩ := nodeAt?_eq_error.mp (map_eq_error.mp hfile)
    refine ⟨name, hname, ?_, hlong, rfl⟩
    rw [← beq_iff_eq.mp hsuffix, Path.suffix, Path.name_child]
  · cases h

/-! ### The output -/

/-- A directory that is not made can be told to the system if its path can. -/
theorem fault_ne_nul_of_ensureDirectory (hnul : ¬HasNul p) {e : FileError}
    (h : fs.ensureDirectory p = .error e) : e.fault ≠ .nul := by
  rw [ensureDirectory] at h
  cases hmake : fs.makeDirectory p with
  | ok made =>
    rw [hmake] at h
    cases h
  | error e' =>
    have hmade : e'.fault ≠ .nul := by
      rw [makeDirectory, bind_eq_error] at hmake
      rcases hmake with hlocate | ⟨target, -, htarget⟩
      · exact fault_ne_nul hnul hlocate
      · cases target <;> cases htarget
        simp
    rw [hmake] at h
    dsimp only at h
    split at h
    · cases h
    · cases h
      exact hmade
    · rename_i hdirectory
      cases h
      obtain ⟨rfl, -⟩ := nodeAt?_eq_error.mp (map_eq_error.mp hdirectory)
      simp

/-- So can the first directory on the way that is not made. -/
theorem fault_ne_nul_of_ensureDirectories (hnul : ¬HasNul p) {e : FileError}
    (h : (fs.ensureDirectories p).1 = .error e) : e.fault ≠ .nul := by
  have hmakes := makes_ensureDirectories fs p
  generalize (fs.ensureDirectories p).1 = outcome, (fs.ensureDirectories p).2 = result at h hmakes
  induction hmakes with
  | made _ => cases h
  | blocked hfault =>
    cases h
    exact fault_ne_nul_of_ensureDirectory hnul hfault
  | blockedAbove _ _ ih => exact ih (fun hparent => hnul hparent.of_parent) h
  | madeBelow _ _ _ => cases h
  | blockedBelow _ hfault _ =>
    cases h
    exact fault_ne_nul_of_ensureDirectory hnul hfault

/-- A file that is not updated can be told to the system if its path can. -/
theorem fault_ne_nul_of_updateFile (hnul : ¬HasNul p) {change : Bytes → Bytes} {e : FileError}
    (h : fs.updateFile p change = .error e) : e.fault ≠ .nul := by
  rw [updateFile, bind_eq_error] at h
  rcases h with hlocate | ⟨target, -, htarget⟩
  · exact fault_ne_nul hnul hlocate
  · rcases target with ⟨place, content | -⟩ | place
    · cases htarget
    · cases htarget
      simp
    · cases htarget

end FileSystem

namespace Generate

open FileSystem RunState

variable {s s' : RunState} {paths : GeneratePaths} {output : Path} {suffix : Text}
  {isPlaceholder : PlaceholderTest} {records : List MergedRecord} {failure : Failure}

/-- Writing a corpus that has a text and bytes breaks off with a report, unless the path of the
output cannot be told to the system. -/
theorem failure_of_run_writeCorpus {text : Text} {bytes : Bytes}
    (htext : corpusText records = .ok text) (hencode : Utf8.encode text = .ok bytes)
    (h : (writeCorpus output records).run.run s = (.error failure, s')) :
    failure.isReported = true ∨ HasNul output ∧ ∃ e, failure = .file e := by
  have hreport {e : FileError} (hnul : ¬HasNul output → e.fault ≠ .nul) :
      (Failure.ofFile (fun _ => .output output) e).isReported = true ∨
        HasNul output ∧ ∃ e', Failure.ofFile (fun _ => .output output) e = .file e' := by
    rw [Failure.ofFile]
    by_cases hfault : e.fault = .nul
    · rw [if_pos hfault]
      exact Or.inr ⟨by_contra fun h => hnul h hfault, e, rfl⟩
    · rw [if_neg hfault]
      exact Or.inl rfl
  obtain ⟨payloads, hpayloads, htext'⟩ := corpusText_eq_ok_iff.mp htext
  cases run_writeCorpus_eq_error.mp h with
  | noPayload hnone =>
    rw [hpayloads] at hnone
    cases hnone
  | noDirectory _ hdirectories =>
    exact hreport fun hnul =>
      fault_ne_nul_of_ensureDirectories (fun hparent => hnul hparent.of_parent) hdirectories
  | noText hpayloads' _ hnone =>
    rw [hpayloads, Except.ok.injEq] at hpayloads'
    rw [← hpayloads', htext'] at hnone
    cases hnone
  | notOpened _ _ hopen => exact hreport fun hnul => fault_ne_nul_of_updateFile hnul hopen
  | noBytes htext' hnone =>
    rw [htext, Except.ok.injEq] at htext'
    rw [← htext', hencode] at hnone
    cases hnone

/-- Further members that the writer goes through are accepted with their documentation. -/
theorem checkWritable_merge {item : Json} {b : BaselineRecord}
    (hread : BaselineRecord.ofJson item = .ok b) (htexts : item.Everywhere Json.HasUnicode)
    (hdepth : Json.NestedWithin (Json.writableDepth + 1) item) (page : Option Page.Extraction) :
    Json.checkWritableMembers Json.writableDepth (b.merge isPlaceholder page).extras = .ok () := by
  obtain ⟨members, rfl, -⟩ := BaselineRecord.ofJson_eq_ok.mp hread
  rw [Json.everywhere_object] at htexts
  rw [BaselineRecord.extras_merge_of_ofJson hread]
  refine Json.checkWritableMembers_eq_ok.mpr fun member hmember => ?_
  have horiginal := (List.mem_filter.mp hmember).1
  exact ⟨htexts.1 member horiginal, Json.checkWritable_of_nestedWithin
    (hdepth member horiginal) (htexts.2 member horiginal)⟩

/-- A tame baseline merged with pages has a text, and the text has bytes. -/
theorem encode_of_isTame {fs : FileSystem} {p : Path} (h : fs.IsTame p)
    {baselines : List BaselineRecord} (hread : fs.readBaseline p = .ok baselines)
    {pages : Entries Text Page.Extraction} (hpages : ∀ entry ∈ pages, entry.2.IsUnicode)
    (isPlaceholder : PlaceholderTest) : ∃ text bytes,
      corpusText (mergeCorpus isPlaceholder baselines pages).records = .ok text ∧
        Utf8.encode text = .ok bytes := by
  obtain ⟨items, hitems, hrecords⟩ := readBaseline_eq_ok.mp hread
  have hchecks : ∀ r ∈ (mergeCorpus isPlaceholder baselines pages).records,
      Json.checkWritableMembers Json.writableDepth r.extras = .ok () := by
    intro r hr
    obtain ⟨b, hb, rfl⟩ := List.mem_map.mp hr
    obtain ⟨item, hitem, hjson⟩ := exists_item_of_mem_baselines hrecords hb
    obtain ⟨htexts, hdepth⟩ := h.items items hitems item hitem
    exact checkWritable_merge hjson htexts hdepth _
  have hshort := (Json.everywhere_asRead.mp
    (asRead_collection (isProper_mergeCorpus hread isPlaceholder pages))).2
  have htext := corpusText_eq_ok.mpr ⟨rfl, hchecks, hshort⟩
  have htexts := fun item hitem => (h.items items hitems item hitem).1
  have hunicode := isUnicode_of_mergeCorpus hrecords htexts hpages htext
  exact ⟨_, _, htext, Utf8.encode_of_isUnicode hunicode⟩

/-- A run on a tame baseline and a directory that is there breaks off with a report. There are two
exceptions: the path to a page is too long, or that of the output cannot be told to the system. -/
theorem failure_of_run (htame : (begun paths suffix s).files.IsTame paths.baseline)
    (hnul : ¬HasNul paths.baseline)
    (hdirectory : ∀ entries, ∃ place, (loaded paths suffix s entries).files.locate paths.pages =
      .ok (.present place .directory))
    (h : (run paths suffix isPlaceholder).run.run s = (.error failure, s')) :
    failure.isReported = true ∨ (HasNul paths.output ∧ ∃ e, failure = .file e) ∨
      ∃ entries name, name ∈ (loaded paths suffix s entries).files.childNames
          ((loaded paths suffix s entries).files.placeOf paths.pages) ∧
        (Path.splitName name).2 = suffix ∧
        (loaded paths suffix s entries).files.IsTooLong (paths.pages.child name) ∧
        failure = .file ⟨.nameTooLong, paths.pages.child name⟩ := by
  rw [run_eq_bind, Run.run_bind_eq_error] at h
  rcases h with hprepare | ⟨⟨found, corpus⟩, s₁, hprepare, h⟩
  · cases prepared_of_run hprepare with
    | noBaseline hbaselines => exact Or.inl (htame.isReported hnul hbaselines)
    | @noPages baselines _ hbaselines hlist =>
      obtain ⟨name, hname, hsuffix, hlong, hfailure⟩ :=
        exists_of_listPages_error (hdirectory _) hlist
      exact Or.inr (Or.inr ⟨_, name, hname, hsuffix, hlong, hfailure⟩)
  · cases prepared_of_run hprepare with
    | merged hbaselines hlist hread =>
      obtain ⟨text, bytes, htext, hencode⟩ := encode_of_isTame htame hbaselines
        (isUnicode_of_run_readPages hread) isPlaceholder
      rcases failure_of_run_writeCorpus htext hencode (run_conclude_eq_error.mp h) with
        hreported | houtput
      · exact Or.inl hreported
      · exact Or.inr (Or.inl houtput)

end Generate

end CommandDocs
