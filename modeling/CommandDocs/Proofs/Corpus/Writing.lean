import CommandDocs.Proofs.Corpus.Noting
import CommandDocs.Proofs.Corpus.RoundTrip
import CommandDocs.Proofs.File.Growth

/-!
# What writing a corpus changes

A corpus that is written changes no other file. An attempt that fails leaves the output as
it was, with one exception: a text that has no bytes is found out only after the file was
emptied.
-/

namespace CommandDocs

namespace Generate

open RunState

variable {s s' : RunState} {output : Path} {records : List MergedRecord}

/-- A corpus that is written changes the files by new directories and by its own file. -/
theorem files_of_run_writeCorpus {u : Unit}
    (h : (writeCorpus output records).run.run s = (.ok u, s')) :
    ∃ made, FileSystem.Grows s.files made ∧
      FileSystem.AgreesOff (some (s.files.placeOf output)) made s'.files ∧
      s'.logFile = s.logFile := by
  obtain ⟨text, bytes, opened, written, -, -, -, hopen, hwrite, rfl⟩ :=
    run_writeCorpus_eq_ok.mp h
  have hgrows := FileSystem.grows_ensureDirectories s.files output.parent
  have hopened := FileSystem.AgreesOff.of_updateFile hopen
  have hwritten := FileSystem.AgreesOff.of_updateFile hwrite
  rw [hopened.placeOf_eq] at hwritten
  rw [hgrows.placeOf_eq] at hopened hwritten
  exact ⟨_, hgrows, hopened.trans hwritten, rfl⟩

/-- Writing a corpus leaves all paths where they lead, and so the log. -/
theorem placeOf_of_run_writeCorpus {u : Unit}
    (h : (writeCorpus output records).run.run s = (.ok u, s')) :
    (∀ p, s'.files.placeOf p = s.files.placeOf p) ∧ s'.logPlace? = s.logPlace? := by
  obtain ⟨made, hgrows, hagrees, hlog⟩ := files_of_run_writeCorpus h
  have hplace (p : Path) : s'.files.placeOf p = s.files.placeOf p := by
    rw [hagrees.placeOf_eq, hgrows.placeOf_eq]
  refine ⟨hplace, ?_⟩
  rw [logPlace?, logPlace?, hlog]
  exact congrArg (s.logFile.map ·) (funext fun log => hplace log.path)

/-- A file at another place is read after a corpus was written as before. -/
theorem readFile_of_run_writeCorpus {u : Unit} {p : Path} {content : Bytes}
    (h : (writeCorpus output records).run.run s = (.ok u, s'))
    (hp : s.files.placeOf output ≠ s.files.placeOf p) (hread : s.files.readFile p = .ok content) :
    s'.files.readFile p = .ok content := by
  obtain ⟨made, hgrows, hagrees, -⟩ := files_of_run_writeCorpus h
  refine hagrees.readFile ?_ (hgrows.readFile hread)
  rw [hgrows.placeOf_eq]
  exact fun h => hp (Option.some.inj h)

/-- After a corpus was written the output holds its text, also when events were noted in
another file. -/
theorem output_of_run_writeCorpus {s₁ : RunState} {u : Unit}
    (h : (writeCorpus output records).run.run s = (.ok u, s₁)) (hnoted : OnlyNoted s₁ s')
    (hlog : s.logPlace? ≠ some (s.files.placeOf output)) :
    ∃ text bytes, corpusText records = .ok text ∧ Utf8.encode text = .ok bytes ∧
      s'.files.readFile output = .ok bytes := by
  obtain ⟨hplace, hlogPlace⟩ := placeOf_of_run_writeCorpus h
  obtain ⟨text, bytes, opened, written, htext, hencode, -, -, hwrite, hs₁⟩ :=
    run_writeCorpus_eq_ok.mp h
  have hfile : s₁.files.readFile output = .ok bytes := by
    rw [hs₁]
    exact FileSystem.readFile_of_writeFile hwrite
  have hlog₁ : s₁.logPlace? ≠ some (s₁.files.placeOf output) := by
    rw [hlogPlace, hplace]
    exact hlog
  exact ⟨text, bytes, htext, hencode, (hnoted.sameContent hlog₁ bytes).mpr hfile⟩

/-- Where a file cannot be opened for writing there is none to read. -/
theorem sameContent_of_open_error {made : FileSystem} {e : FileError}
    (hgrows : FileSystem.Grows s.files made) (h : made.writeFile output [] = .error e) :
    FileSystem.SameContent output s.files made := by
  intro content
  refine ⟨fun hread => ?_, hgrows.readFile⟩
  obtain ⟨place, hlocate⟩ := FileSystem.readFile_eq_ok.mp hread
  simp only [FileSystem.writeFile, FileSystem.updateFile, hlocate, bind, Except.bind] at h
  cases h

/-- Everything that comes of an attempt to write a corpus that fails. -/
inductive Unwritten (s : RunState) (output : Path) (records : List MergedRecord) :
    Failure → RunState → Prop
  /-- A record has no payload, and nothing is done. -/
  | noPayload {cause : Unwritable}
    (hpayloads : records.mapM MergedRecord.payload = .error cause) :
    Unwritten s output records (.unwritable cause) s
  /-- Not all directories for the file are made. -/
  | noDirectory {payloads : List Json} {e : FileError}
    (hpayloads : records.mapM MergedRecord.payload = .ok payloads)
    (hdirectories : (s.files.ensureDirectories output.parent).1 = .error e) :
    Unwritten s output records (Failure.ofFile (fun _ => .output output) e)
      { s with files := (s.files.ensureDirectories output.parent).2 }
  /-- The directories are made, and the payloads have no text. -/
  | noText {payloads : List Json} {e : JsonError}
    (hpayloads : records.mapM MergedRecord.payload = .ok payloads)
    (hdirectories : (s.files.ensureDirectories output.parent).1 = .ok ())
    (htext : payloadText payloads = .error e) :
    Unwritten s output records (.json e)
      { s with files := (s.files.ensureDirectories output.parent).2 }
  /-- The file is not opened. -/
  | notOpened {text : Text} {e : FileError} (htext : corpusText records = .ok text)
    (hdirectories : (s.files.ensureDirectories output.parent).1 = .ok ())
    (hopen : (s.files.ensureDirectories output.parent).2.writeFile output [] = .error e) :
    Unwritten s output records (Failure.ofFile (fun _ => .output output) e)
      { s with files := (s.files.ensureDirectories output.parent).2 }
  /-- The file is open and empty, and the text has no bytes. -/
  | noBytes {text : Text} {e : Utf8.EncodeError} {opened : FileSystem}
    (htext : corpusText records = .ok text) (hencode : Utf8.encode text = .error e)
    (hdirectories : (s.files.ensureDirectories output.parent).1 = .ok ())
    (hopen : (s.files.ensureDirectories output.parent).2.writeFile output [] = .ok opened) :
    Unwritten s output records (.unwritable (.surrogates e)) { s with files := opened }

/-- An attempt to write a corpus fails in one of these ways, and in no other: a file that was
opened is written. -/
theorem run_writeCorpus_eq_error {failure : Failure} :
    (writeCorpus output records).run.run s = (.error failure, s') ↔
      Unwritten s output records failure s' := by
  rw [writeCorpus]
  simp only [Run.run_bind_eq_error, Run.run_ask_eq_error, Run.run_ask_eq_ok,
    Run.run_ensureDirectories_eq_error, Run.run_ensureDirectories_eq_ok, Run.run_change_eq_error,
    Run.run_change_eq_ok, mapError_eq_ok, mapError_eq_error]
  constructor
  · rintro (⟨⟨cause, hpayloads, rfl⟩, rfl⟩ | ⟨payloads, _, ⟨hpayloads, rfl⟩, h⟩)
    · exact .noPayload hpayloads
    rcases h with ⟨e, hdirectories, rfl, rfl⟩ | ⟨-, _, ⟨hdirectories, rfl⟩, h⟩
    · exact .noDirectory hpayloads hdirectories
    rcases h with ⟨⟨e, htext, rfl⟩, rfl⟩ | ⟨text, _, ⟨htext, rfl⟩, h⟩
    · exact .noText hpayloads hdirectories htext
    have hcorpus := corpusText_eq_ok_iff.mpr ⟨payloads, hpayloads, htext⟩
    rcases h with ⟨⟨e, hopen, rfl⟩, rfl⟩ | ⟨-, _, ⟨opened, hopen, rfl⟩, h⟩
    · exact .notOpened hcorpus hdirectories hopen
    rcases h with ⟨⟨e, hencode, rfl⟩, rfl⟩ | ⟨bytes, _, ⟨-, rfl⟩, ⟨e, hwrite, -⟩, -⟩
    · exact .noBytes hcorpus hencode hdirectories hopen
    · obtain ⟨written, hwritten⟩ := FileSystem.writeFile_of_writeFile hopen bytes
      rw [hwritten] at hwrite
      cases hwrite
  · intro h
    cases h with
    | noPayload hpayloads => exact Or.inl ⟨⟨_, hpayloads, rfl⟩, rfl⟩
    | noDirectory hpayloads hdirectories =>
      exact Or.inr ⟨_, _, ⟨hpayloads, rfl⟩, Or.inl ⟨_, hdirectories, rfl, rfl⟩⟩
    | noText hpayloads hdirectories htext =>
      exact Or.inr ⟨_, _, ⟨hpayloads, rfl⟩, Or.inr ⟨(), _, ⟨hdirectories, rfl⟩,
        Or.inl ⟨⟨_, htext, rfl⟩, rfl⟩⟩⟩
    | notOpened htext hdirectories hopen =>
      obtain ⟨payloads, hpayloads, htext⟩ := corpusText_eq_ok_iff.mp htext
      exact Or.inr ⟨_, _, ⟨hpayloads, rfl⟩, Or.inr ⟨(), _, ⟨hdirectories, rfl⟩,
        Or.inr ⟨_, _, ⟨htext, rfl⟩, Or.inl ⟨⟨_, hopen, rfl⟩, rfl⟩⟩⟩⟩
    | noBytes htext hencode hdirectories hopen =>
      obtain ⟨payloads, hpayloads, htext⟩ := corpusText_eq_ok_iff.mp htext
      exact Or.inr ⟨_, _, ⟨hpayloads, rfl⟩, Or.inr ⟨(), _, ⟨hdirectories, rfl⟩,
        Or.inr ⟨_, _, ⟨htext, rfl⟩, Or.inr ⟨(), _, ⟨_, hopen, rfl⟩,
          Or.inl ⟨⟨_, hencode, rfl⟩, rfl⟩⟩⟩⟩⟩

/-- A failure to write records such as are read leaves the output as it was, unless the text of
the corpus has no bytes; then the output is an empty file. -/
theorem output_of_unwritten {failure : Failure} (h : Unwritten s output records failure s')
    (hproper : ∀ r ∈ records, r.IsProper) :
    FileSystem.SameContent output s.files s'.files ∨
      ∃ text e, corpusText records = .ok text ∧ Utf8.encode text = .error e ∧
        failure = .unwritable (.surrogates e) ∧ s'.files.readFile output = .ok [] := by
  have hgrows := FileSystem.grows_ensureDirectories s.files output.parent
  cases h with
  | noPayload => exact Or.inl fun _ => Iff.rfl
  | noDirectory _ hdirectories =>
    exact Or.inl (FileSystem.readFile_of_ensureDirectories_error hdirectories)
  | noText hpayloads _ hnone =>
    obtain ⟨text, htext⟩ := exists_payloadText hpayloads hproper
    rw [htext] at hnone
    cases hnone
  | notOpened _ _ hopen => exact Or.inl (sameContent_of_open_error hgrows hopen)
  | noBytes htext hencode _ hopen =>
    exact Or.inr ⟨_, _, htext, hencode, rfl, FileSystem.readFile_of_writeFile hopen⟩

end Generate

end CommandDocs
