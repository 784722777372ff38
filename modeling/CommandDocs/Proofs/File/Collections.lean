import CommandDocs.Proofs.File.Contents
import CommandDocs.Proofs.Json.Characters
import CommandDocs.Proofs.Text.Utf8

/-!
# What comes of reading a collection

A collection is read, or it has a fault that is reported. There is a third case: the reader of JSON
meets one of its bounds before it can tell whether the text of the file is JSON. Its failure is
handed on as it is.
-/

namespace CommandDocs

namespace FileSystem

variable {fs : FileSystem} {p : Path}

/-- The file holds a text at which the reader of JSON meets one of its bounds, before it can
tell whether the text is JSON. -/
def ExceedsBounds (fs : FileSystem) (p : Path) : Prop :=
  ∃ text e, fs.readText p = .ok text ∧ Json.read text = .error e ∧ e ≠ .malformed

/-- A path that can be told to the system is refused for other reasons. -/
theorem fault_ne_nul_of_readFile (hnul : ¬HasNul p) {e : FileError}
    (h : fs.readFile p = .error e) : e.fault ≠ .nul := by
  rw [readFile, bind_eq_error] at h
  rcases h with hlocate | ⟨target, -, h⟩
  · exact fault_ne_nul hnul hlocate
  · rcases target with ⟨place, content | -⟩ | place
    · cases h
    · cases h
      simp
    · cases h
      simp

/-- A text whose file cannot be read is not read. -/
theorem readFile_of_readText_error {e : FileError} (h : fs.readText p = .error (.file e)) :
    fs.readFile p = .error e := by
  simp only [readText, bind_eq_error, mapError_eq_error] at h
  rcases h with ⟨e', hfile, heq⟩ | ⟨content, -, ⟨e', -, heq⟩ | ⟨text, -, h⟩⟩
  · cases heq
    exact hfile
  · cases heq
  · cases h

/-- A text that cannot be read is reported as the reader of texts reports it. -/
theorem ofText_of_readText (hnul : ¬HasNul p) {report : TextFault → Failure} {fault : TextFault}
    (h : fs.readText p = .error fault) : Failure.ofText report fault = report fault := by
  cases fault with
  | bytes e => rfl
  | file e =>
    have hfile := readFile_of_readText_error h
    rw [Failure.ofText, Failure.ofFile, if_neg (fault_ne_nul_of_readFile hnul hfile)]

/-- What can come of reading a collection. -/
inductive ReadOutcome (fs : FileSystem) (kind : CollectionKind) (p : Path) {α : Type} :
    Except Failure α → Prop
  /-- It is read. -/
  | read (value : α) (within : ¬fs.ExceedsBounds p) : ReadOutcome fs kind p (.ok value)
  /-- It has a fault. -/
  | unfit (fault : CollectionFault) (within : ¬fs.ExceedsBounds p) :
    ReadOutcome fs kind p (.error (.collection kind fault p))
  /-- The reader breaks off. -/
  | brokenOff (e : JsonError) (he : e ≠ .malformed) (beyond : fs.ExceedsBounds p)
    (hread : ∀ text, fs.readText p = .ok text → Json.read text = .error e) :
    ReadOutcome fs kind p (.error (.json e))

variable {kind : CollectionKind} {α β : Type}

/-- Nothing else comes of checking what was read. -/
theorem ReadOutcome.check {outcome : Except Failure α} (h : ReadOutcome fs kind p outcome)
    (f : α → Except CollectionFault β) :
    ReadOutcome fs kind p
      (outcome >>= fun value => (f value).mapError (Failure.collection kind · p)) := by
  cases h with
  | read value within =>
    change ReadOutcome fs kind p ((f value).mapError (Failure.collection kind · p))
    cases f value with
    | ok checked => exact .read checked within
    | error fault => exact .unfit fault within
  | unfit fault within => exact .unfit fault within
  | brokenOff e he beyond hread => exact .brokenOff e he beyond hread

/-- Items are read, or the collection has a fault, or the reader breaks off. -/
theorem readOutcome_readItems (kind : CollectionKind) (hnul : ¬HasNul p) :
    ReadOutcome fs kind p (fs.readItems kind p) := by
  rw [readItems]
  cases htext : fs.readText p with
  | error fault =>
    have within : ¬fs.ExceedsBounds p := by
      rintro ⟨text, e, hok, -⟩
      rw [htext] at hok
      cases hok
    dsimp only
    rw [ofText_of_readText hnul htext]
    exact .unfit .unreadable within
  | ok text =>
    dsimp only
    have hbounds (h : ∀ e, Json.read text = .error e → e = .malformed) : ¬fs.ExceedsBounds p := by
      rintro ⟨text', e, hok, hread, he⟩
      rw [htext, Except.ok.injEq] at hok
      rw [← hok] at hread
      exact he (h e hread)
    have hsame {e : JsonError} (h : Json.read text = .error e) (text' : Text)
        (hok : fs.readText p = .ok text') : Json.read text' = .error e := by
      rw [htext, Except.ok.injEq] at hok
      rw [← hok, h]
    cases hread : Json.read text with
    | ok value =>
      have within : ¬fs.ExceedsBounds p := hbounds fun e he => by
        rw [hread] at he
        cases he
      cases value <;> first | exact .read _ within | exact .unfit .notArray within
    | error e =>
      cases e with
      | malformed =>
        refine .unfit .notJson (hbounds fun e he => ?_)
        rw [hread] at he
        cases he
        rfl
      | tooDeep =>
        exact .brokenOff .tooDeep (by simp) ⟨text, _, htext, hread, by simp⟩ (hsame hread)
      | tooManyDigits count =>
        exact .brokenOff (.tooManyDigits count) (by simp) ⟨text, _, htext, hread, by simp⟩
          (hsame hread)

/-- So are the records of command data. -/
theorem readOutcome_readCommandData (hnul : ¬HasNul p) :
    ReadOutcome fs .commandData p (fs.readCommandData p) :=
  (readOutcome_readItems .commandData hnul).check (mergedRecordsFrom 0)

/-- So are the records of a baseline. -/
theorem readOutcome_readBaseline (hnul : ¬HasNul p) :
    ReadOutcome fs .baseline p (fs.readBaseline p) :=
  (readOutcome_readItems .baseline hnul).check (baselineRecordsFrom 0)

/-- Unicode text without a carriage return is read from its bytes. -/
theorem readText_of_bytesOf {text : Text} (hfile : fs.readFile p = .ok (text.flatMap Utf8.bytesOf))
    (hunicode : text.IsUnicode) (hreturn : text.Satisfies (· ≠ .scalar '\r')) :
    fs.readText p = .ok text :=
  readText_eq_ok.mpr ⟨_, text, hfile, Utf8.decode_flatMap_bytesOf hunicode,
    (Text.unifyNewlines_of_satisfies hreturn).symm⟩

/-- Text is read at a path that can be told to the system. -/
theorem not_hasNul_of_readText {text : Text} (h : fs.readText p = .ok text) : ¬HasNul p := by
  intro hnul
  obtain ⟨content, hcontent⟩ := readFile_of_readText h
  rw [readFile, locate_of_hasNul hnul] at hcontent
  cases hcontent

end FileSystem

end CommandDocs
