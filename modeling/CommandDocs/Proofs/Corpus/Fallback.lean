import CommandDocs.Proofs.Corpus.IndexRun
import CommandDocs.Proofs.File.Collections
import CommandDocs.Proofs.Json.Bounds

/-!
# Falling back to the baseline

A new index reads its command data. If that is missing, is no text, is not JSON or is not a
list of records, the index turns to its baseline and answers as if there were no command data
at all. Only where the reader of JSON meets one of its bounds nobody turns to the baseline:
the call breaks off, and the index stays as it was.
-/

namespace CommandDocs

namespace FileSystem

variable {fs : FileSystem} {p : Path}

/-- A path that leads to something can be told to the system. -/
theorem not_hasNul_of_nodeAt? {node : Node} (h : fs.nodeAt? p = .ok (some node)) : ¬HasNul p := by
  intro hnul
  rw [nodeAt?, locate_of_hasNul hnul] at h
  cases h

/-- Where there is nothing no text is read. -/
theorem readText_ne_ok (h : fs.nodeAt? p = .ok none) (text : Text) : fs.readText p ≠ .ok text := by
  intro htext
  obtain ⟨content, hcontent⟩ := readFile_of_readText htext
  obtain ⟨e, he, -⟩ := readFile_of_none h
  rw [he] at hcontent
  cases hcontent

end FileSystem

namespace CommandIndex

open FileSystem

variable {index : CommandIndex} {fs fs' : FileSystem} {node : Option Node}

/-- A call for loading that breaks off leaves the index as it was. -/
theorem index_call_load_of_error {failure : Failure}
    (h : (index.load fs).outcome = .error failure) : (index.call fs .load).index = index := by
  rw [index_call (by simp)]
  refine (if_pos rfl).trans (settled_eq_self fun loaded hloaded => ?_)
  rw [h] at hloaded
  cases hloaded

/-- The answer to a call for loading and the index after it are those of the outcome of the
attempt. -/
theorem call_load_congr (h : (index.load fs).outcome = (index.load fs').outcome) :
    (index.call fs .load).reply = (index.call fs' .load).reply ∧
      (index.call fs .load).index = (index.call fs' .load).index := by
  cases ho : (index.load fs').outcome with
  | error failure =>
    rw [ho] at h
    rw [reply_load_of_error h, reply_load_of_error ho, index_call_load_of_error h,
      index_call_load_of_error ho]
    exact ⟨rfl, rfl⟩
  | ok found =>
    have hsettled : index.settled fs = index.settled fs' := by
      rw [settled, settled, after, after, h]
    have hok := outcome_ne_error_of_ok (h.trans ho)
    have hok' := outcome_ne_error_of_ok ho
    rw [reply_load hok, reply_load hok', index_call (by simp), index_call (by simp), hsettled]
    exact ⟨rfl, rfl⟩

/-- What the baseline gives does not depend on the reason for turning to it. -/
theorem outcome_readBaseline (index : CommandIndex) (fs : FileSystem) (reason reason' : Text) :
    (index.readBaseline fs reason).outcome = (index.readBaseline fs reason').outcome := by
  unfold readBaseline
  split
  · rfl
  · split <;> rfl

/-- The baseline is read, or the attempt ends without records, unless the reader breaks off. -/
theorem outcome_readBaseline_cases (hnul : ∀ p ∈ index.baseline, ¬HasNul p) (fs : FileSystem)
    (reason : Text) :
    ((∀ p ∈ index.baseline, ¬fs.ExceedsBounds p) ∧
        ∃ found, (index.readBaseline fs reason).outcome = .ok found) ∨
      (∃ p ∈ index.baseline, fs.ExceedsBounds p) ∧
        ∃ e, e ≠ .malformed ∧ (index.readBaseline fs reason).outcome = .error (.json e) := by
  unfold readBaseline
  cases hbaseline : index.baseline with
  | none =>
    refine Or.inl ⟨fun p hp => ?_, none, rfl⟩
    cases hp
  | some p =>
    have houtcome : ReadOutcome fs .baseline p (fs.readBaseline p) :=
      readOutcome_readBaseline (hnul p hbaseline)
    have hall (within : ¬fs.ExceedsBounds p) : ∀ q ∈ some p, ¬fs.ExceedsBounds q := by
      intro q hq
      rw [← Option.some.inj hq]
      exact within
    dsimp only
    generalize fs.readBaseline p = outcome at houtcome
    cases houtcome with
    | read records within => exact Or.inl ⟨hall within, _, rfl⟩
    | unfit fault within => exact Or.inl ⟨hall within, _, rfl⟩
    | brokenOff e he beyond _ => exact Or.inr ⟨⟨p, rfl, beyond⟩, e, he, rfl⟩

/-- Records are those of the command data, or what the baseline gives, unless the reader breaks
off. -/
theorem readRecords_cases (hdata : fs.nodeAt? index.data = .ok node) :
    (fs.ExceedsBounds index.data ∧
        ∃ e, e ≠ .malformed ∧ (index.readRecords fs).outcome = .error (.json e)) ∨
      ¬fs.ExceedsBounds index.data ∧
        ((∃ records, fs.readCommandData index.data = .ok records ∧
            ∃ found, (index.readRecords fs).outcome = .ok found) ∨
          (∀ records, fs.readCommandData index.data ≠ .ok records) ∧
            ∃ reason, index.readRecords fs = index.readBaseline fs reason) := by
  have hexists : fs.pathExists index.data = .ok node.isSome := by
    rw [pathExists, hdata]
    rfl
  unfold readRecords
  rw [hexists]
  cases node with
  | none =>
    have within : ¬fs.ExceedsBounds index.data := by
      rintro ⟨text, e, htext, -⟩
      exact readText_ne_ok hdata text htext
    refine Or.inr ⟨within, Or.inr ⟨fun records hrecords => ?_, _, rfl⟩⟩
    rw [readCommandData, bind_eq_ok] at hrecords
    obtain ⟨items, hitems, -⟩ := hrecords
    obtain ⟨text, htext, -⟩ := readItems_eq_ok.mp hitems
    exact readText_ne_ok hdata text htext
  | some node =>
    have houtcome : ReadOutcome fs .commandData index.data (fs.readCommandData index.data) :=
      readOutcome_readCommandData (not_hasNul_of_nodeAt? hdata)
    dsimp only [Option.isSome_some]
    generalize fs.readCommandData index.data = outcome at houtcome
    cases houtcome with
    | read records within => exact Or.inr ⟨within, Or.inl ⟨records, rfl, _, rfl⟩⟩
    | unfit fault within =>
      refine Or.inr ⟨within, Or.inr ⟨fun records h => ?_, _, rfl⟩⟩
      cases h
    | brokenOff e he beyond => exact Or.inl ⟨beyond, e, he, rfl⟩

/-- The reader of JSON does not break off while the index looks for its records: not at the
command data, and not at the baseline unless there are records in the command data. -/
def LoadsWithinBounds (index : CommandIndex) (fs : FileSystem) : Prop :=
  ¬fs.ExceedsBounds index.data ∧
    ((∃ records, fs.readCommandData index.data = .ok records) ∨
      ∀ p ∈ index.baseline, ¬fs.ExceedsBounds p)

/-- An attempt of a new index comes to an end exactly where the reader does not break off. -/
theorem outcome_load_cases (hnone : index.loaded = none) (hdata : fs.nodeAt? index.data = .ok node)
    (hbaseline : ∀ p ∈ index.baseline, ¬HasNul p) :
    (index.LoadsWithinBounds fs ∧ ∃ found, (index.load fs).outcome = .ok found) ∨
      ¬index.LoadsWithinBounds fs ∧
        ∃ e, e ≠ .malformed ∧ (index.load fs).outcome = .error (.json e) := by
  rw [load, hnone]
  rcases readRecords_cases hdata with
    ⟨beyond, hbroken⟩ | ⟨within, ⟨records, hrecords, hfound⟩ | ⟨hunfit, reason, hread⟩⟩
  · exact Or.inr ⟨fun h => h.1 beyond, hbroken⟩
  · exact Or.inl ⟨⟨within, Or.inl ⟨records, hrecords⟩⟩, hfound⟩
  · dsimp only
    rw [hread]
    rcases outcome_readBaseline_cases hbaseline fs reason with
      ⟨hwithin, hfound⟩ | ⟨⟨p, hp, beyond⟩, hbroken⟩
    · exact Or.inl ⟨⟨within, Or.inr hwithin⟩, hfound⟩
    · refine Or.inr ⟨?_, hbroken⟩
      rintro ⟨-, ⟨records, hrecords⟩ | hwithin⟩
      · exact hunfit records hrecords
      · exact hwithin p hp beyond

/-- Command data without records leads to the same as no command data. -/
theorem outcome_load_of_unfit (hnone : index.loaded = none)
    (hdata : fs.nodeAt? index.data = .ok node) (within : ¬fs.ExceedsBounds index.data)
    (hunfit : ∀ records, fs.readCommandData index.data ≠ .ok records)
    (hmissing : fs'.nodeAt? index.data = .ok none)
    (hbaseline : ∀ p ∈ index.baseline, fs'.nodeAt? p = fs.nodeAt? p) :
    (index.load fs).outcome = (index.load fs').outcome := by
  have hexists : fs'.pathExists index.data = .ok false := by
    rw [pathExists, hmissing]
    rfl
  have hmissing' : index.readRecords fs' =
      index.readBaseline fs' "generated command data not found" := by
    rw [readRecords, hexists]
  rw [load, load, hnone]
  dsimp only
  rw [hmissing', readBaseline_congr hbaseline]
  rcases readRecords_cases hdata with
    ⟨beyond, -⟩ | ⟨-, ⟨records, hrecords, -⟩ | ⟨-, reason, hread⟩⟩
  · exact absurd beyond within
  · exact absurd hrecords (hunfit records)
  · rw [hread]
    exact outcome_readBaseline index fs reason _

/-- Where the reader breaks off at the command data, so does the attempt. -/
theorem outcome_load_of_json {e : JsonError} (hnone : index.loaded = none)
    (hexists : fs.pathExists index.data = .ok true)
    (hread : fs.readCommandData index.data = .error (.json e)) :
    (index.load fs).outcome = .error (.json e) := by
  simp only [load, hnone, readRecords, hexists, hread]

/-- What becomes of the first call for loading, whatever the command data and the baseline
hold. It is answered unless the reader of JSON breaks off: at the command data, or at the
baseline when there are no records in the command data. A call that is not answered leaves the
index as it was. Where the command data gives no records and the reader does not break off at
it, the answer and the index are the same as if there were no command data. -/
theorem call_load_of_new {data : Path} {baseline : Option Path}
    (hdata : fs.nodeAt? data = .ok node) (hbaseline : ∀ p ∈ baseline, ¬HasNul p) :
    let index : CommandIndex := { data, baseline }
    ((∃ found, (index.call fs .load).reply = .ok (.truth found)) ↔ index.LoadsWithinBounds fs) ∧
      ((¬∃ found, (index.call fs .load).reply = .ok (.truth found)) →
        ∃ e, e ≠ .malformed ∧ (index.call fs .load).reply = .error (.json e) ∧
          (index.call fs .load).index = index) ∧
      (¬fs.ExceedsBounds data → (∀ records, fs.readCommandData data ≠ .ok records) →
        ∀ fs' : FileSystem, fs'.nodeAt? data = .ok none →
          (∀ p ∈ baseline, fs'.nodeAt? p = fs.nodeAt? p) →
            (index.call fs .load).reply = (index.call fs' .load).reply ∧
              (index.call fs .load).index = (index.call fs' .load).index) := by
  intro index
  have hnone : index.loaded = none := rfl
  have hcongr (within : ¬fs.ExceedsBounds data)
      (hunfit : ∀ records, fs.readCommandData data ≠ .ok records) (fs' : FileSystem)
      (hmissing : fs'.nodeAt? data = .ok none)
      (hsame : ∀ p ∈ baseline, fs'.nodeAt? p = fs.nodeAt? p) :=
    call_load_congr (outcome_load_of_unfit hnone hdata within hunfit hmissing hsame)
  rcases outcome_load_cases hnone hdata hbaseline with
    ⟨hbounds, found, hfound⟩ | ⟨hbounds, e, he, hbroken⟩
  · have hanswer : ∃ found, (index.call fs .load).reply = .ok (.truth found) :=
      ⟨_, reply_load (outcome_ne_error_of_ok hfound)⟩
    exact ⟨iff_of_true hanswer hbounds, fun h => absurd hanswer h, hcongr⟩
  · have hreply : (index.call fs .load).reply = .error (.json e) := reply_load_of_error hbroken
    have hsilent : ¬∃ found, (index.call fs .load).reply = .ok (.truth found) := by
      rintro ⟨found, hfound⟩
      rw [hreply] at hfound
      cases hfound
    exact ⟨iff_of_false hsilent hbounds,
      fun _ => ⟨e, he, hreply, index_call_load_of_error hbroken⟩, hcongr⟩

/-- Where the samples have their command data. -/
def sampleData : Path := ⟨.relative, ["data"]⟩

/-- Where the samples have their baseline. -/
def sampleBaseline : Path := ⟨.relative, ["base"]⟩

/-- A baseline with one entry. -/
def sampleBaselineFile : Entries Place Node :=
  [(["base"], .file ((Text.ofString
    "[\x7b\"name\": \"abs\", \"description\": \"d\", \"usage\": \"abs(x)\"\x7d]").flatMap
      Utf8.bytesOf))]

/-- The baseline beside command data of the given text. -/
def sampleSources (text : Text) : FileSystem where
  nodes := (["data"], .file (text.flatMap Utf8.bytesOf)) :: sampleBaselineFile
  workingDirectory := []

/-- The baseline alone. -/
def sampleBaselineOnly : FileSystem := ⟨sampleBaselineFile, []⟩

/-- An index of the samples. -/
def sampleIndex : CommandIndex := { data := sampleData, baseline := some sampleBaseline }

/-- Command data that is not JSON is as good as none. -/
theorem call_load_sampleSources :
    (sampleSources "x").nodeAt? sampleData = .ok (some (.file [120])) ∧ ¬HasNul sampleBaseline ∧
      ¬(sampleSources "x").ExceedsBounds sampleData ∧
      (∀ records, (sampleSources "x").readCommandData sampleData ≠ .ok records) ∧
      (sampleIndex.call (sampleSources "x") .load).reply = .ok (.truth true) ∧
      (sampleIndex.call (sampleSources "x") .load).index =
        (sampleIndex.call sampleBaselineOnly .load).index := by
  have hdata : (sampleSources "x").nodeAt? sampleData = .ok (some (.file [120])) := rfl
  have hbaseline : ∀ p ∈ some sampleBaseline, ¬HasNul p := by
    intro p hp
    rw [← Option.some.inj hp]
    exact Bool.false_ne_true
  have hitems : (sampleSources "x").readItems .commandData sampleData =
      .error (.collection .commandData .notJson sampleData) := rfl
  have hunfit : ∀ records, (sampleSources "x").readCommandData sampleData ≠ .ok records := by
    intro records hrecords
    rw [readCommandData, hitems] at hrecords
    cases hrecords
  have hwithin : ¬(sampleSources "x").ExceedsBounds sampleData := by
    rintro ⟨text, e, htext, hread, he⟩
    have hx : (sampleSources "x").readText sampleData = .ok "x" := rfl
    rw [hx, Except.ok.injEq] at htext
    rw [← htext] at hread
    have hmalformed : Json.read "x" = .error .malformed := rfl
    rw [hmalformed, Except.error.injEq] at hread
    exact he hread.symm
  obtain ⟨-, -, hsame⟩ := call_load_of_new hdata hbaseline
  obtain ⟨hreply, hindex⟩ := hsame hwithin hunfit sampleBaselineOnly rfl fun p hp => by
    rw [← Option.some.inj hp]
    rfl
  have hanswer : (sampleIndex.call sampleBaselineOnly .load).reply = .ok (.truth true) := rfl
  exact ⟨hdata, hbaseline _ rfl, hwithin, hunfit, hreply.trans hanswer, hindex⟩

/-- Text that is nested too deep. -/
def deepText : Text :=
  List.replicate 3000 (CodePoint.scalar '[') ++ List.replicate 3000 (CodePoint.scalar ']')

/-- Beside command data that is nested too deep the call breaks off, although the baseline could
be read. -/
theorem call_load_of_deepText :
    (sampleIndex.call (sampleSources deepText) .load).reply = .error (.json .tooDeep) ∧
      (sampleIndex.call sampleBaselineOnly .load).reply = .ok (.truth true) := by
  have hunicode : deepText.IsUnicode :=
    Json.satisfies_brackets (p := fun c => c.isSurrogate = false) rfl rfl 3000
  have hreturn : deepText.Satisfies (· ≠ .scalar '\r') :=
    Json.satisfies_brackets (by decide) (by decide) 3000
  have htext : (sampleSources deepText).readText sampleData = .ok deepText :=
    readText_of_bytesOf rfl hunicode hreturn
  have hread : Json.read deepText = .error .tooDeep :=
    Json.read_brackets (by decide : Json.nestingBound < 3000)
  have hitems : (sampleSources deepText).readItems .commandData sampleData =
      .error (.json .tooDeep) := by
    rw [readItems, htext]
    dsimp only
    rw [hread]
    rfl
  have hdata : (sampleSources deepText).readCommandData sampleData = .error (.json .tooDeep) := by
    rw [readCommandData, hitems]
    rfl
  have hload : (sampleIndex.load (sampleSources deepText)).outcome = .error (.json .tooDeep) :=
    outcome_load_of_json rfl rfl hdata
  exact ⟨reply_load_of_error hload, rfl⟩

end CommandIndex

end CommandDocs
