import CommandDocs.Corpus.Generate
import CommandDocs.Proofs.Corpus.Steps
import CommandDocs.Proofs.File.Writing
import CommandDocs.Proofs.Json.Characters
import CommandDocs.Proofs.Json.Bounds
import CommandDocs.Proofs.Record.RoundTrip

/-!
# Written collections read back

A collection that was written to a file is read from it as it was. All that is lost on the way
are numbers that JSON does not know.
-/

namespace CommandDocs

open Generate

variable {records : List MergedRecord} {text : Text}

/-- The value that is written for a collection. -/
def MergedRecord.collection (records : List MergedRecord) : Json :=
  .array (records.map fun r => r.finitePart.toJson)

/-- The payloads of records are taken one by one. -/
theorem MergedRecord.payloads_eq_ok {payloads : List Json} :
    records.mapM MergedRecord.payload = .ok payloads ↔
      payloads = records.map (fun r => r.finitePart.toJson) ∧
        ∀ r ∈ records, Json.checkWritableMembers Json.writableDepth r.extras = .ok () := by
  induction records generalizing payloads with
  | nil =>
    constructor
    · intro h
      cases h
      exact ⟨rfl, by simp⟩
    · intro h
      rcases h with ⟨rfl, -⟩
      rfl
  | cons r records ih =>
    rw [List.mapM_cons, List.map_cons, List.forall_mem_cons]
    cases hpayload : r.payload with
    | error e =>
      refine iff_of_false (fun h => nomatch h) ?_
      intro h
      rcases h with ⟨-, hcheck, -⟩
      rw [payload_eq_ok.mpr ⟨rfl, hcheck⟩] at hpayload
      cases hpayload
    | ok payload =>
      obtain ⟨rfl, hcheck⟩ := payload_eq_ok.mp hpayload
      cases hrest : records.mapM MergedRecord.payload with
      | error e =>
        refine iff_of_false (fun h => nomatch h) ?_
        intro h
        rcases h with ⟨-, -, hchecks⟩
        rw [ih.mpr ⟨rfl, hchecks⟩] at hrest
        cases hrest
      | ok rest =>
        obtain ⟨rfl, hchecks⟩ := ih.mp hrest
        constructor
        · intro h
          cases h
          exact ⟨rfl, hcheck, hchecks⟩
        · intro h
          rcases h with ⟨rfl, -⟩
          rfl

/-- Objects have a text when all their integers are short. -/
theorem payloadText_eq_ok {payloads : List Json} : payloadText payloads = .ok text ↔
    (Json.array payloads).Everywhere Json.HasShortIntegers ∧
      text = Json.write Json.Layout.indented (.array payloads) ++ ("\n" : Text) := by
  rw [payloadText, check_bind_eq_ok, Json.checkDigits_eq_ok, Except.ok.injEq, eq_comm (a := text)]

/-- Objects with a long integer have none. -/
theorem payloadText_of_longInteger {payloads : List Json}
    (hlong : ¬(Json.array payloads).Everywhere Json.HasShortIntegers) :
    payloadText payloads = .error (.tooManyDigits none) := by
  rw [payloadText, Json.checkDigits_eq_error hlong]
  rfl

/-- The text that is written for records, when each of them has a payload and these have a
text. -/
def Generate.corpusText (records : List MergedRecord) : Except Failure Text := do
  let payloads ← (records.mapM MergedRecord.payload).mapError Failure.unwritable
  (payloadText payloads).mapError Failure.json

/-- The text is made in these two steps. -/
theorem corpusText_eq_ok_iff : corpusText records = .ok text ↔
    ∃ payloads, records.mapM MergedRecord.payload = .ok payloads ∧
      payloadText payloads = .ok text := by
  simp only [corpusText, bind_eq_ok, mapError_eq_ok]

/-- The text of a collection is its written value and a newline, as long as no further
member is nested too deep and no integer has too many digits. -/
theorem corpusText_eq_ok : corpusText records = .ok text ↔
    text = Json.write Json.Layout.indented (MergedRecord.collection records) ++ ("\n" : Text) ∧
      (∀ r ∈ records, Json.checkWritableMembers Json.writableDepth r.extras = .ok ()) ∧
      (MergedRecord.collection records).Everywhere Json.HasShortIntegers := by
  rw [corpusText_eq_ok_iff]
  constructor
  · intro h
    obtain ⟨payloads, hpayloads, htext⟩ := h
    obtain ⟨rfl, hchecks⟩ := MergedRecord.payloads_eq_ok.mp hpayloads
    obtain ⟨hshort, rfl⟩ := payloadText_eq_ok.mp htext
    exact ⟨rfl, hchecks, hshort⟩
  · intro h
    obtain ⟨rfl, hchecks, hshort⟩ := h
    exact ⟨_, MergedRecord.payloads_eq_ok.mpr ⟨rfl, hchecks⟩,
      payloadText_eq_ok.mpr ⟨hshort, rfl⟩⟩

/-- Records whose objects are read are read together. -/
theorem mergedRecordsFrom_map_toJson (position : ℕ)
    (h : ∀ r ∈ records, MergedRecord.ofJson r.toJson = .ok r) :
    mergedRecordsFrom position (records.map MergedRecord.toJson) = .ok records := by
  induction records generalizing position with
  | nil => rfl
  | cons r records ih =>
    rw [List.forall_mem_cons] at h
    simp only [List.map_cons, mergedRecordsFrom, h.1, ih (position + 1) h.2, Except.mapError, bind,
      Except.bind]

/-- The value of a collection of proper records has the form in which a reader gives it. -/
theorem asRead_collection (hproper : ∀ r ∈ records, r.IsProper) :
    (MergedRecord.collection records).Everywhere Json.AsRead := by
  rw [MergedRecord.collection, Json.everywhere_array]
  refine ⟨trivial, fun item hitem => ?_⟩
  obtain ⟨r, hr, rfl⟩ := List.mem_map.mp hitem
  exact (hproper r hr).finitePart.asRead_toJson

/-- The payloads of proper records have a text: no integer that is read is too long. -/
theorem exists_payloadText {payloads : List Json}
    (hpayloads : records.mapM MergedRecord.payload = .ok payloads)
    (hproper : ∀ r ∈ records, r.IsProper) : ∃ text, payloadText payloads = .ok text := by
  obtain ⟨rfl, -⟩ := MergedRecord.payloads_eq_ok.mp hpayloads
  exact ⟨_, payloadText_eq_ok.mpr
    ⟨(Json.everywhere_asRead.mp (asRead_collection hproper)).2, rfl⟩⟩

/-- The value of a collection that is written is nested no deeper than a reader goes. -/
theorem nestedWithin_collection
    (hchecks : ∀ r ∈ records, Json.checkWritableMembers Json.writableDepth r.extras = .ok ()) :
    Json.NestedWithin Json.nestingBound (MergedRecord.collection records) := by
  have hitems : Json.NestedWithin (Json.writableDepth + 1 + 1)
      (MergedRecord.collection records) := by
    intro item hitem
    obtain ⟨r, hr, rfl⟩ := List.mem_map.mp hitem
    refine MergedRecord.nestedWithin_toJson (by decide) fun member hmember => ?_
    rw [MergedRecord.finitePart, Json.finiteMembers_eq_map] at hmember
    obtain ⟨original, horiginal, rfl⟩ := List.mem_map.mp hmember
    exact Json.nestedWithin_finitePart (Json.nestedWithin_of_checkWritable
      (Json.checkWritableMembers_eq_ok.mp (hchecks r hr) original horiginal).2)
  exact hitems.mono (by decide)

/-- The text of a collection is Unicode exactly when the texts in it are. -/
theorem isUnicode_corpusText (htext : corpusText records = .ok text) :
    text.IsUnicode ↔ (MergedRecord.collection records).Everywhere Json.HasUnicode := by
  obtain ⟨rfl, -⟩ := corpusText_eq_ok.mp htext
  have hnewline : Text.IsUnicode ("\n" : Text) := by decide
  rw [← Json.isUnicode_write]
  constructor
  · intro h
    exact (List.forall_mem_append.mp h).1
  · intro h
    exact List.forall_mem_append.mpr ⟨h, hnewline⟩

/-- The text of a collection is read as the value of the collection. -/
theorem read_corpusText (htext : corpusText records = .ok text)
    (hproper : ∀ r ∈ records, r.IsProper) :
    Json.read text = .ok (MergedRecord.collection records) := by
  obtain ⟨rfl, hchecks, -⟩ := corpusText_eq_ok.mp htext
  refine Json.read_write Json.isBlank_indented (asRead_collection hproper)
    (nestedWithin_collection hchecks) fun c hc => ?_
  rw [List.mem_singleton.mp hc]
  rfl

/-- The text of a collection has no line ends but plain newlines. -/
theorem unifyNewlines_corpusText (htext : corpusText records = .ok text) :
    text.unifyNewlines = text := by
  obtain ⟨rfl, -⟩ := corpusText_eq_ok.mp htext
  have hnewline : Text.Satisfies (· ≠ .scalar '\r') ("\n" : Text) := by
    intro c hc
    rw [List.mem_singleton.mp hc]
    decide
  exact Text.unifyNewlines_of_satisfies
    (Text.satisfies_append.mpr ⟨Json.ne_return_of_mem_write _, hnewline⟩)

/-- The text of a collection is read from a file that holds it. -/
theorem readText_of_corpusText {fs : FileSystem} {p : Path} {bytes : Bytes}
    (hfile : fs.readFile p = .ok bytes) (htext : corpusText records = .ok text)
    (hencode : Utf8.encode text = .ok bytes) : fs.readText p = .ok text := by
  have hunicode := Utf8.isUnicode_of_encode hencode
  rw [Utf8.encode_of_isUnicode hunicode] at hencode
  cases hencode
  simp only [FileSystem.readText, hfile, Utf8.decode_flatMap_bytesOf hunicode, Except.mapError,
    bind, Except.bind, unifyNewlines_corpusText htext]

/-- From a file that holds the text of a collection its items are read. -/
theorem readItems_of_corpusText {fs : FileSystem} {p : Path} {bytes : Bytes}
    (hfile : fs.readFile p = .ok bytes) (htext : corpusText records = .ok text)
    (hencode : Utf8.encode text = .ok bytes) (hproper : ∀ r ∈ records, r.IsProper)
    (kind : CollectionKind) :
    fs.readItems kind p = .ok (records.map fun r => r.finitePart.toJson) :=
  FileSystem.readItems_eq_ok.mpr ⟨text, readText_of_corpusText hfile htext hencode,
    read_corpusText htext hproper⟩

/-- From a file that holds the text of a collection the collection is read, without the
numbers that JSON does not know. -/
theorem readCommandData_of_corpusText {fs : FileSystem} {p : Path} {bytes : Bytes}
    (hfile : fs.readFile p = .ok bytes) (htext : corpusText records = .ok text)
    (hencode : Utf8.encode text = .ok bytes) (hproper : ∀ r ∈ records, r.IsProper) :
    fs.readCommandData p = .ok (records.map MergedRecord.finitePart) := by
  have hitems : fs.readItems .commandData p =
      .ok ((records.map MergedRecord.finitePart).map MergedRecord.toJson) := by
    rw [readItems_of_corpusText hfile htext hencode hproper, List.map_map]
    rfl
  have hrecords : ∀ r ∈ records.map MergedRecord.finitePart,
      MergedRecord.ofJson r.toJson = .ok r := by
    intro r hr
    obtain ⟨original, horiginal, rfl⟩ := List.mem_map.mp hr
    have htexts := ((isUnicode_corpusText htext).mp (Utf8.isUnicode_of_encode hencode))
    rw [MergedRecord.collection, Json.everywhere_array] at htexts
    have hobject := htexts.2 _ (List.mem_map_of_mem horiginal)
    rw [MergedRecord.toJson_eq, Json.everywhere_object] at hobject
    refine MergedRecord.ofJson_toJson (hproper original horiginal).finitePart fun name hname => ?_
    obtain ⟨member, hmember, rfl⟩ := List.mem_map.mp hname
    exact hobject.1 member (List.mem_append_right _ hmember)
  simp only [FileSystem.readCommandData, hitems, mergedRecordsFrom_map_toJson 0 hrecords,
    Except.mapError, bind, Except.bind]

/-- What happens when a collection is written without a fault: its payloads are taken, the
directories are made, then its text and the empty file, and last the content of the file. -/
theorem run_writeCorpus_eq_ok {s s' : RunState} {output : Path} {u : Unit} :
    (writeCorpus output records).run.run s = (.ok u, s') ↔
      ∃ text bytes opened written, corpusText records = .ok text ∧
        Utf8.encode text = .ok bytes ∧ (s.files.ensureDirectories output.parent).1 = .ok () ∧
        (s.files.ensureDirectories output.parent).2.writeFile output [] = .ok opened ∧
        opened.writeFile output bytes = .ok written ∧ s' = { s with files := written } := by
  simp only [writeCorpus, corpusText_eq_ok_iff, Run.run_bind_eq_ok, Run.run_ask_eq_ok,
    Run.run_ensureDirectories_eq_ok, Run.run_change_eq_ok, mapError_eq_ok]
  constructor
  · rintro ⟨payloads, _, ⟨hpayloads, rfl⟩, -, _, ⟨hdirectories, rfl⟩, text, _, ⟨htext, rfl⟩, -, _,
      ⟨opened, hopen, rfl⟩, bytes, _, ⟨hencode, rfl⟩, written, hwrite, rfl⟩
    exact ⟨text, bytes, opened, written, ⟨payloads, hpayloads, htext⟩, hencode, hdirectories, hopen,
      hwrite, rfl⟩
  · intro h
    rcases h with ⟨text, bytes, opened, written, ⟨payloads, hpayloads, htext⟩, hencode,
      hdirectories, hopen, hwrite, rfl⟩
    exact ⟨payloads, _, ⟨hpayloads, rfl⟩, (), _, ⟨hdirectories, rfl⟩, text, _, ⟨htext, rfl⟩, (), _,
      ⟨opened, hopen, rfl⟩, bytes, _, ⟨hencode, rfl⟩, written, hwrite, rfl⟩

end CommandDocs
