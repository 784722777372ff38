import CommandDocs.Proofs.Corpus.Writing

/-!
# Stored collections

A collection that can be stored is read back as it was, and written again it gives the same bytes.
Integers are a case of their own: the writer converts them up to the same number of digits as the
reader, so that a longer one is not written, and would not be read from a file either.
-/

namespace CommandDocs

open Generate

namespace MergedRecord

/-- A record that a file can hold without loss, but for the length of its integers: its further
members are those of an object, its texts have no surrogates, its numbers are finite and its values
are nested no deeper than the writer goes. -/
structure IsStorable (r : MergedRecord) : Prop where
  /-- Further members have distinct names. -/
  distinct : r.extras.keys.Nodup
  /-- Further members are not declared. -/
  further : ∀ name ∈ r.extras.keys, name ∉ declaredNames
  /-- Names are distinct in every object inside them. -/
  names : ∀ member ∈ r.extras, member.2.Everywhere Json.HasDistinctNames
  /-- All texts of the record, in whatever place, are Unicode. -/
  texts : r.toJson.Everywhere Json.HasUnicode
  /-- All numbers in further members are finite. -/
  numbers : ∀ member ∈ r.extras, member.2.Everywhere Json.HasFinite
  /-- Further members are nested within the bound of the writer. -/
  depth : ∀ member ∈ r.extras, Json.NestedWithin Json.writableDepth member.2

/-- No integer in further members has more digits than are converted. -/
def HasShortIntegers (r : MergedRecord) : Prop :=
  ∀ member ∈ r.extras, member.2.Everywhere Json.HasShortIntegers

variable {r : MergedRecord}

/-- The further members of a record are such as are read when their integers are short. -/
theorem IsStorable.isProper (h : r.IsStorable) (hshort : r.HasShortIntegers) : r.IsProper where
  distinct := h.distinct
  further := h.further
  values member hmember :=
    Json.everywhere_asRead.mpr ⟨h.names member hmember, hshort member hmember⟩

/-- The further members that are read have short integers. -/
theorem IsProper.hasShortIntegers (h : r.IsProper) : r.HasShortIntegers :=
  fun member hmember => (Json.everywhere_asRead.mp (h.values member hmember)).2

/-- A record such as is read can be stored when its texts, numbers and depth allow it. -/
theorem IsProper.isStorable (h : r.IsProper) (htexts : r.toJson.Everywhere Json.HasUnicode)
    (hnumbers : ∀ member ∈ r.extras, member.2.Everywhere Json.HasFinite)
    (hdepth : ∀ member ∈ r.extras, Json.NestedWithin Json.writableDepth member.2) :
    r.IsStorable where
  distinct := h.distinct
  further := h.further
  names member hmember := (Json.everywhere_asRead.mp (h.values member hmember)).1
  texts := htexts
  numbers := hnumbers
  depth := hdepth

/-- Nothing is lost of a storable record. -/
theorem IsStorable.finitePart (h : r.IsStorable) : r.finitePart = r :=
  finitePart_of_everywhere h.numbers

/-- The further members of a storable record are accepted by the writer. -/
theorem IsStorable.checkWritable (h : r.IsStorable) :
    Json.checkWritableMembers Json.writableDepth r.extras = .ok () := by
  have htexts := h.texts
  rw [toJson_eq, Json.everywhere_object] at htexts
  refine Json.checkWritableMembers_eq_ok.mpr fun member hmember => ?_
  have hwhole := List.mem_append_right r.ownMembers hmember
  exact ⟨htexts.1 member hwhole,
    Json.checkWritable_of_nestedWithin (h.depth member hmember) (htexts.2 member hwhole)⟩

/-- The object of a storable record has distinct names in all places. -/
theorem IsStorable.hasDistinctNames (h : r.IsStorable) :
    r.toJson.Everywhere Json.HasDistinctNames := by
  rw [toJson_eq, Json.everywhere_object, List.forall_mem_append]
  exact ⟨nodup_keys h.distinct h.further,
    fun member hmember => (Json.everywhere_asRead.mp (r.asRead_ownMembers member hmember)).1,
    h.names⟩

/-- The integers in the object of a record are those of its further members. -/
theorem everywhere_toJson_hasShortIntegers :
    r.toJson.Everywhere Json.HasShortIntegers ↔ r.HasShortIntegers := by
  rw [toJson_eq, Json.everywhere_object, List.forall_mem_append]
  have hown : ∀ member ∈ r.ownMembers, member.2.Everywhere Json.HasShortIntegers :=
    fun member hmember => (Json.everywhere_asRead.mp (r.asRead_ownMembers member hmember)).2
  exact ⟨fun h => h.2.2, fun h => ⟨trivial, hown, h⟩⟩

end MergedRecord

variable {records : List MergedRecord} {s : RunState} {output : Path}

/-- A storable collection has the integers of its records. -/
theorem everywhere_collection_hasShortIntegers (hrecords : ∀ r ∈ records, r.IsStorable) :
    (MergedRecord.collection records).Everywhere Json.HasShortIntegers ↔
      ∀ r ∈ records, r.HasShortIntegers := by
  rw [MergedRecord.collection, Json.everywhere_array, List.forall_mem_map]
  refine (and_iff_right trivial).trans (forall₂_congr fun r hr => ?_)
  rw [(hrecords r hr).finitePart, MergedRecord.everywhere_toJson_hasShortIntegers]

/-- Storable records with short integers have a text, and the text has bytes. -/
theorem encode_corpusText (hrecords : ∀ r ∈ records, r.IsStorable)
    (hshort : ∀ r ∈ records, r.HasShortIntegers) :
    ∃ text bytes, corpusText records = .ok text ∧ Utf8.encode text = .ok bytes := by
  have htext : corpusText records = .ok _ :=
    corpusText_eq_ok.mpr ⟨rfl, fun r hr => (hrecords r hr).checkWritable,
      (everywhere_collection_hasShortIntegers hrecords).mpr hshort⟩
  refine ⟨_, _, htext, Utf8.encode_of_isUnicode ?_⟩
  rw [isUnicode_corpusText htext, MergedRecord.collection, Json.everywhere_array]
  refine ⟨trivial, fun item hitem => ?_⟩
  obtain ⟨r, hr, rfl⟩ := List.mem_map.mp hitem
  rw [(hrecords r hr).finitePart]
  exact (hrecords r hr).texts

/-- Storable records one of which has a long integer are not written. No file changes; at most
directories are made. -/
theorem run_writeCorpus_of_longInteger (hrecords : ∀ r ∈ records, r.IsStorable)
    (hlong : ¬∀ r ∈ records, r.HasShortIntegers) (hopen : s.files.CanOpen output) :
    ∃ s', (writeCorpus output records).run.run s = (.error (.json (.tooManyDigits none)), s') ∧
      ∀ place content, s'.files.node? place = some (.file content) ↔
        s.files.node? place = some (.file content) := by
  have hpayloads : records.mapM MergedRecord.payload = .ok _ :=
    MergedRecord.payloads_eq_ok.mpr ⟨rfl, fun r hr => (hrecords r hr).checkWritable⟩
  have htext := payloadText_of_longInteger
    (mt (everywhere_collection_hasShortIntegers hrecords).mp hlong)
  refine ⟨_, run_writeCorpus_eq_error.mpr (.noText hpayloads hopen.1 htext),
    fun place content => ?_⟩
  exact ⟨FileSystem.file_of_ensureDirectories,
    (FileSystem.grows_ensureDirectories s.files output.parent).2 place _⟩

/-- The text that storable records with a long integer would have is not read. -/
theorem read_collection_ne_ok (hrecords : ∀ r ∈ records, r.IsStorable)
    (hlong : ¬∀ r ∈ records, r.HasShortIntegers) (value : Json) :
    Json.read (Json.write Json.Layout.indented (MergedRecord.collection records) ++
      ("\n" : Text)) ≠ .ok value := by
  have hdistinct : (MergedRecord.collection records).Everywhere Json.HasDistinctNames := by
    rw [MergedRecord.collection, Json.everywhere_array, List.forall_mem_map]
    refine ⟨trivial, fun r hr => ?_⟩
    rw [(hrecords r hr).finitePart]
    exact (hrecords r hr).hasDistinctNames
  refine Json.read_write_ne_ok Json.isBlank_indented hdistinct
    (mt (everywhere_collection_hasShortIntegers hrecords).mp hlong) ?_ value
  exact List.forall_mem_singleton.mpr rfl

/-- Storable records with short integers are written wherever a file can be opened, are read from
the file as they were, category and further members included, and the records so read are written
as the same bytes, wherever that is. With a longer integer in one of them none is written, and no
file changes. -/
theorem writeCorpus_roundTrip (hrecords : ∀ r ∈ records, r.IsStorable)
    (hopen : s.files.CanOpen output) :
    ((∀ r ∈ records, r.HasShortIntegers) →
      ∃ s' bytes, (writeCorpus output records).run.run s = (.ok (), s') ∧
        s'.files.readFile output = .ok bytes ∧ s'.files.readCommandData output = .ok records ∧
        ∀ again, s'.files.readCommandData output = .ok again →
          ∀ (s₂ : RunState) (output₂ : Path), s₂.files.CanOpen output₂ →
            ∃ s₂', (writeCorpus output₂ again).run.run s₂ = (.ok (), s₂') ∧
              s₂'.files.readFile output₂ = .ok bytes) ∧
    ((¬∀ r ∈ records, r.HasShortIntegers) →
      ∃ s', (writeCorpus output records).run.run s = (.error (.json (.tooManyDigits none)), s') ∧
        ∀ place content, s'.files.node? place = some (.file content) ↔
          s.files.node? place = some (.file content)) := by
  refine ⟨fun hshort => ?_, fun hlong => run_writeCorpus_of_longInteger hrecords hlong hopen⟩
  obtain ⟨text, bytes, htext, hencode⟩ := encode_corpusText hrecords hshort
  have hwrite : ∀ (s : RunState) (output : Path), s.files.CanOpen output →
      ∃ s', (writeCorpus output records).run.run s = (.ok (), s') ∧
        s'.files.readFile output = .ok bytes := by
    intro s output h
    rcases h with ⟨hdirectories, opened, hopened⟩
    obtain ⟨written, hwritten⟩ := FileSystem.writeFile_of_writeFile hopened bytes
    exact ⟨_, run_writeCorpus_eq_ok.mpr
      ⟨text, bytes, opened, written, htext, hencode, hdirectories, hopened, hwritten, rfl⟩,
      FileSystem.readFile_of_writeFile hwritten⟩
  obtain ⟨s', hrun, hfile⟩ := hwrite s output hopen
  have hread : s'.files.readCommandData output = .ok records := by
    rw [readCommandData_of_corpusText hfile htext hencode fun r hr =>
      (hrecords r hr).isProper (hshort r hr)]
    congr 1
    conv_rhs => rw [← List.map_id records]
    exact List.map_congr_left fun r hr => (hrecords r hr).finitePart
  refine ⟨s', bytes, hrun, hfile, hread, fun again hagain s₂ output₂ hopen₂ => ?_⟩
  rw [hread, Except.ok.injEq] at hagain
  rw [← hagain]
  exact hwrite s₂ output₂ hopen₂

/-- A record with a null category and further members that hold several kinds of value. -/
def sampleRecord : MergedRecord where
  name := "abs"
  description := "magnitude"
  usage := "abs(x)"
  category := .none
  extras := [("tags", .array [.bool true, .text "\r\n", .float (.zero true)]),
    ("since", .object [("year", .int (-300))])]
  rows := [⟨"abs(x)", "of a number"⟩]

/-- The sample record can be stored. -/
theorem isStorable_sampleRecord : sampleRecord.IsStorable where
  distinct := by decide
  further := by decide
  names := by simp [sampleRecord, Json.everywhere_array, Json.everywhere_object,
    Json.HasDistinctNames, Entries.keys]
  texts := by simp [MergedRecord.toJson, sampleRecord, BaselineRecord.declaredMembers,
    Category.members, MergedRecord.documentationMembers, SyntaxRow.toJson, Json.everywhere_object,
    Json.everywhere_array, Json.HasUnicode]
  numbers := by
    simp [sampleRecord, Json.everywhere_array, Json.everywhere_object, Json.HasFinite]
    rfl
  depth := by simp [sampleRecord, Json.NestedWithin, Json.writableDepth]

/-- The integer in it is short. -/
theorem hasShortIntegers_sampleRecord : sampleRecord.HasShortIntegers := by
  have hyear : (300 : ℕ) < 10 ^ Json.digitBound :=
    Nat.lt_of_lt_of_le (by decide) (Nat.pow_le_pow_right (by decide) (by decide : 3 ≤ _))
  simpa [MergedRecord.HasShortIntegers, sampleRecord, Json.everywhere_array, Json.everywhere_object,
    Json.HasShortIntegers] using hyear

/-- A run in an empty directory. -/
def emptyState : RunState := { files := ⟨[], []⟩, clock := .epoch }

/-- A file can be opened in an empty directory. -/
theorem canOpen_emptyState : emptyState.files.CanOpen ⟨.relative, ["out.json"]⟩ := by
  rw [FileSystem.CanOpen, FileSystem.ensureDirectories]
  exact ⟨rfl, _, rfl⟩

/-- The sample record is written to an empty directory and read back. -/
theorem writeCorpus_sampleRecord : ∃ s' bytes,
    (writeCorpus ⟨.relative, ["out.json"]⟩ [sampleRecord]).run.run emptyState = (.ok (), s') ∧
      s'.files.readFile ⟨.relative, ["out.json"]⟩ = .ok bytes ∧
      s'.files.readCommandData ⟨.relative, ["out.json"]⟩ = .ok [sampleRecord] := by
  have hrecords : ∀ r ∈ [sampleRecord], r.IsStorable :=
    List.forall_mem_singleton.mpr isStorable_sampleRecord
  obtain ⟨s', bytes, hrun, hfile, hread, -⟩ := (writeCorpus_roundTrip hrecords canOpen_emptyState).1
    (List.forall_mem_singleton.mpr hasShortIntegers_sampleRecord)
  exact ⟨s', bytes, hrun, hfile, hread⟩

/-- The least integer that is too long. -/
def longInteger : ℤ := (10 ^ Json.digitBound : ℕ)

/-- A record with this integer. -/
def longRecord : MergedRecord where
  name := "abs"
  description := "d"
  usage := "abs(x)"
  extras := [("n", .int longInteger)]

/-- But for this integer the record can be stored. -/
theorem isStorable_longRecord : longRecord.IsStorable where
  distinct := by decide
  further := by decide
  names := by simp [longRecord, Json.HasDistinctNames]
  texts := by simp [MergedRecord.toJson, longRecord, BaselineRecord.declaredMembers,
    Category.members, MergedRecord.documentationMembers, Json.everywhere_object,
    Json.everywhere_array, Json.HasUnicode]
  numbers := by simp [longRecord, Json.HasFinite]
  depth := by simp [longRecord, Json.NestedWithin, Json.writableDepth]

/-- The record meets all other conditions, and is neither written to an empty directory nor read
from a file that holds the text which it would have. -/
theorem writeCorpus_longRecord : longRecord.IsStorable ∧
    (∃ s', (writeCorpus ⟨.relative, ["out.json"]⟩ [longRecord]).run.run emptyState =
        (.error (.json (.tooManyDigits none)), s') ∧
      ∀ content, s'.files.readFile ⟨.relative, ["out.json"]⟩ ≠ .ok content) ∧
    ∀ (fs : FileSystem) (p : Path), fs.readText p = .ok (Json.write Json.Layout.indented
        (MergedRecord.collection [longRecord]) ++ ("\n" : Text)) →
      ∀ records, fs.readCommandData p ≠ .ok records := by
  have hrecords : ∀ r ∈ [longRecord], r.IsStorable :=
    List.forall_mem_singleton.mpr isStorable_longRecord
  have hlong : ¬∀ r ∈ [longRecord], r.HasShortIntegers := by
    intro hshort
    have hmember := hshort longRecord List.mem_cons_self _ List.mem_cons_self
    rw [Json.everywhere_int, Json.HasShortIntegers, longInteger, Int.natAbs_natCast] at hmember
    exact Nat.lt_irrefl _ hmember
  refine ⟨isStorable_longRecord, ?_, fun fs p htext records hread => ?_⟩
  · obtain ⟨s', hrun, hfiles⟩ := run_writeCorpus_of_longInteger hrecords hlong canOpen_emptyState
    refine ⟨s', hrun, fun content hread => ?_⟩
    obtain ⟨place, hlocate⟩ := FileSystem.readFile_eq_ok.mp hread
    have hfile := (hfiles place content).mp (FileSystem.locate_iff.mp hlocate).2.present
    rw [FileSystem.node?] at hfile
    split at hfile <;> cases hfile
  · rw [FileSystem.readCommandData, bind_eq_ok] at hread
    obtain ⟨items, hitems, -⟩ := hread
    obtain ⟨text, htext', hvalue⟩ := FileSystem.readItems_eq_ok.mp hitems
    rw [htext, Except.ok.injEq] at htext'
    rw [← htext'] at hvalue
    exact read_collection_ne_ok hrecords hlong _ hvalue

end CommandDocs
