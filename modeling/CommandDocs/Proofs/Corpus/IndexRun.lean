import CommandDocs.Corpus.Index
import CommandDocs.Proofs.Entries
import CommandDocs.Proofs.File.Contents

/-!
# Runs of an index

An index reads its records when it is first asked, from files that anyone may change
between two calls. A run is a sequence of calls and changes of files in any order. Its
invariant is carried from step to step; what follows is that an index which has its
records no longer looks at the files, and that an attempt which failed leaves it as
it was.
-/

namespace CommandDocs

/-- Something that happens to an index or to the files. -/
inductive IndexEvent where
  /-- The index is called. -/
  | call (call : IndexCall)
  /-- The files are changed to these, by writing or deleting any of them. -/
  | files (files : FileSystem)

/-- An index and the files as they are. -/
structure IndexWorld where
  /-- The index. -/
  index : CommandIndex
  /-- The files at this moment. -/
  files : FileSystem

namespace IndexWorld

/-- A new index before any file is read. -/
def start (data : Path) (baseline : Option Path) (files : FileSystem) : IndexWorld :=
  ⟨{ data, baseline }, files⟩

/-- What an event leads to. -/
def step (w : IndexWorld) : IndexEvent → IndexWorld
  | .call call => { w with index := (w.index.call w.files call).index }
  | .files files => { w with files }

/-- What a sequence of events leads to. -/
def after (w : IndexWorld) (events : List IndexEvent) : IndexWorld := events.foldl step w

end IndexWorld

/-- The answers that an index gives to the calls among the events from the records
that it has. -/
def CommandIndex.answers (index : CommandIndex) : List IndexEvent →
    List (Except Failure IndexReply)
  | [] => []
  | .call call :: events => .ok (call.reply index) :: index.answers events
  | .files _ :: events => index.answers events

/-- Every record stands under its name, and no name occurs twice. -/
structure LoadedRecords.IsKeyed (loaded : LoadedRecords) : Prop where
  /-- Names are distinct. -/
  nodup : loaded.records.keys.Nodup
  /-- The key of a record is its name. -/
  named : ∀ entry ∈ loaded.records, entry.1 = entry.2.name

/-- Records that are put under their names are keyed. -/
theorem LoadedRecords.isKeyed_ofRecords (source : IndexSource) (records : List MergedRecord) :
    (LoadedRecords.ofRecords source records).IsKeyed where
  nodup := Entries.nodup_keys_ofPairs _
  named := by
    intro h hentry
    rcases h with ⟨key, record⟩
    have hpair := Entries.mem_of_mem_ofPairs hentry
    obtain ⟨r, -, hr⟩ := List.mem_map.mp hpair
    rw [Prod.mk.injEq] at hr
    rw [← hr.1, ← hr.2]

namespace CommandIndex

variable {index : CommandIndex} {fs : FileSystem} {loaded : LoadedRecords}

/-- Whatever is read from the baseline is keyed. -/
theorem isKeyed_of_readBaseline {reason : Text}
    (h : (index.readBaseline fs reason).outcome = .ok (some loaded)) : loaded.IsKeyed := by
  unfold readBaseline at h
  split at h
  · cases h
  · split at h
    · cases h
      exact LoadedRecords.isKeyed_ofRecords _ _
    · cases h
    · cases h

/-- Whatever is read is keyed. -/
theorem isKeyed_of_readRecords (h : (index.readRecords fs).outcome = .ok (some loaded)) :
    loaded.IsKeyed := by
  unfold readRecords at h
  split at h
  · cases h
  · exact isKeyed_of_readBaseline h
  · split at h
    · cases h
      exact LoadedRecords.isKeyed_ofRecords _ _
    · exact isKeyed_of_readBaseline h
    · cases h

/-- The baseline gives the same records as long as it holds the same. -/
theorem readBaseline_congr {fs' : FileSystem}
    (h : ∀ p ∈ index.baseline, fs'.nodeAt? p = fs.nodeAt? p) (reason : Text) :
    index.readBaseline fs' reason = index.readBaseline fs reason := by
  unfold readBaseline
  cases hb : index.baseline with
  | none => rfl
  | some p =>
    have hitems := FileSystem.readItems_congr .baseline (h p hb)
    simp only [FileSystem.readBaseline, hitems]

/-- The index once it has done what it can to read its records. -/
def settled (index : CommandIndex) (fs : FileSystem) : CommandIndex :=
  index.after (index.load fs)

/-- An index that has its records does not look at the files. -/
theorem load_of_loaded (h : index.loaded = some loaded) :
    index.load fs = ⟨.ok (some loaded), []⟩ := by
  rw [load, h]

/-- An attempt that brings no records leaves the index as it was. -/
theorem settled_eq_self (h : ∀ loaded, (index.load fs).outcome ≠ .ok (some loaded)) :
    index.settled fs = index := by
  unfold settled after
  split
  · rename_i loaded hloaded
    exact absurd hloaded (h loaded)
  · rfl

/-- An attempt that brings records gives them to the index. -/
theorem settled_of_outcome (h : (index.load fs).outcome = .ok (some loaded)) :
    index.settled fs = { index with loaded := some loaded } := by
  rw [settled, after, h]

/-- An index that has records after an attempt has those that the attempt brought. -/
theorem outcome_of_settled (h : (index.settled fs).loaded = some loaded) :
    (index.load fs).outcome = .ok (some loaded) := by
  by_cases hsome : ∃ l, (index.load fs).outcome = .ok (some l)
  · obtain ⟨l, hl⟩ := hsome
    rw [settled_of_outcome hl] at h
    rw [hl, ← h]
  · have hself := settled_eq_self fun l hl => hsome ⟨l, hl⟩
    rw [hself] at h
    rw [load_of_loaded h]

/-- Calls that need no records have one answer. -/
theorem reply_of_needsRecords_eq_false {call : IndexCall} (h : call.needsRecords = false)
    (index other : CommandIndex) : call.reply index = call.reply other := by
  cases call with
  | reset => rfl
  | hover word =>
    have hword : word.isEmpty = true := by simpa [IndexCall.needsRecords] using h
    simp only [IndexCall.reply, hover, hword, if_true]
  | complete linePrefix word =>
    have hwanted : Completion.isWanted linePrefix = false := h
    simp only [IndexCall.reply, complete, Completion.items, hwanted, Bool.false_eq_true, if_false]
  | load => cases h
  | names => cases h
  | count => cases h
  | has name => cases h
  | lookup name => cases h

/-- A call that needs records settles the index, any other leaves it alone. -/
theorem index_call {call : IndexCall} (hcall : call ≠ .reset) :
    (index.call fs call).index = if call.needsRecords then index.settled fs else index := by
  rw [CommandIndex.call, if_neg hcall]
  by_cases hneeds : call.needsRecords = true
  · rw [if_pos hneeds, if_pos hneeds]
    cases ho : (index.load fs).outcome with
    | ok found => simp only [ho, settled]
    | error failure =>
      have hself : index.settled fs = index := settled_eq_self fun l hl => by
        rw [ho] at hl
        cases hl
      simp only [ho, hself]
  · rw [if_neg hneeds, if_neg hneeds]

/-- The answer is that of the settled index, unless reading the records broke off. -/
theorem reply_call {call : IndexCall} (hcall : call ≠ .reset)
    (hload : ∀ failure, (index.load fs).outcome ≠ .error failure) :
    (index.call fs call).reply = .ok (call.reply (index.settled fs)) := by
  rw [CommandIndex.call, if_neg hcall]
  by_cases hneeds : call.needsRecords = true
  · rw [if_pos hneeds]
    cases ho : (index.load fs).outcome with
    | ok found => simp only [ho, settled]
    | error failure => exact absurd ho (hload failure)
  · rw [if_neg hneeds]
    rw [Bool.not_eq_true] at hneeds
    rw [reply_of_needsRecords_eq_false hneeds index (index.settled fs)]

/-- A forgotten index is as new. -/
theorem index_call_reset : (index.call fs .reset).index = index.reset := by
  rw [CommandIndex.call, if_pos rfl]

/-! ### The invariant -/

/-- The records of an index, if it has any, are keyed. -/
def IsSound (index : CommandIndex) : Prop := ∀ loaded ∈ index.loaded, loaded.IsKeyed

/-- Settling keeps the invariant. -/
theorem IsSound.settled (h : index.IsSound) (fs : FileSystem) : (index.settled fs).IsSound := by
  intro loaded hloaded
  have houtcome := outcome_of_settled hloaded
  cases hl : index.loaded with
  | some l =>
    rw [load_of_loaded hl] at houtcome
    cases houtcome
    exact h _ hl
  | none =>
    rw [load, hl] at houtcome
    exact isKeyed_of_readRecords houtcome

/-- Every call keeps the invariant. -/
theorem IsSound.call (h : index.IsSound) (fs : FileSystem) (call : IndexCall) :
    (index.call fs call).index.IsSound := by
  by_cases hreset : call = .reset
  · rw [hreset, index_call_reset]
    intro loaded h
    cases h
  · rw [index_call hreset]
    split
    · exact h.settled fs
    · exact h

/-- Names are distinct. -/
theorem IsSound.nodup_names (h : index.IsSound) : index.names.Nodup := by
  unfold names records
  cases hl : index.loaded with
  | none => exact List.nodup_nil
  | some l => exact (h l hl).nodup

/-- The answer to a call for loading is whether there are records then. -/
theorem reply_load (hload : ∀ failure, (index.load fs).outcome ≠ .error failure) :
    (index.call fs .load).reply = .ok (.truth (index.settled fs).loaded.isSome) :=
  reply_call (by simp) hload

/-- A call for loading fails as the attempt to read the records does. -/
theorem reply_load_of_error {failure : Failure}
    (h : (index.load fs).outcome = .error failure) :
    (index.call fs .load).reply = .error failure := by
  have hneeds : IndexCall.load.needsRecords = true := rfl
  rw [CommandIndex.call, if_neg (by simp), if_pos hneeds]
  simp only [h]

/-- An attempt that comes to an end does not break off. -/
theorem outcome_ne_error_of_ok {found : Option LoadedRecords}
    (h : (index.load fs).outcome = .ok found) (failure : Failure) :
    (index.load fs).outcome ≠ .error failure := by
  rw [h]
  simp

end CommandIndex

namespace IndexWorld

/-- Every event keeps the invariant. -/
theorem isSound_step {w : IndexWorld} (h : w.index.IsSound) (event : IndexEvent) :
    (w.step event).index.IsSound := by
  cases event with
  | call call => exact h.call w.files call
  | files fs => exact h

/-- The invariant holds throughout every run. -/
theorem isSound_after {w : IndexWorld} (h : w.index.IsSound) (events : List IndexEvent) :
    (w.after events).index.IsSound := by
  induction events generalizing w with
  | nil => exact h
  | cons event rest ih => exact ih (isSound_step h event)

/-- A file of command data with one record. -/
def sampleFiles : FileSystem where
  nodes := [(["data"], .file ((Text.ofString
    "[\x7b\"name\": \"abs\", \"description\": \"d\", \"usage\": \"abs(x)\"\x7d]").flatMap
      Utf8.bytesOf))]
  workingDirectory := []

/-- Files of which none is command data. -/
def noFiles : FileSystem := ⟨[], []⟩

end IndexWorld

end CommandDocs
