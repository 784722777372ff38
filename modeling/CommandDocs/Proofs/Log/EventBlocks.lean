import CommandDocs.Corpus.Events
import CommandDocs.Corpus.Run
import CommandDocs.Proofs.Log.Sections
import CommandDocs.Proofs.Text.Utf8

/-!
# Blocks of events

Events with the fields that the format knows are written as blocks. A command writes the blocks
of its events in order; an event whose block has no written form leaves none, but the block of the
next event is not the first one of the command any more.
-/

namespace CommandDocs

namespace LogFormat

variable {event text : Text} {fields : Entries Text Json} {r : LogRecord} {e : LogEvent}
  {time clock : Instant} {isFirst : Bool}

/-- The fields of an event are those that the format knows for its name. -/
def IsKnown (e : LogEvent) : Prop := eventKeys.find? e.name = some (Entries.keys e.fields)

/-- The events that a generation run reports. -/
inductive IsOfRun : LogEvent → Prop
  /-- The run begins. -/
  | start (baseline pages output : Path) (suffix : Text) :
    IsOfRun (.runStart baseline pages output suffix)
  /-- The baseline is read. -/
  | baseline (file : Path) (records : Nat) : IsOfRun (.baselineLoaded file records)
  /-- A page is passed over. -/
  | skip (page : Path) (reason : Text) : IsOfRun (.pageSkipped page reason)
  /-- All pages are looked at. -/
  | scan (directory : Path) (found parsed skipped : Nat) :
    IsOfRun (.pagesScanned directory found parsed skipped)
  /-- Every command is merged. -/
  | merge (total enhanced fallback : Nat) : IsOfRun (.mergeComplete total enhanced fallback)
  /-- The corpus is written. -/
  | output (file : Path) (records : Nat) : IsOfRun (.outputWritten file records)

/-- The format knows the fields of the events of a run. -/
theorem IsOfRun.isKnown (h : IsOfRun e) : IsKnown e := by
  cases h <;> rfl

/-- A key that is shown on one line which cannot be taken for a heading. -/
def IsPlainKey (key : Text) : Prop :=
  CodePoint.scalar '\n' ∉ key ∧ key.head? ≠ some (.scalar '=')

instance (key : Text) : Decidable (IsPlainKey key) :=
  inferInstanceAs (Decidable (_ ∧ _))

/-- The fields that every record has are plain. -/
theorem isPlainKey_of_standard : ∀ key ∈ standardKeys, IsPlainKey key := by decide

/-- The names of a known event and of its fields are plain and distinct, and no field bears the
name under which the event is told. -/
theorem IsKnown.plain (h : IsKnown e) : CodePoint.scalar '\n' ∉ e.name ∧
    (Entries.keys e.fields).Nodup ∧ eventKey ∉ Entries.keys e.fields ∧
      ∀ key ∈ Entries.keys e.fields, IsPlainKey key := by
  have htable : ∀ entry ∈ eventKeys, CodePoint.scalar '\n' ∉ entry.1 ∧ entry.2.Nodup ∧
      eventKey ∉ entry.2 ∧ ∀ key ∈ entry.2, IsPlainKey key := by decide
  exact htable _ (Entries.mem_of_find? h)

/-- A plain key is shown on a line that is not empty and no heading. -/
theorem IsPlainKey.showField {key : Text} (h : IsPlainKey key) :
    CodePoint.scalar '\n' ∉ showField fields ": " key ∧ showField fields ": " key ≠ [] ∧
      ¬IsHeading (showField fields ": " key) := by
  refine ⟨newline_not_mem_showField (by decide) h.1, fun hnil => ?_, fun hheading => ?_⟩
  · rw [LogFormat.showField, List.append_assoc, List.append_eq_nil_iff] at hnil
    exact absurd (List.append_eq_nil_iff.mp hnil.2).1 (by decide)
  · -- a heading begins with an equality sign, and the mark behind the key does not
    rw [IsHeading, LogFormat.showField, List.append_assoc] at hheading
    obtain ⟨rest, hrest⟩ := hheading
    have hhead : some (CodePoint.scalar '=') = (key ++ (": " ++ _)).head? :=
      congrArg List.head? hrest
    rw [List.head?_append] at hhead
    cases hkey : key.head? with
    | some c =>
      rw [hkey] at hhead
      exact h.2 (hkey.trans hhead.symm)
    | none =>
      rw [hkey] at hhead
      have hmark : CodePoint.scalar '=' = .scalar ':' := Option.some.inj hhead
      exact absurd hmark (by decide)

/-- Fields are supplied by a message that is read. -/
theorem exists_read_of_messageFields {message : Text} {members : Entries Text Json}
    (h : messageFields message = .ok (some members)) : ∃ value, Json.read message = .ok value := by
  rw [messageFields] at h
  cases hread : Json.read message with
  | ok value => exact ⟨value, rfl⟩
  | error fault =>
    rw [hread] at h
    cases fault <;> split at h <;> cases h

/-- What the record of a known event shows: one line with a name, and plain keys. A message that is
not read is shown as a field of its own. -/
theorem plain_of_fieldsOf (htime : r.time = .ok time) (hmessage : r.message = e.message)
    (hlogger : r.logger = programName) (hknown : IsKnown e)
    (h : fieldsOf r = .ok (event, fields)) :
    CodePoint.scalar '\n' ∉ event ∧ ∀ key ∈ orderedKeys event fields, IsPlainKey key := by
  obtain ⟨hname, hnodup, hevent, hplain⟩ := hknown.plain
  cases hsupplied : messageFields e.message with
  | error fault =>
    rw [fieldsOf, htime, hmessage, hsupplied] at h
    cases h
  | ok supplied =>
    cases supplied with
    | none =>
      rw [fieldsOf, htime, hmessage, hsupplied] at h
      obtain ⟨hevent, hfields⟩ := Prod.mk.inj (Except.ok.inj h)
      have hkeys : fields.keys = standardKeys ++ [("message" : Text)] := by
        rw [← hfields]
        rfl
      have hprogram : CodePoint.scalar '\n' ∉ programName := by decide
      have hall : ∀ key ∈ standardKeys ++ [("message" : Text)], IsPlainKey key := by decide
      have hdistinct : fields.keys.Nodup := by
        rw [hkeys]
        decide
      refine ⟨hevent ▸ hlogger ▸ hprogram, fun key hkey => hall key ?_⟩
      obtain ⟨value, hvalue, -⟩ := ((lists_orderedKeys event hdistinct).mem_iff key).mp hkey
      rw [← hkeys]
      exact Entries.isSome_find?.mp (Option.isSome_of_eq_some hvalue)
    | some members =>
      obtain ⟨fields', hfields, hkeys, hvalue⟩ := LogRecord.exists_fieldsOf htime hmessage hnodup
        hevent (exists_read_of_messageFields hsupplied)
      rw [h] at hfields
      cases hfields
      refine ⟨hname, fun key hkey => ?_⟩
      have hshown := ((lists_orderedKeys e.name hkeys).mem_iff key).mp hkey
      exact (LogRecord.mem_keys_of_hasValue ((LogRecord.hasValue_iff (hvalue key)).mpr
        hshown)).elim (hplain key) (isPlainKey_of_standard key)

/-- The block of a known event has the shape of a block. -/
theorem isBlock_of_block (htime : r.time = .ok time) (hmessage : r.message = e.message)
    (hlogger : r.logger = programName) (herror : r.error = none) (hknown : IsKnown e)
    (h : block r = .ok text) : IsBlock (Text.splitOn (.scalar '\n') text) := by
  cases hfields : fieldsOf r with
  | error fault =>
    rw [block, hfields] at h
    cases h
  | ok found =>
    obtain ⟨event, fields⟩ := found
    obtain ⟨hevent, hplain⟩ := plain_of_fieldsOf htime hmessage hlogger hknown hfields
    rw [block_of_fields hfields herror] at h
    cases h
    have hheading : CodePoint.scalar '\n' ∉ ("=== " ++ event ++ " ===" : Text) := by
      have hopening : CodePoint.scalar '\n' ∉ ("=== " : Text) := by decide
      have hclosing : CodePoint.scalar '\n' ∉ (" ===" : Text) := by decide
      simp only [List.mem_append, not_or]
      exact ⟨⟨hopening, hevent⟩, hclosing⟩
    have hshown : ∀ line ∈ (orderedKeys event fields).map (showField fields ": "),
        CodePoint.scalar '\n' ∉ line ∧ line ≠ [] ∧ ¬IsHeading line := by
      intro line hline
      obtain ⟨key, hkey, rfl⟩ := List.mem_map.mp hline
      exact (hplain key hkey).showField
    have hunbroken := fun line hline => (hshown line hline).1
    have hsplit := splitOn_separated hheading hunbroken true
    rw [separated, if_pos rfl, if_pos rfl, List.nil_append] at hsplit
    rw [hsplit]
    exact ⟨⟨event, _, rfl, fun line hline => (hshown line hline).2⟩,
      List.forall_mem_cons.mpr ⟨hheading, hunbroken⟩⟩

/-- The lines of the block that an event leaves in a log file, if it has a written form. -/
def linesOf? (clock : Instant) (e : LogEvent) : Option (List Text) :=
  match block { message := e.message, level := e.level, time := .ok clock } with
  | .error _ => none
  | .ok text => if text.IsUnicode then some (Text.splitOn (.scalar '\n') text) else none

/-- The blocks that events leave, one after the other. -/
def entriesOf (clock : Instant) (isFirst : Bool) : List LogEvent → List Entry
  | [] => []
  | e :: rest =>
    ((linesOf? clock e).map (Entry.mk isFirst)).toList ++ entriesOf clock false rest

/-- One more event leaves its block behind the others. -/
theorem entriesOf_concat (events : List LogEvent) (e : LogEvent) :
    entriesOf clock isFirst (events ++ [e]) = entriesOf clock isFirst events ++
      ((linesOf? clock e).map (Entry.mk (isFirst && events.isEmpty))).toList := by
  induction events generalizing isFirst with
  | nil => simp only [List.nil_append, entriesOf, List.append_nil, List.isEmpty_nil, Bool.and_true]
  | cons first rest ih =>
    simp only [List.cons_append, entriesOf, ih, Bool.false_and, List.isEmpty_cons, Bool.and_false,
      List.append_assoc]

/-- Known events leave blocks. -/
theorem isBlock_of_mem_entriesOf {events : List LogEvent} (hknown : ∀ e ∈ events, IsKnown e) :
    ∀ entry ∈ entriesOf clock isFirst events, IsBlock entry.lines := by
  induction events generalizing isFirst with
  | nil => exact List.forall_mem_nil _
  | cons e rest ih =>
    rw [List.forall_mem_cons] at hknown
    rw [entriesOf, List.forall_mem_append]
    refine ⟨fun entry hentry => ?_, ih hknown.2⟩
    obtain ⟨lines, hlines, rfl⟩ := Option.map_eq_some_iff.mp (Option.mem_toList.mp hentry)
    rw [linesOf?] at hlines
    split at hlines
    · cases hlines
    · rename_i text hblock
      split at hlines
      · cases hlines
        exact isBlock_of_block rfl rfl rfl rfl hknown.1 hblock
      · cases hlines

/-- The lines of a text, written as a block. -/
theorem unlines_written (isFirst : Bool) (text : Text) :
    Text.unlines (Entry.written ⟨isFirst, Text.splitOn (.scalar '\n') text⟩) =
      separated isFirst text ++ "\n" := by
  have hlines : Text.unlines (Text.splitOn (.scalar '\n') text) = text ++ "\n" := by
    obtain ⟨hne, -, hjoin⟩ := Text.splitOn_eq_iff.mp
      (rfl : Text.splitOn (.scalar '\n') text = _)
    have htext : Text.join "\n" (Text.splitOn (.scalar '\n') text) = text := hjoin
    have hended := Text.join_append_newline hne
    rw [htext] at hended
    exact hended.symm
  cases isFirst with
  | true => exact hlines
  | false => exact (Text.unlines_cons [] _).trans (congrArg (CodePoint.scalar '\n' :: ·) hlines)

end LogFormat

namespace RunState

open LogFormat

/-- What an event adds to a log file is the block that it leaves. -/
theorem blockOf_eq (s : RunState) (log : LogFile) (e : LogEvent) :
    let text := Text.unlines
      (fileLines ((linesOf? s.clock e).map (Entry.mk log.isFresh)).toList)
    text.IsUnicode ∧ s.blockOf log e = text.flatMap Utf8.bytesOf := by
  have hnone : Text.IsUnicode (Text.unlines (fileLines [])) ∧
      [] = (Text.unlines (fileLines [])).flatMap Utf8.bytesOf := ⟨Text.isUnicode_nil, rfl⟩
  rw [blockOf, linesOf?, recordOf]
  cases block { message := e.message, level := e.level, time := .ok s.clock } with
  | error fault => exact hnone
  | ok shown =>
    have hwritten : Text.unlines (fileLines [⟨log.isFresh, Text.splitOn (.scalar '\n') shown⟩]) =
        separated log.isFresh shown ++ "\n" := by
      rw [fileLines, List.map_singleton, List.flatten_singleton, unlines_written]
    have hunicode : Text.IsUnicode (separated log.isFresh shown ++ "\n") ↔ shown.IsUnicode := by
      have hnewline : Text.IsUnicode "\n" := Text.isUnicode_ofString _
      rw [Text.isUnicode_append, and_iff_left hnewline, separated]
      split
      · rfl
      · rw [Text.isUnicode_cons]
        exact and_iff_right rfl
    dsimp only
    by_cases hshown : shown.IsUnicode
    · rw [if_pos hshown, Option.map_some, Option.toList_some, hwritten,
        Utf8.encode_of_isUnicode (hunicode.mpr hshown)]
      exact ⟨hunicode.mpr hshown, rfl⟩
    · obtain ⟨e, hencode⟩ := Utf8.encode_of_not_isUnicode fun h => hshown (hunicode.mp h)
      rw [if_neg hshown, hencode]
      exact hnone

end RunState

end CommandDocs
