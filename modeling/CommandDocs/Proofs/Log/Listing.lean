import CommandDocs.Proofs.Json.Characters
import CommandDocs.Proofs.Log.Shown
import CommandDocs.Proofs.Text.Lines
import CommandDocs.Proofs.Text.Order
import CommandDocs.Proofs.Text.Parts

/-!
# The lines of a log record

A record of an event is shown under a heading, with one line for each of its keys. The list of
keys depends on the name of the event and on which keys have a value, and on nothing that stands
in a value: the line of a key shows its value with an escape for each newline.
-/

namespace CommandDocs

/-- No newline stands in a text whose newlines were replaced. -/
theorem Text.not_mem_replaceEach {target : CodePoint} {replacement : Text}
    (h : target ∉ replacement) (t : Text) : target ∉ replaceEach target replacement t := by
  intro hmem
  obtain ⟨c, -, hc⟩ := List.mem_flatMap.mp hmem
  by_cases htarget : c = target
  · rw [if_pos htarget] at hc
    exact h hc
  · rw [if_neg htarget, List.mem_singleton] at hc
    exact htarget hc.symm

/-- The name of a level is one line. -/
theorem Level.newline_not_mem_name (level : Level) : CodePoint.scalar '\n' ∉ level.name := by
  have hnumber : CodePoint.scalar '\n' ∉ Text.ofInt level := by
    intro hmem
    have hplain := (Text.isPlain_ofInt level _ hmem).1
    revert hplain
    decide
  have hlevel : CodePoint.scalar '\n' ∉ ("Level " : Text) := by decide
  rw [name]
  repeat' split
  all_goals first
    | decide
    | exact fun hmem => (List.mem_append.mp hmem).elim hlevel hnumber

namespace LogFormat

variable {event : Text} {p q : Text → Prop} {keys keys' : List Text} {fields : Entries Text Json}

/-! ### The keys in order -/

/-- The keys that are shown, each of them once: those that the event prefers come first, in the
order of preference, and the others are sorted. -/
structure Lists (event : Text) (isShown : Text → Prop) (keys : List Text) : Prop where
  /-- No key is listed twice. -/
  nodup : keys.Nodup
  /-- No key is lost, and none is added. -/
  mem_iff : ∀ key, key ∈ keys ↔ isShown key
  /-- Preferred keys come first. -/
  ordered : ∃ others, keys = (preferredKeys event).filter (fun key => keys.contains key) ++ others ∧
    others.Pairwise fun key next => Text.le key next = true

/-- There is one list of the keys that are shown. -/
theorem Lists.eq_of_iff (h : Lists event p keys) (h' : Lists event q keys')
    (hsame : ∀ key, p key ↔ q key) : keys = keys' := by
  have hmem (key : Text) : key ∈ keys ↔ key ∈ keys' := by
    rw [h.mem_iff, h'.mem_iff, hsame]
  have hcontains : (fun key => keys.contains key) = fun key => keys'.contains key := by
    funext key
    rw [Bool.eq_iff_iff, List.contains_iff_mem, List.contains_iff_mem, hmem]
  obtain ⟨others, hkeys, hsorted⟩ := h.ordered
  obtain ⟨others', hkeys', hsorted'⟩ := h'.ordered
  have hperm := (List.perm_ext_iff_of_nodup h.nodup h'.nodup).mpr hmem
  rw [hkeys, hkeys', hcontains, List.perm_append_left_iff] at hperm
  have hothers : others = others' :=
    hperm.eq_of_pairwise (fun _ _ _ _ => Text.le_antisymm) hsorted hsorted'
  rw [hkeys, hkeys', hcontains, hothers]

/-- No event prefers a key twice. -/
theorem nodup_preferredKeys (event : Text) : (preferredKeys event).Nodup := by
  have htable : ∀ entry ∈ eventKeys, (standardKeys ++ entry.2).Nodup := by decide
  rw [preferredKeys]
  cases hfind : eventKeys.find? event with
  | none => exact nodup_standardKeys
  | some own => exact htable _ (Entries.mem_of_find? hfind)

/-- A key is shown when it has a value. -/
theorem isShown_iff {key : Text} : isShown fields key = true ↔
    ∃ value, Entries.find? key fields = some value ∧ value ≠ .null := by
  rw [isShown]
  cases Entries.find? key fields with
  | none => simp
  | some value => cases value <;> simp

/-- The keys of a record are listed in order. -/
theorem lists_orderedKeys (event : Text) (hkeys : fields.keys.Nodup) :
    Lists event (fun key => ∃ value, Entries.find? key fields = some value ∧ value ≠ .null)
      (orderedKeys event fields) := by
  obtain ⟨others, hperm, hsorted, hordered⟩ : ∃ others : List Text,
      others.Perm ((fields.keys.filter fun key => !(preferredKeys event).contains key).filter
        (isShown fields)) ∧ (others.Pairwise fun key next => Text.le key next = true) ∧
      orderedKeys event fields = (preferredKeys event).filter (isShown fields) ++ others :=
    ⟨_, Text.sortOn_perm id _, Text.pairwise_sortOn id _, rfl⟩
  -- the others are all keys that are shown and not preferred, since a key that is shown is there
  have hothers (key : Text) :
      key ∈ others ↔ key ∉ preferredKeys event ∧ isShown fields key = true := by
    rw [hperm.mem_iff, List.mem_filter, List.mem_filter, Bool.not_eq_true', ← Bool.not_eq_true,
      List.contains_iff_mem, and_assoc]
    refine and_iff_right_of_imp fun h => ?_
    obtain ⟨value, hvalue, -⟩ := isShown_iff.mp h.2
    rw [← Entries.isSome_find?, hvalue]
    rfl
  have hmem (key : Text) : key ∈ orderedKeys event fields ↔ isShown fields key = true := by
    rw [hordered, List.mem_append, hothers, List.mem_filter, ← or_and_right]
    exact and_iff_right (Classical.em _)
  refine ⟨?_, fun key => (hmem key).trans isShown_iff, others, ?_, hsorted⟩
  · rw [hordered, List.nodup_append]
    refine ⟨(nodup_preferredKeys event).filter _, ?_, fun key hkey other hother heq => ?_⟩
    · exact hperm.nodup_iff.mpr ((hkeys.filter _).filter _)
    · exact ((hothers other).mp hother).1 (heq ▸ (List.mem_filter.mp hkey).1)
  · have hcontains : (fun key => (orderedKeys event fields).contains key) = isShown fields := by
      funext key
      rw [Bool.eq_iff_iff, List.contains_iff_mem, hmem]
    rw [hcontains]
    exact hordered

/-! ### The lines -/

/-- A key and its value are shown on one line, whatever the value is. -/
theorem newline_not_mem_showField {mark key : Text} (hmark : CodePoint.scalar '\n' ∉ mark)
    (hkey : CodePoint.scalar '\n' ∉ key) :
    CodePoint.scalar '\n' ∉ showField fields mark key := by
  have hescape : CodePoint.scalar '\n' ∉ ("\\n" : Text) := by decide
  rw [showField, List.mem_append, List.mem_append, not_or, not_or, showValue]
  exact ⟨⟨hkey, hmark⟩, Text.not_mem_replaceEach hescape _⟩

/-- The line of a key in a record of an event: behind the key and a colon stands what is shown for
its value, with an escape for each newline. -/
def IsLineOf (r : LogRecord) (time : Instant) (e : LogEvent) (key line : Text) : Prop :=
  ∃ value shown, r.valueOf time e key = some value ∧ value.ShownAs shown ∧
    line = key ++ ": " ++ shown.flatMap fun c => if c = .scalar '\n' then "\\n" else [c]

/-- A field with a value is shown on such a line. -/
theorem isLineOf_showField {r : LogRecord} {time : Instant} {e : LogEvent} {key : Text}
    (hvalue : Entries.find? key fields = (r.valueOf time e key).map LogValue.toJson)
    (hkey : r.HasValue time e key) : IsLineOf r time e key (showField fields ": " key) := by
  obtain ⟨value, hfound, -⟩ := hkey
  refine ⟨value, _, hfound, value.shownAs_display, ?_⟩
  rw [showField, hvalue, hfound]
  rfl

/-- A block is the heading and a line for each key. -/
theorem splitOn_separated {heading : Text} {shown : List Text}
    (hheading : CodePoint.scalar '\n' ∉ heading)
    (hshown : ∀ line ∈ shown, CodePoint.scalar '\n' ∉ line) (isFirst : Bool) :
    Text.splitOn (.scalar '\n') (separated isFirst (Text.join "\n" (heading :: shown))) =
      (if isFirst then [] else [[]]) ++ heading :: shown := by
  have hlines : Text.splitOn (.scalar '\n') (Text.join "\n" (heading :: shown)) =
      heading :: shown :=
    Text.splitOn_eq_iff.mpr ⟨List.cons_ne_nil _ _, List.forall_mem_cons.mpr ⟨hheading, hshown⟩, rfl⟩
  cases isFirst with
  | true => exact hlines
  | false =>
    have hbehind := Text.splitOn_append_separator (List.not_mem_nil (a := .scalar '\n'))
      (Text.join "\n" (heading :: shown))
    rw [hlines] at hbehind
    exact hbehind

/-- A record without an error is shown as a block of its fields. -/
theorem block_of_fields {r : LogRecord} (hfields : fieldsOf r = .ok (event, fields))
    (herror : r.error = none) :
    block r = .ok (Text.join "\n" (("=== " ++ event ++ " ===" : Text) ::
      (orderedKeys event fields).map (showField fields ": "))) := by
  rw [block, hfields, herror]
  exact congrArg (fun shown => Except.ok (Text.join "\n" shown)) (List.append_nil _)

/-- A compact record is one line, when the event and the keys are. -/
theorem exists_compact_of_fields {r : LogRecord} (hfields : fieldsOf r = .ok (event, fields))
    (hevent : CodePoint.scalar '\n' ∉ event)
    (hkeys : ∀ key ∈ orderedKeys event fields, CodePoint.scalar '\n' ∉ key) :
    ∃ line, compact r = .ok line ∧ CodePoint.scalar '\n' ∉ line := by
  let keys := (orderedKeys event fields).filter fun key => !standardKeys.contains key
  let details := Text.join " " (keys.map (showField fields "="))
  have hdetails : details.Satisfies (· ≠ .scalar '\n') := by
    have hspace : Text.Satisfies (· ≠ .scalar '\n') " " := List.forall_mem_singleton.mpr (by decide)
    refine Text.satisfies_join hspace fun piece hpiece c hc heq => ?_
    obtain ⟨key, hkey, rfl⟩ := List.mem_map.mp hpiece
    exact newline_not_mem_showField (by decide) (hkeys key (List.mem_filter.mp hkey).1) (heq ▸ hc)
  have hline : CodePoint.scalar '\n' ∉ r.level.name ++ " " ++ event ++ " " ++ details := by
    have hspace : CodePoint.scalar '\n' ∉ (" " : Text) := by decide
    simp only [List.mem_append, not_or]
    exact ⟨⟨⟨⟨r.level.newline_not_mem_name, hspace⟩, hevent⟩, hspace⟩,
      fun hmem => hdetails _ hmem rfl⟩
  refine ⟨Text.trimEnd (r.level.name ++ " " ++ event ++ " " ++ details), ?_, fun hmem => ?_⟩
  · rw [compact, hfields]
    rfl
  · exact hline ((List.rdropWhile_prefix CodePoint.isBlank _).subset hmem)

/-- A record of an event is shown under the name of the event with one line for each key that has
a value, and compactly on one line. The keys in their order are settled by the name of the event
and by which keys have a value: no value adds a line, removes one or moves one. Each line shows the
value of its key. -/
theorem block_of_message (r : LogRecord) (e : LogEvent) (time : Instant)
    (htime : r.time = .ok time) (herror : r.error = none) (hmessage : r.message = e.message)
    (hkeys : (Entries.keys e.fields).Nodup) (hevent : eventKey ∉ Entries.keys e.fields)
    (hname : CodePoint.scalar '\n' ∉ e.name)
    (hplain : ∀ key ∈ Entries.keys e.fields, CodePoint.scalar '\n' ∉ key)
    (hread : ∃ value, Json.read e.message = .ok value) :
    ∃ keys lines text line,
      Lists e.name (r.HasValue time e) keys ∧
      (∀ others, Lists e.name (r.HasValue time e) others → others = keys) ∧
      List.Forall₂ (IsLineOf r time e) keys lines ∧
      block r = .ok text ∧
      (∀ isFirst, Text.splitOn (.scalar '\n') (separated isFirst text) =
        (if isFirst then [] else [[]]) ++ ("=== " ++ e.name ++ " ===" : Text) :: lines) ∧
      compact r = .ok line ∧ CodePoint.scalar '\n' ∉ line := by
  obtain ⟨fields, hfields, hnodup, hvalue⟩ :=
    LogRecord.exists_fieldsOf htime hmessage hkeys hevent hread
  have hlists : Lists e.name (r.HasValue time e) (orderedKeys e.name fields) := by
    have h := lists_orderedKeys e.name hnodup
    simp only [← LogRecord.hasValue_iff (hvalue _)] at h
    exact h
  have hlisted : ∀ key ∈ orderedKeys e.name fields, CodePoint.scalar '\n' ∉ key := by
    intro key hkey
    have hstandard : ∀ key ∈ standardKeys, CodePoint.scalar '\n' ∉ key := by decide
    exact (LogRecord.mem_keys_of_hasValue ((hlists.mem_iff key).mp hkey)).elim (hplain key)
      (hstandard key)
  have hshown : List.Forall₂ (IsLineOf r time e) (orderedKeys e.name fields)
      ((orderedKeys e.name fields).map (showField fields ": ")) :=
    forall₂_map_of_forall fun key hkey =>
      isLineOf_showField (hvalue key) ((hlists.mem_iff key).mp hkey)
  obtain ⟨line, hcompact, hline⟩ := exists_compact_of_fields hfields hname hlisted
  refine ⟨_, _, _, line, hlists, fun others h => h.eq_of_iff hlists fun _ => Iff.rfl, hshown,
    block_of_fields hfields herror, fun isFirst => ?_, hcompact, hline⟩
  refine splitOn_separated ?_ (fun shown hshown => ?_) isFirst
  · have hopening : CodePoint.scalar '\n' ∉ ("=== " : Text) := by decide
    have hclosing : CodePoint.scalar '\n' ∉ (" ===" : Text) := by decide
    simp only [List.mem_append, not_or]
    exact ⟨⟨hopening, hname⟩, hclosing⟩
  · obtain ⟨key, hkey, rfl⟩ := List.mem_map.mp hshown
    exact newline_not_mem_showField (by decide) (hlisted key hkey)

/-- An event with a text that looks like the heading of another one, with a field that has no value
and with values inside others. -/
def forgedEvent : LogEvent where
  name := "document_skipped"
  fields := [("zone", .text "a\n=== forged ==="), ("hint", .null),
    ("rows", .list [.text "\n", .int (-3), .null, .table [(.text "\t", .bool true)]]),
    ("document", .text "x")]

/-- A record of it. -/
def forgedRecord : LogRecord where
  message := forgedEvent.message
  time := .ok .epoch

/-- The standard fields of the record and those of the event. -/
def forgedFields : Entries Text Json :=
  [("ts_utc", .text "1970-01-01T00:00:00+00:00"), ("level", .text "INFO"),
    ("logger", .text "lsfdocs"), ("zone", .text "a\n=== forged ==="), ("hint", .null),
    ("rows", .array [.text "\n", .int (-3), .null, .object [("\t", .bool true)]]),
    ("document", .text "x")]

set_option maxRecDepth 4000 in
/-- These fields are read from the message. -/
theorem fieldsOf_forgedRecord : fieldsOf forgedRecord = .ok (forgedEvent.name, forgedFields) := rfl

/-- Their keys are shown in order. -/
theorem orderedKeys_forgedFields : orderedKeys forgedEvent.name forgedFields =
    (["ts_utc", "level", "logger", "document", "rows", "zone"] : List Text) := by
  have hsorted : Text.sortOn id (["zone", "rows"] : List Text) = ["rows", "zone"] :=
    ((Text.sortOn_perm id _).trans (.swap _ _ _)).eq_of_pairwise
      (fun _ _ _ _ => Text.le_antisymm) (Text.pairwise_sortOn id _) (by decide)
  exact congrArg ((["ts_utc", "level", "logger", "document"] : List Text) ++ ·) hsorted

/-- The lines of the record. -/
def forgedLines : List Text :=
  ["ts_utc: 1970-01-01T00:00:00+00:00", "level: INFO", "logger: lsfdocs", "document: x",
    "rows: [\x27\\n\x27, -3, None, \x7b\x27\\t\x27: True\x7d]", "zone: a\\n=== forged ==="]

/-- The record is a block with one heading and these lines. -/
theorem block_forgedRecord : block forgedRecord =
    .ok (Text.join "\n" (("=== document_skipped ===" : Text) :: forgedLines)) := by
  have hlines : (["ts_utc", "level", "logger", "document", "rows", "zone"] : List Text).map
      (showField forgedFields ": ") = forgedLines := by decide
  rw [block_of_fields fieldsOf_forgedRecord rfl, orderedKeys_forgedFields, hlines]
  rfl

set_option maxRecDepth 4000 in
/-- The record of the event is a block with one heading, and each line shows the value of its
key. -/
theorem block_of_message_forgedEvent : ∃ keys lines text line,
    keys = (["ts_utc", "level", "logger", "document", "rows", "zone"] : List Text) ∧
      lines = forgedLines ∧
      List.Forall₂ (IsLineOf forgedRecord .epoch forgedEvent) keys lines ∧
      block forgedRecord = .ok text ∧
      Text.splitOn (.scalar '\n') text = ("=== document_skipped ===" : Text) :: lines ∧
      compact forgedRecord = .ok line ∧ CodePoint.scalar '\n' ∉ line := by
  have hkeys : (Entries.keys forgedEvent.fields).Nodup := by decide
  have hevent : eventKey ∉ Entries.keys forgedEvent.fields := by decide
  have hread : ∃ value, Json.read forgedEvent.message = .ok value := ⟨_, rfl⟩
  obtain ⟨keys, lines, text, line, hlists, -, hshown, hblock, hlines, hcompact, hline⟩ :=
    block_of_message forgedRecord forgedEvent .epoch rfl rfl rfl hkeys hevent (by decide)
      (by decide) hread
  refine ⟨keys, lines, text, line, ?_, ?_, hshown, hblock, hlines true, hcompact, hline⟩
  · obtain ⟨fields, hfields, hnodup, hvalue⟩ :=
      LogRecord.exists_fieldsOf (r := forgedRecord) rfl rfl hkeys hevent hread
    cases fieldsOf_forgedRecord.symm.trans hfields
    have hordered := hlists.eq_of_iff (lists_orderedKeys forgedEvent.name hnodup) fun key =>
      LogRecord.hasValue_iff (hvalue key)
    exact hordered.trans orderedKeys_forgedFields
  · have hheading : CodePoint.scalar '\n' ∉ ("=== document_skipped ===" : Text) := by decide
    have hplain : ∀ line ∈ forgedLines, CodePoint.scalar '\n' ∉ line := by decide
    cases hblock.symm.trans block_forgedRecord
    exact (List.cons.inj ((hlines true).symm.trans
      (splitOn_separated hheading hplain true))).2

end LogFormat

end CommandDocs
