import CommandDocs.Log.Format
import CommandDocs.Proofs.Json.Faithful

/-!
# Messages of log events

The message of an event is an object under distinct names, whatever the values of its fields
are. If it is read at all, what is read are the name of the event and the fields with their
values, so a record of the message has these and the standard fields.
-/

namespace CommandDocs

namespace LogValue

open Json

/-- Only the null value becomes null. -/
theorem toJson_eq_null {value : LogValue} : value.toJson = .null ↔ value = .null := by
  cases value <;> simp [toJson]

/-- The value is neither a list nor a table. -/
def IsAtom : LogValue → Prop
  | .list _ => False
  | .table _ => False
  | _ => True

/-- Induction over a value: what holds of a list as soon as it holds of its items, of a table as
soon as it holds of its values, and of every atom, holds of every value. -/
@[elab_as_elim]
theorem induction {motive : LogValue → Prop} (atom : ∀ value, value.IsAtom → motive value)
    (list : ∀ items, (∀ item ∈ items, motive item) → motive (.list items))
    (table : ∀ entries, (∀ entry ∈ entries, motive entry.2) → motive (.table entries))
    (value : LogValue) : motive value :=
  @LogValue.rec motive (fun items => ∀ item ∈ items, motive item)
    (fun entries => ∀ entry ∈ entries, motive entry.2) (fun entry => motive entry.2)
    (atom _ trivial) (fun _ => atom _ trivial) (fun _ => atom _ trivial) (fun _ => atom _ trivial)
    (fun _ => atom _ trivial) (fun _ => atom _ trivial) (fun _ => atom _ trivial) list table
    (List.forall_mem_nil _) (fun _ _ hhead htail => List.forall_mem_cons.mpr ⟨hhead, htail⟩)
    (List.forall_mem_nil _) (fun _ _ hhead htail => List.forall_mem_cons.mpr ⟨hhead, htail⟩)
    (fun _ _ h => h) value

/-- The items of a list become JSON one by one. -/
theorem itemsToJson_eq_map (items : List LogValue) : itemsToJson items = items.map toJson := by
  induction items with
  | nil => rfl
  | cons item items ih => rw [itemsToJson, ih, List.map_cons]

/-- So do the entries of a table, under the names of their keys. -/
theorem entriesToJson_eq_map (entries : List (LogKey × LogValue)) :
    entriesToJson entries =
      Entries.mapValues toJson (entries.map fun entry => (entry.1.toText, entry.2)) := by
  induction entries with
  | nil => rfl
  | cons entry entries ih =>
    rw [entriesToJson, ih]
    rfl

/-- The members that a table becomes have values of its entries. -/
theorem exists_entry_of_mem_ofPairs {entries : List (LogKey × LogValue)} {member : Text × LogValue}
    (h : member ∈ Entries.ofPairs (entries.map fun entry => (entry.1.toText, entry.2))) :
    ∃ entry ∈ entries, entry.2 = member.2 := by
  obtain ⟨entry, hentry, heq⟩ := List.mem_map.mp (Entries.mem_of_mem_ofPairs h)
  exact ⟨entry, hentry, congrArg Prod.snd heq⟩

/-- Every object inside a logged value has distinct names. -/
theorem hasDistinctNames_toJson (value : LogValue) :
    value.toJson.Everywhere HasDistinctNames := by
  induction value using induction with
  | atom value hatom =>
    cases value with
    | list items => exact hatom.elim
    | table entries => exact hatom.elim
    | _ => exact everywhere_of_isAtom trivial trivial
  | list items ih =>
    rw [toJson, itemsToJson_eq_map, everywhere_array]
    exact ⟨trivial, List.forall_mem_map.mpr ih⟩
  | table entries ih =>
    rw [toJson, entriesToJson_eq_map, Entries.ofPairs_mapValues, everywhere_object]
    refine ⟨?_, List.forall_mem_map.mpr fun member hmember => ?_⟩
    · rw [HasDistinctNames, Entries.keys_mapValues]
      exact Entries.nodup_keys_ofPairs _
    · obtain ⟨entry, hentry, hvalue⟩ := exists_entry_of_mem_ofPairs hmember
      exact hvalue ▸ ih entry hentry

end LogValue

/-- No blanks are blanks. -/
theorem Json.isBlank_compact : Layout.compact.IsBlank :=
  ⟨fun _ => List.forall_mem_nil _, List.forall_mem_nil _⟩

namespace LogEvent

open LogFormat

variable {e : LogEvent}

/-- The names and values in the message of an event. -/
def members (e : LogEvent) : Entries Text Json :=
  (eventKey, .text e.name) :: Entries.mapValues LogValue.toJson e.fields

/-- The message is the object of its members. -/
theorem message_eq (e : LogEvent) :
    e.message = Json.write Json.Layout.compact (.object e.members) := rfl

/-- Behind the name of the event stand the fields. -/
theorem keys_members (e : LogEvent) : e.members.keys = eventKey :: Entries.keys e.fields := by
  rw [members, Entries.keys_cons, Entries.keys_mapValues]

/-- A message whose fields have distinct names is read as its members, if at all. -/
theorem givesOnly_read_message (hkeys : (Entries.keys e.fields).Nodup)
    (hevent : eventKey ∉ Entries.keys e.fields) :
    GivesOnly (Json.read e.message) (.object e.members) := by
  rw [message_eq, ← List.append_nil (Json.write _ _)]
  refine Json.givesOnly_read_write Json.isBlank_compact (Json.everywhere_object.mpr ⟨?_, ?_⟩)
    (List.forall_mem_nil _)
  · rw [Json.HasDistinctNames, keys_members]
    exact List.nodup_cons.mpr ⟨hevent, hkeys⟩
  · rw [members, List.forall_mem_cons]
    refine ⟨Json.everywhere_text.mpr trivial, fun member hmember => ?_⟩
    obtain ⟨field, -, rfl⟩ := List.mem_map.mp hmember
    exact field.2.hasDistinctNames_toJson

/-- A message that is read supplies its members. -/
theorem messageFields_message (hkeys : (Entries.keys e.fields).Nodup)
    (hevent : eventKey ∉ Entries.keys e.fields) (hread : ∃ value, Json.read e.message = .ok value) :
    messageFields e.message = .ok (some e.members) := by
  obtain ⟨value, hvalue⟩ := hread
  obtain rfl := givesOnly_read_message hkeys hevent value hvalue
  have hopening : e.message.startsWith "\x7b" = true := rfl
  have hclosing : e.message.endsWith "\x7d" = true :=
    List.isSuffixOf_iff_suffix.mpr (List.suffix_append _ _)
  rw [messageFields, hopening, hclosing, hvalue]
  rfl

end LogEvent

/-- The fields that every record has are distinct. -/
theorem LogFormat.nodup_standardKeys : standardKeys.Nodup := by decide

namespace LogRecord

open LogFormat

variable {r : LogRecord} {e : LogEvent} {time : Instant}

/-- The fields that every record has. -/
def standardFields (r : LogRecord) (time : Instant) : Entries Text LogValue :=
  [("ts_utc", .text time.toText), ("level", .text r.level.name), ("logger", .text r.logger)]

/-- The value under a key in a record of an event: that of the field, or else the standard
one. -/
def valueOf (r : LogRecord) (time : Instant) (e : LogEvent) (key : Text) : Option LogValue :=
  (Entries.find? key e.fields).or (Entries.find? key (r.standardFields time))

/-- A key has a value other than null. -/
def HasValue (r : LogRecord) (time : Instant) (e : LogEvent) (key : Text) : Prop :=
  ∃ value, r.valueOf time e key = some value ∧ value ≠ .null

/-- A key with a value is one of a field or a standard one. -/
theorem mem_keys_of_hasValue {key : Text} (h : r.HasValue time e key) :
    key ∈ Entries.keys e.fields ∨ key ∈ standardKeys := by
  obtain ⟨value, hvalue, -⟩ := h
  rw [valueOf, Option.or_eq_some_iff] at hvalue
  rcases hvalue with hfield | ⟨-, hstandard⟩
  · exact Or.inl (Entries.isSome_find?.mp (Option.isSome_of_eq_some hfield))
  · exact Or.inr (Entries.isSome_find?.mp (Option.isSome_of_eq_some hstandard))

/-- Values keep being other than null in the message. -/
theorem hasValue_iff {key : Text} {fields : Entries Text Json}
    (hvalue : Entries.find? key fields = (r.valueOf time e key).map LogValue.toJson) :
    r.HasValue time e key ↔ ∃ value, Entries.find? key fields = some value ∧ value ≠ .null := by
  simp only [HasValue, hvalue, Option.map_eq_some_iff, exists_exists_and_eq_and, ne_eq,
    LogValue.toJson_eq_null]

/-- In a record of a message that is read each key has its value. -/
theorem exists_fieldsOf (htime : r.time = .ok time) (hmessage : r.message = e.message)
    (hkeys : (Entries.keys e.fields).Nodup) (hevent : eventKey ∉ Entries.keys e.fields)
    (hread : ∃ value, Json.read e.message = .ok value) :
    ∃ fields : Entries Text Json, fieldsOf r = .ok (e.name, fields) ∧ fields.keys.Nodup ∧
      ∀ key, Entries.find? key fields = (r.valueOf time e key).map LogValue.toJson := by
  let standard := Entries.mapValues LogValue.toJson (r.standardFields time)
  have hstandard : standard.keys.Nodup := nodup_standardKeys
  have hmembers : e.members.keys.Nodup := by
    rw [e.keys_members]
    exact List.nodup_cons.mpr ⟨hevent, hkeys⟩
  have hall : e.members.foldl (fun fields member => fields.put member.1 member.2) standard =
      Entries.ofPairs (standard ++ e.members) := by
    rw [Entries.ofPairs, List.foldl_append, ← Entries.ofPairs, Entries.ofPairs_of_nodup hstandard]
  -- what a key was given last, by the message or before
  have hfind (key : Text) : Entries.find? key (Entries.ofPairs (standard ++ e.members)) =
      (Entries.find? key e.members).or (Entries.find? key standard) := by
    rw [Entries.find?_ofPairs, List.reverse_append, Entries.find?_append,
      Entries.find?_of_perm (List.reverse_perm _) hmembers,
      Entries.find?_of_perm (List.reverse_perm _) hstandard]
  have hname : Entries.find? eventKey e.members = some (.text e.name) := if_pos rfl
  have hrecord : fieldsOf r = .ok (e.name,
      (Entries.ofPairs (standard ++ e.members)).filter (·.1 != eventKey)) := by
    have hshown : ((Entries.find? eventKey (Entries.ofPairs (standard ++ e.members))).map
        Json.display).getD r.logger = e.name := by
      rw [hfind, hname]
      rfl
    rw [fieldsOf, htime, hmessage, LogEvent.messageFields_message hkeys hevent hread]
    rw [← hall] at hshown ⊢
    exact congrArg (fun name => Except.ok (name, _)) hshown
  refine ⟨_, hrecord, ?_, fun key => ?_⟩
  · rw [Entries.keys_filter (fun key => key != eventKey)]
    exact (Entries.nodup_keys_ofPairs _).filter _
  · rw [Entries.find?_filter (fun key => key != eventKey), hfind]
    by_cases hkey : key = eventKey
    · subst hkey
      rw [valueOf, Entries.find?_eq_none hevent]
      rfl
    · have hother : (key != eventKey) = true := bne_iff_ne.mpr hkey
      have hfirst : Entries.find? key e.members =
          Entries.find? key (Entries.mapValues LogValue.toJson e.fields) :=
        if_neg fun h => hkey h.symm
      rw [if_pos hother, hfirst, Entries.find?_mapValues, valueOf, Option.map_or,
        ← Entries.find?_mapValues LogValue.toJson key (r.standardFields time)]

end LogRecord

end CommandDocs
