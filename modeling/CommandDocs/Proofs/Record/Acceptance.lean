import CommandDocs.Proofs.File.Collections
import CommandDocs.Proofs.Json.Bounds
import CommandDocs.Proofs.Record.Unicode

/-!
# Accepted baselines

A baseline is accepted when every item of its array is the object of an entry, and then there is
one record for each of them. Otherwise the first item that is none is reported. What the report
says is up to this item and its position: whatever stands behind it makes no difference.

All this is true of arrays that the reader of JSON goes through. Where it meets one of its bounds
nothing is reported: its own failure is that of the baseline.
-/

namespace CommandDocs

variable {fs : FileSystem} {p : Path} {items : List Json} {item bad : Json}
  {position i : Nat} {fault : CollectionFault} {text words : Text}
  {b : BaselineRecord}

/-! ### Entries -/

/-- The item is an object. -/
def Json.IsObject (item : Json) : Prop := ∃ members : Entries Text Json, item = .object members

/-- The item is an object in which name, description and usage are strings. Its category is a
string or null, unless there is none. -/
def Json.IsEntry (item : Json) : Prop :=
  ∃ members : Entries Text Json, item = .object members ∧
    (∀ name ∈ (["name", "description", "usage"] : List Text),
      ∃ t, members.find? name = some (.text t)) ∧
    ∀ value, members.find? ("category" : Text) = some value →
      value = .null ∨ ∃ label, value = .text label

namespace BaselineRecord

/-- The record has what the object says: the declared members, and all further ones as they are
and in their order. -/
structure StandsFor (b : BaselineRecord) (members : Entries Text Json) : Prop where
  /-- The name. -/
  name : members.find? ("name" : Text) = some (.text b.name)
  /-- The description. -/
  description : members.find? ("description" : Text) = some (.text b.description)
  /-- The usage. -/
  usage : members.find? ("usage" : Text) = some (.text b.usage)
  /-- The category, which may be missing. -/
  category : members.find? ("category" : Text) = b.category.value?
  /-- All that is not declared. -/
  extras : b.extras = members.filter fun member => !declaredNames.contains member.1

/-- The value of a category is a string or null. -/
theorem exists_category {found : Option Json}
    (h : ∀ value, found = some value → value = .null ∨ ∃ label, value = .text label) :
    ∃ category : Category, found = category.value? := by
  cases found with
  | none => exact ⟨.unset, rfl⟩
  | some value =>
    rcases h value rfl with rfl | ⟨label, rfl⟩
    · exact ⟨.none, rfl⟩
    · exact ⟨.named label, rfl⟩

/-- An object of Unicode texts is read as the record that stands for it. -/
theorem ofJson_object_eq_ok {members : Entries Text Json}
    (htexts : (Json.object members).Everywhere Json.HasUnicode) :
    ofJson (.object members) = .ok b ↔ b.StandsFor members := by
  rw [Json.everywhere_hasUnicode_object] at htexts
  rw [ofJson_eq_ok]
  constructor
  · intro h
    rcases h with ⟨_, ⟨⟩, hname, hdescription, husage, hcategory, hextras, -⟩
    exact ⟨hname, hdescription, husage, hcategory, hextras⟩
  · intro h
    refine ⟨members, rfl, h.name, h.description, h.usage, h.category, h.extras, ?_⟩
    intro member hmember
    rw [h.extras] at hmember
    exact (htexts member (List.mem_filter.mp hmember).1).1

/-- An item of Unicode texts is read as a record when it is an entry. -/
theorem exists_ofJson_eq_ok_iff (htexts : item.Everywhere Json.HasUnicode) :
    (∃ b, ofJson item = .ok b) ↔ item.IsEntry := by
  constructor
  · intro h
    obtain ⟨b, hb⟩ := h
    obtain ⟨members, rfl, hname, hdescription, husage, hcategory, -⟩ := ofJson_eq_ok.mp hb
    refine ⟨members, rfl, ?_, ?_⟩
    · simp only [List.forall_mem_cons, List.not_mem_nil, false_implies, implies_true, and_true]
      exact ⟨⟨_, hname⟩, ⟨_, hdescription⟩, ⟨_, husage⟩⟩
    · intro value hvalue
      rw [hcategory] at hvalue
      cases hlabel : b.category with
      | unset =>
        rw [hlabel] at hvalue
        cases hvalue
      | none =>
        rw [hlabel] at hvalue
        cases hvalue
        exact Or.inl rfl
      | named label =>
        rw [hlabel] at hvalue
        cases hvalue
        exact Or.inr ⟨label, rfl⟩
  · intro h
    obtain ⟨members, rfl, htext, hcategory⟩ := h
    obtain ⟨name, hname⟩ := htext "name" (by simp)
    obtain ⟨description, hdescription⟩ := htext "description" (by simp)
    obtain ⟨usage, husage⟩ := htext "usage" (by simp)
    obtain ⟨category, hcategory⟩ := exists_category hcategory
    exact ⟨{ name, description, usage, category, extras := members.filter _ },
      (ofJson_object_eq_ok htexts).mpr ⟨hname, hdescription, husage, hcategory, rfl⟩⟩

end BaselineRecord

/-! ### The first offender -/

/-- The item at this position is the first one that is no entry. -/
structure IsFirstOffender (items : List Json) (i : Nat) (bad : Json) : Prop where
  /-- It is the item at this position. -/
  found : items[i]? = some bad
  /-- It is no entry. -/
  offends : ¬bad.IsEntry
  /-- All items before it are entries. -/
  least : ∀ j < i, ∀ item, items[j]? = some item → item.IsEntry

/-- Among items that are not all entries there is a first offender. -/
theorem exists_isFirstOffender (h : ¬∀ item ∈ items, item.IsEntry) :
    ∃ i bad, IsFirstOffender items i bad := by
  induction items with
  | nil => exact absurd (fun _ hitem => absurd hitem List.not_mem_nil) h
  | cons item items ih =>
    by_cases hentry : item.IsEntry
    · have hrest : ¬∀ item ∈ items, item.IsEntry :=
        fun hrest => h (List.forall_mem_cons.mpr ⟨hentry, hrest⟩)
      obtain ⟨i, bad, hfound, hoffends, hleast⟩ := ih hrest
      refine ⟨i + 1, bad, hfound, hoffends, ?_⟩
      intro j hj earlier hearlier
      cases j with
      | zero =>
        cases hearlier
        exact hentry
      | succ j => exact hleast j (Nat.lt_of_succ_lt_succ hj) earlier hearlier
    · exact ⟨0, item, rfl, hentry, fun j hj => absurd hj (Nat.not_lt_zero j)⟩

/-- What is reported about an item that is not read, and in which words. It is told by whether
the item is an object at all. -/
inductive CollectionFault.Tells (position : Nat) : Json → CollectionFault → Text → Prop
  /-- It is no object. -/
  | notObject {bad : Json} (h : ¬bad.IsObject) :
    Tells position bad (.notObject position) " must be an object"
  /-- It is an object that is not read. -/
  | invalid {bad : Json} {e : Invalid} (hobject : bad.IsObject)
      (h : BaselineRecord.ofJson bad = .error e) :
    Tells position bad (.invalid position e) (" is invalid (" ++ e.message ++ ")")

namespace CollectionFault

/-- About an item that is no entry there is something to report. -/
theorem exists_tells (htexts : bad.Everywhere Json.HasUnicode) (h : ¬bad.IsEntry)
    (position : Nat) : ∃ fault words, Tells position bad fault words := by
  by_cases hobject : bad.IsObject
  · cases hread : BaselineRecord.ofJson bad with
    | ok b => exact absurd ((BaselineRecord.exists_ofJson_eq_ok_iff htexts).mp ⟨b, hread⟩) h
    | error e => exact ⟨_, _, .invalid hobject hread⟩
  · exact ⟨_, _, .notObject hobject⟩

/-- The position and the item determine what is reported. -/
theorem Tells.unique {fault' : CollectionFault} {words' : Text}
    (h : Tells position bad fault words) (h' : Tells position bad fault' words') :
    fault' = fault ∧ words' = words := by
  cases h with
  | notObject hobject =>
    cases h' with
    | notObject => exact ⟨rfl, rfl⟩
    | invalid hobject' => exact absurd hobject' hobject
  | invalid hobject hread =>
    cases h' with
    | notObject hobject' => exact absurd hobject hobject'
    | invalid _ hread' =>
      rw [hread] at hread'
      cases hread'
      exact ⟨rfl, rfl⟩

/-- The report names the position of the item and the path of the file. -/
theorem Tells.message (h : Tells position bad fault words) (p : Path) :
    (Failure.collection .baseline fault p).message =
      "Baseline entry " ++ Text.ofNat position ++ words ++ ": " ++ p.toText := by
  cases h with
  | notObject => rfl
  | invalid hobject hread =>
    simp only [Failure.message, CollectionFault.message, List.append_assoc]

end CollectionFault

/-- Behind an item that is a record the other items are read, from the next position on. -/
theorem baselineRecordsFrom_cons_of_ok (h : BaselineRecord.ofJson item = .ok b) :
    baselineRecordsFrom position (item :: items) =
      (baselineRecordsFrom (position + 1) items).map (b :: ·) := by
  obtain ⟨members, rfl, -⟩ := BaselineRecord.ofJson_eq_ok.mp h
  rw [baselineRecordsFrom, h]
  rfl

/-- Entries are read to the end. -/
theorem exists_baselineRecordsFrom_eq_ok (htexts : ∀ item ∈ items, item.Everywhere Json.HasUnicode)
    (hentries : ∀ item ∈ items, item.IsEntry) (position : Nat) :
    ∃ baselines, baselineRecordsFrom position items = .ok baselines := by
  induction items generalizing position with
  | nil => exact ⟨[], rfl⟩
  | cons item items ih =>
    rw [List.forall_mem_cons] at htexts hentries
    obtain ⟨b, hb⟩ := (BaselineRecord.exists_ofJson_eq_ok_iff htexts.1).mpr hentries.1
    obtain ⟨rest, hrest⟩ := ih htexts.2 hentries.2 (position + 1)
    refine ⟨b :: rest, ?_⟩
    rw [baselineRecordsFrom_cons_of_ok hb, hrest]
    rfl

/-- At an item that is reported the reading ends. -/
theorem baselineRecordsFrom_cons_of_tells (h : CollectionFault.Tells position bad fault words) :
    baselineRecordsFrom position (bad :: items) = .error fault := by
  cases h with
  | notObject hobject =>
    cases bad with
    | object members => exact absurd ⟨members, rfl⟩ hobject
    | _ => rfl
  | invalid hobject h =>
    obtain ⟨members, rfl⟩ := hobject
    rw [baselineRecordsFrom, h]
    rfl

/-- Reading ends at the first offender, with the report about it. -/
theorem baselineRecordsFrom_of_isFirstOffender (h : IsFirstOffender items i bad)
    (htexts : ∀ item ∈ items, item.Everywhere Json.HasUnicode)
    (htells : CollectionFault.Tells (position + i) bad fault words) :
    baselineRecordsFrom position items = .error fault := by
  induction items generalizing position i with
  | nil => cases h.found
  | cons item items ih =>
    cases i with
    | zero =>
      cases h.found
      exact baselineRecordsFrom_cons_of_tells htells
    | succ i =>
      rw [List.forall_mem_cons] at htexts
      have hentry : item.IsEntry := h.least 0 i.succ_pos item rfl
      have hrest : IsFirstOffender items i bad :=
        ⟨h.found, h.offends, fun j hj => h.least (j + 1) (Nat.succ_lt_succ hj)⟩
      obtain ⟨b, hb⟩ := (BaselineRecord.exists_ofJson_eq_ok_iff htexts.1).mpr hentry
      have hposition : position + (i + 1) = position + 1 + i := by omega
      rw [baselineRecordsFrom_cons_of_ok hb, ih hrest htexts.2 (hposition ▸ htells)]
      rfl

/-! ### The baseline as a whole -/

namespace FileSystem

/-- Where the reader of JSON breaks off before it can tell whether a text is JSON, reading the
baseline does. -/
theorem readBaseline_of_read_error {e : JsonError} (htext : fs.readText p = .ok text)
    (hread : Json.read text = .error e) (he : e ≠ .malformed) :
    fs.readBaseline p = .error (.json e) := by
  have hbeyond : fs.ExceedsBounds p := ⟨text, e, htext, hread, he⟩
  have houtcome : ReadOutcome fs .baseline p (fs.readBaseline p) :=
    readOutcome_readBaseline (not_hasNul_of_readText htext)
  generalize fs.readBaseline p = outcome at houtcome ⊢
  cases houtcome with
  | read _ within => exact absurd hbeyond within
  | unfit _ within => exact absurd hbeyond within
  | brokenOff e' _ _ hread' =>
    rw [hread' text htext, Except.error.injEq] at hread
    rw [hread]

/-- But for that, reading the baseline in a file that has a text fails with a report. -/
theorem failure_of_readBaseline (htext : fs.readText p = .ok text) {failure : Failure}
    (h : fs.readBaseline p = .error failure) :
    (∃ fault, failure = .collection .baseline fault p) ∨
      ∃ e, Json.read text = .error e ∧ e ≠ .malformed ∧ failure = .json e := by
  have houtcome : ReadOutcome fs .baseline p (fs.readBaseline p) :=
    readOutcome_readBaseline (not_hasNul_of_readText htext)
  rw [h] at houtcome
  cases houtcome with
  | unfit fault => exact Or.inl ⟨fault, rfl⟩
  | brokenOff e he _ hread => exact Or.inr ⟨e, hread text htext, he, rfl⟩

section Items

variable (hitems : fs.readItems .baseline p = .ok items)
  (htexts : ∀ item ∈ items, item.Everywhere Json.HasUnicode)

include hitems htexts

/-- About the first offender among the items there is a report, with its position. -/
theorem readBaseline_of_isFirstOffender (h : IsFirstOffender items i bad) :
    ∃ fault words, CollectionFault.Tells i bad fault words ∧
      fs.readBaseline p = .error (.collection .baseline fault p) ∧
      (Failure.collection .baseline fault p).message =
        "Baseline entry " ++ Text.ofNat i ++ words ++ ": " ++ p.toText := by
  have hbad := htexts bad (List.mem_of_getElem? h.found)
  obtain ⟨fault, words, htells⟩ := CollectionFault.exists_tells hbad h.offends i
  have hfrom : baselineRecordsFrom 0 items = .error fault :=
    baselineRecordsFrom_of_isFirstOffender h htexts ((Nat.zero_add i).symm ▸ htells)
  refine ⟨fault, words, htells, ?_, htells.message p⟩
  rw [readBaseline, hitems]
  exact congrArg (Except.mapError (Failure.collection .baseline · p)) hfrom

/-- The baseline is read when all items are entries, and only then. -/
theorem exists_readBaseline_iff :
    (∃ baselines, fs.readBaseline p = .ok baselines) ↔ ∀ item ∈ items, item.IsEntry := by
  constructor
  · intro h
    obtain ⟨baselines, hread⟩ := h
    by_contra hentries
    obtain ⟨i, bad, hfirst⟩ := exists_isFirstOffender hentries
    obtain ⟨fault, words, -, hfails, -⟩ := readBaseline_of_isFirstOffender hitems htexts hfirst
    rw [hread] at hfails
    cases hfails
  · intro hentries
    obtain ⟨baselines, hfrom⟩ := exists_baselineRecordsFrom_eq_ok htexts hentries 0
    refine ⟨baselines, ?_⟩
    rw [readBaseline, hitems]
    exact mapError_eq_ok.mpr hfrom

/-- There is a record for each item then. -/
theorem standsFor_of_readBaseline {baselines : List BaselineRecord}
    (hread : fs.readBaseline p = .ok baselines) :
    List.Forall₂ (fun item b => ∃ members, item = .object members ∧ b.StandsFor members)
      items baselines := by
  obtain ⟨items', hitems', hrecords⟩ := readBaseline_eq_ok.mp hread
  rw [hitems] at hitems'
  cases hitems'
  refine ((List.forall₂_and_left items baselines).mpr ⟨htexts, hrecords⟩).imp ?_
  intro item b h
  obtain ⟨members, rfl, -⟩ := BaselineRecord.ofJson_eq_ok.mp h.2
  exact ⟨members, rfl, (BaselineRecord.ofJson_object_eq_ok h.1).mp h.2⟩

end Items

/-- What becomes of a baseline is up to what its text is read as. Of an array whose strings are
Unicode it is read if and only if every item is an entry. There is one record for each item then,
in order. If some item is no entry, the first one of these is reported with its position, whatever
the items behind it are. A text at which the reader of JSON breaks off is not reported: the failure
is that of the reader, and no other one escapes. -/
theorem readBaseline_exact (htext : fs.readText p = .ok text) :
    (∀ items, Json.read text = .ok (.array items) →
      (∀ item ∈ items, item.Everywhere Json.HasUnicode) →
      ((∃ baselines, fs.readBaseline p = .ok baselines) ↔ ∀ item ∈ items, item.IsEntry) ∧
      (∀ baselines, fs.readBaseline p = .ok baselines →
        List.Forall₂ (fun item b => ∃ members, item = .object members ∧ b.StandsFor members)
          items baselines) ∧
      ((¬∀ item ∈ items, item.IsEntry) → ∃ i bad, IsFirstOffender items i bad) ∧
      ∀ i bad, IsFirstOffender items i bad →
        ∃ fault words, CollectionFault.Tells i bad fault words ∧
          fs.readBaseline p = .error (.collection .baseline fault p) ∧
          (Failure.collection .baseline fault p).message =
            "Baseline entry " ++ Text.ofNat i ++ words ++ ": " ++ p.toText) ∧
    (∀ e, Json.read text = .error e → e ≠ .malformed → fs.readBaseline p = .error (.json e)) ∧
    ∀ failure, fs.readBaseline p = .error failure →
      (∃ fault, failure = .collection .baseline fault p) ∨
        ∃ e, Json.read text = .error e ∧ e ≠ .malformed ∧ failure = .json e := by
  refine ⟨fun items hread htexts => ?_, fun e => readBaseline_of_read_error htext,
    fun failure => failure_of_readBaseline htext⟩
  have hitems : fs.readItems .baseline p = .ok items := readItems_eq_ok.mpr ⟨text, htext, hread⟩
  exact ⟨exists_readBaseline_iff hitems htexts, fun _ => standsFor_of_readBaseline hitems htexts,
    exists_isFirstOffender, fun _ _ => readBaseline_of_isFirstOffender hitems htexts⟩

/-- An entry with a null category and a further member. -/
def entryWithAge : Json := .object [("name", .text "a"), ("description", .text []),
  ("usage", .text []), ("category", .null), ("age", .int 3)]

/-- An object without a description. -/
def entryWithoutDescription : Json := .object [("name", .text "b"), ("usage", .null)]

/-- The text of an array of an entry, an object that is none and a number. -/
def mixedText : Text :=
  "[\x7b\"name\":\"a\",\"description\":\"\",\"usage\":\"\",\"category\":null,\"age\":3\x7d," ++
    "\x7b\"name\":\"b\",\"usage\":null\x7d,7]"

/-- A baseline with a text. -/
def baselineWith (text : Text) : FileSystem where
  nodes := [(["base.json"], .file (text.flatMap Utf8.bytesOf))]
  workingDirectory := []

/-- The place of this baseline. -/
def baselinePath : Path := ⟨.relative, ["base.json"]⟩

set_option maxRecDepth 4000 in
/-- Of the mixed baseline the object that is no entry is reported, not the number behind it. -/
theorem readBaseline_mixedText :
    let items : List Json := [entryWithAge, entryWithoutDescription, .int 7]
    (baselineWith mixedText).readText baselinePath = .ok mixedText ∧
      Json.read mixedText = .ok (.array items) ∧
      (∀ item ∈ items, item.Everywhere Json.HasUnicode) ∧
      ∃ failure, (baselineWith mixedText).readBaseline baselinePath = .error failure ∧
        failure.message =
          "Baseline entry 1 is invalid (description: Field required): base.json" := by
  intro items
  have htext : (baselineWith mixedText).readText baselinePath = .ok mixedText := rfl
  have hread : Json.read mixedText = .ok (.array items) := rfl
  have htexts : ∀ item ∈ items, item.Everywhere Json.HasUnicode := by
    simp [items, entryWithAge, entryWithoutDescription, Json.everywhere_hasUnicode_object,
      Json.HasUnicode]
  have hfirst : IsFirstOffender items 1 entryWithoutDescription := by
    refine ⟨rfl, ?_, ?_⟩
    · intro h
      obtain ⟨_, ⟨⟩, htext, -⟩ := h
      obtain ⟨t, ht⟩ := htext "description" (by simp)
      cases ht
    · intro j hj item hitem
      obtain rfl : j = 0 := by omega
      cases hitem
      have hage : BaselineRecord.ofJson entryWithAge =
        .ok ⟨"a", [], [], .none, [("age", .int 3)]⟩ := rfl
      exact (BaselineRecord.exists_ofJson_eq_ok_iff (htexts _ (by simp [items]))).mp ⟨_, hage⟩
  obtain ⟨-, -, -, hrefused⟩ := (readBaseline_exact htext).1 items hread htexts
  obtain ⟨fault, words, htells, hfailure, hmessage⟩ := hrefused 1 entryWithoutDescription hfirst
  refine ⟨htext, hread, htexts, _, hfailure, hmessage.trans ?_⟩
  cases htells with
  | notObject hobject => exact absurd ⟨_, rfl⟩ hobject
  | invalid hobject h =>
    cases h
    rfl

/-- The text of an array with one item, that holds three thousand less one further arrays. -/
def deepArrayText : Text := Json.write Json.Layout.compact (.array [Json.nestedArray 2998])

/-- The item is no entry, and should be reported; but reading this baseline breaks off. -/
theorem readBaseline_deepArrayText :
    (baselineWith deepArrayText).readText baselinePath = .ok deepArrayText ∧
      IsFirstOffender [Json.nestedArray 2998] 0 (Json.nestedArray 2998) ∧
      (Json.nestedArray 2998).Everywhere Json.HasUnicode ∧
      (baselineWith deepArrayText).readBaseline baselinePath = .error (.json .tooDeep) := by
  have hbrackets : deepArrayText = Json.brackets 3000 := Json.writeAt_nestedArray 0 2999
  have hunicode : deepArrayText.IsUnicode := by
    rw [hbrackets]
    exact Json.satisfies_brackets (p := fun c => c.isSurrogate = false) rfl rfl 3000
  have hreturn : deepArrayText.Satisfies (· ≠ .scalar '\r') := by
    rw [hbrackets]
    exact Json.satisfies_brackets (by decide) (by decide) 3000
  have htext : (baselineWith deepArrayText).readText baselinePath = .ok deepArrayText :=
    readText_of_bytesOf rfl hunicode hreturn
  have hoffends : ¬(Json.nestedArray 2998).IsEntry := by
    intro h
    obtain ⟨members, hmembers, -⟩ := h
    cases hmembers
  have hread : Json.read deepArrayText = .error .tooDeep := by
    rw [hbrackets]
    exact Json.read_brackets (by decide)
  exact ⟨htext, ⟨rfl, hoffends, fun j hj => absurd hj (Nat.not_lt_zero j)⟩,
    Json.hasUnicode_nestedArray _, readBaseline_of_read_error htext hread (by decide)⟩

end FileSystem

end CommandDocs
