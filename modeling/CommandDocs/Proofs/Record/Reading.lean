import CommandDocs.Proofs.File.Contents
import CommandDocs.Proofs.Json.ReadForm
import CommandDocs.Proofs.Record.RoundTrip
import CommandDocs.Record.Merge
import Mathlib.Data.List.Forall2

/-!
# Records that are read

When an object is accepted as a baseline record, and which of its members the record has.
Its further members are those that are not declared. Merging keeps them but for the names
that documentation takes, so that they are further members of the merged record as well.
-/

namespace CommandDocs

open Validation

variable {members extras : Entries Text Json} {declared : List Text} {value : Json}

/-- The value of the member for a category, when there is one. -/
def Category.value? : Category → Option Json
  | unset => Option.none
  | none => some .null
  | named label => some (.text label)

/-- The category among the own members of a record bears its value. -/
theorem MergedRecord.find?_category_ownMembers (r : MergedRecord) :
    r.ownMembers.find? ("category" : Text) = r.category.value? := by
  rw [ownMembers, BaselineRecord.declaredMembers]
  cases r.category <;> rfl

/-- A member is read as a text where there is one. -/
theorem requiredText_eq_ok {name t : Text} :
    requiredText members name = .ok t ↔ members.find? name = some (.text t) := by
  rw [requiredText]
  cases members.find? name with
  | none => exact iff_of_false (fun h => nomatch h) (fun h => nomatch h)
  | some value =>
    dsimp only
    rw [mapError_eq_ok, Option.some.injEq]
    cases value with
    | text t' => exact ⟨fun h => by cases h; rfl, fun h => by cases h; rfl⟩
    | _ => exact iff_of_false (fun h => nomatch h) (fun h => nomatch h)

/-- A category is read where there is a text, null or nothing. -/
theorem readCategory_eq_ok {category : Category} :
    readCategory members = .ok category ↔
      members.find? ("category" : Text) = category.value? := by
  rw [readCategory]
  constructor
  · intro h
    split at h
    · rename_i hfind
      cases h
      exact hfind
    · rename_i hfind
      cases h
      exact hfind
    · rename_i value _ hfind
      rw [mapError_eq_ok] at h
      cases value <;> cases h
      exact hfind
  · intro h
    rw [h]
    cases category <;> rfl

/-- Further members are those that are not declared, as long as their names are Unicode. -/
theorem otherMembers_eq_ok : otherMembers declared members = .ok extras ↔
    extras = (members.filter fun member => !declared.contains member.1) ∧
      ∀ member ∈ extras, member.1.IsUnicode := by
  have hunicode : ∀ others : Entries Text Json,
      (others.any fun member => member.1.any CodePoint.isSurrogate) = false ↔
        ∀ member ∈ others, member.1.IsUnicode := by
    intro others
    simp only [List.any_eq_false, Bool.not_eq_true, Text.IsUnicode]
  rw [otherMembers]
  split
  · rename_i hany
    refine iff_of_false (by simp) ?_
    intro h
    rcases h with ⟨rfl, hnames⟩
    rw [(hunicode _).mpr hnames] at hany
    cases hany
  · rename_i hany
    rw [Except.ok.injEq]
    constructor
    · intro h
      subst h
      exact ⟨rfl, (hunicode _).mp (Bool.not_eq_true _ ▸ hany)⟩
    · intro h
      exact h.1.symm

/-- An object is accepted as a baseline record when its members are those of the record. -/
theorem BaselineRecord.ofJson_eq_ok {b : BaselineRecord} : BaselineRecord.ofJson value = .ok b ↔
    ∃ members : Entries Text Json, value = .object members ∧
      members.find? ("name" : Text) = some (.text b.name) ∧
      members.find? ("description" : Text) = some (.text b.description) ∧
      members.find? ("usage" : Text) = some (.text b.usage) ∧
      members.find? ("category" : Text) = b.category.value? ∧
      b.extras = (members.filter fun member => !declaredNames.contains member.1) ∧
      ∀ member ∈ b.extras, member.1.IsUnicode := by
  cases value with
  | object members =>
    simp only [BaselineRecord.ofJson, ofMembers, bind_eq_ok, requiredText_eq_ok,
      readCategory_eq_ok, otherMembers_eq_ok]
    constructor
    · intro h
      rcases h with ⟨extras, ⟨hextras, hunicode⟩, name, hname, description, hdescription, usage,
        husage, category, hcategory, ⟨⟩⟩
      exact ⟨members, rfl, hname, hdescription, husage, hcategory, hextras, hunicode⟩
    · intro h
      rcases h with ⟨_, ⟨⟩, hname, hdescription, husage, hcategory, hextras, hunicode⟩
      exact ⟨b.extras, ⟨hextras, hunicode⟩, b.name, hname, b.description, hdescription, b.usage,
        husage, b.category, hcategory, rfl⟩
  | _ => exact iff_of_false (by simp [BaselineRecord.ofJson]) (by simp)

/-- A record that was read consists of members of its object. -/
theorem BaselineRecord.subset_of_ofJson {b : BaselineRecord}
    (h : BaselineRecord.ofJson (.object members) = .ok b) :
    b.declaredMembers ++ b.extras ⊆ members := by
  obtain ⟨_, ⟨⟩, hname, hdescription, husage, hcategory, hextras, -⟩ := ofJson_eq_ok.mp h
  intro member hmember
  rcases List.mem_append.mp hmember with hdeclared | hfurther
  · simp only [declaredMembers, List.mem_cons] at hdeclared
    rcases hdeclared with rfl | rfl | rfl | hmember
    · exact Entries.mem_of_find? hname
    · exact Entries.mem_of_find? hdescription
    · exact Entries.mem_of_find? husage
    · cases hlabel : b.category with
      | unset =>
        rw [hlabel] at hmember
        cases hmember
      | none =>
        rw [hlabel] at hmember hcategory
        rw [List.mem_singleton.mp hmember]
        exact Entries.mem_of_find? hcategory
      | named label =>
        rw [hlabel] at hmember hcategory
        rw [List.mem_singleton.mp hmember]
        exact Entries.mem_of_find? hcategory
  · rw [hextras] at hfurther
    exact (List.mem_filter.mp hfurther).1

/-- The further members of a baseline record are such. -/
theorem BaselineRecord.areFurther_of_ofJson {b : BaselineRecord}
    (h : BaselineRecord.ofJson value = .ok b) (hform : value.Everywhere Json.AsRead) :
    AreFurther declaredNames b.extras := by
  obtain ⟨members, rfl, -, -, -, -, hextras, -⟩ := ofJson_eq_ok.mp h
  rw [Json.everywhere_object] at hform
  rw [hextras]
  constructor
  · exact hform.1.sublist (List.filter_sublist.map _)
  · intro name hname
    obtain ⟨member, hmember, rfl⟩ := List.mem_map.mp hname
    simpa using (List.mem_filter.mp hmember).2
  · exact fun member hmember => hform.2 member (List.mem_filter.mp hmember).1

/-- The records of a baseline are read one by one from its items. -/
theorem baselineRecordsFrom_eq_ok {position : Nat} {items : List Json}
    {baselines : List BaselineRecord} : baselineRecordsFrom position items = .ok baselines ↔
      List.Forall₂ (fun item b => BaselineRecord.ofJson item = .ok b) items baselines := by
  induction items generalizing position baselines with
  | nil =>
    rw [List.forall₂_nil_left_iff, baselineRecordsFrom, Except.ok.injEq, eq_comm]
  | cons item items ih =>
    rw [List.forall₂_cons_left_iff]
    cases item with
    | object members =>
      simp only [baselineRecordsFrom, bind_eq_ok, mapError_eq_ok, ih, Except.ok.injEq]
      constructor
      · intro h
        rcases h with ⟨first, hfirst, rest, hrest, rfl⟩
        exact ⟨first, rest, hfirst, hrest, rfl⟩
      · intro h
        rcases h with ⟨first, rest, hfirst, hrest, rfl⟩
        exact ⟨first, hfirst, rest, hrest, rfl⟩
    | _ => exact iff_of_false (fun h => nomatch h) (fun ⟨_, _, h, _⟩ => nomatch h)

/-- Each record of a baseline is read from one of the items. -/
theorem exists_item_of_mem_baselines {items : List Json} {baselines : List BaselineRecord}
    (h : List.Forall₂ (fun item b => BaselineRecord.ofJson item = .ok b) items baselines)
    {b : BaselineRecord} (hb : b ∈ baselines) :
    ∃ item ∈ items, BaselineRecord.ofJson item = .ok b := by
  obtain ⟨i, hi, rfl⟩ := List.getElem_of_mem hb
  have hitem : i < items.length := h.length_eq ▸ hi
  exact ⟨items[i], List.getElem_mem hitem, h.get hitem hi⟩

/-- The items of a collection that is read have the form in which a reader gives them. -/
theorem FileSystem.asRead_of_readItems {fs : FileSystem} {kind : CollectionKind} {p : Path}
    {items : List Json} (h : fs.readItems kind p = .ok items) :
    ∀ item ∈ items, item.Everywhere Json.AsRead := by
  obtain ⟨text, -, hread⟩ := readItems_eq_ok.mp h
  exact (Json.everywhere_array.mp (Json.asRead_of_read hread)).2

/-- A baseline is read from the items of a collection. -/
theorem FileSystem.readBaseline_eq_ok {fs : FileSystem} {p : Path}
    {baselines : List BaselineRecord} :
    fs.readBaseline p = .ok baselines ↔ ∃ items, fs.readItems .baseline p = .ok items ∧
      List.Forall₂ (fun item b => BaselineRecord.ofJson item = .ok b) items baselines := by
  simp only [readBaseline, bind_eq_ok, mapError_eq_ok, baselineRecordsFrom_eq_ok]

/-- A baseline that is read from a file has further members that are such. -/
theorem FileSystem.areFurther_of_readBaseline {fs : FileSystem} {p : Path}
    {baselines : List BaselineRecord} (h : fs.readBaseline p = .ok baselines) :
    ∀ b ∈ baselines, AreFurther BaselineRecord.declaredNames b.extras := by
  obtain ⟨items, hitems, hrecords⟩ := readBaseline_eq_ok.mp h
  intro b hb
  obtain ⟨item, hitem, hread⟩ := exists_item_of_mem_baselines hrecords hb
  exact BaselineRecord.areFurther_of_ofJson hread (asRead_of_readItems hitems item hitem)

/-- Merging keeps further members but for those with a name of documentation. -/
theorem BaselineRecord.extras_merge (b : BaselineRecord) (isPlaceholder : PlaceholderTest)
    (page : Option Page.Extraction) :
    (b.merge isPlaceholder page).extras =
      b.extras.filter fun m => !MergedRecord.documentationNames.contains m.1 := by
  cases page <;> rfl

/-- Name, usage and category of a merged record are those of the entry. -/
theorem BaselineRecord.merge_eq (b : BaselineRecord) (isPlaceholder : PlaceholderTest)
    (page : Option Page.Extraction) :
    (b.merge isPlaceholder page).name = b.name ∧ (b.merge isPlaceholder page).usage = b.usage ∧
      (b.merge isPlaceholder page).category = b.category := by
  cases page <;> exact ⟨rfl, rfl, rfl⟩

/-- A merged record is proper when the further members of the baseline record are such. -/
theorem BaselineRecord.isProper_merge {b : BaselineRecord}
    (h : AreFurther BaselineRecord.declaredNames b.extras) (isPlaceholder : PlaceholderTest)
    (page : Option Page.Extraction) : (b.merge isPlaceholder page).IsProper := by
  rw [MergedRecord.IsProper, extras_merge]
  constructor
  · exact h.distinct.sublist (List.filter_sublist.map _)
  · intro name hname
    obtain ⟨member, hmember, rfl⟩ := List.mem_map.mp hname
    obtain ⟨horiginal, hdocumentation⟩ := List.mem_filter.mp hmember
    rw [MergedRecord.declaredNames, List.mem_append, not_or]
    exact ⟨h.further _ (List.mem_map_of_mem horiginal), by simpa using hdocumentation⟩
  · exact fun member hmember => h.values member (List.mem_filter.mp hmember).1

end CommandDocs
