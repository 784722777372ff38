import CommandDocs.Proofs.Json.Parts
import CommandDocs.Record.Validation

/-!
# Records and their objects

A merged record is read back from its object: the declared members stand in front and
bear the names that validation looks for, and the further members are what is left when
these are taken away.
-/

namespace CommandDocs

open Validation

/-- What is true of the further members of every record that was read: they have distinct
names, none of which is declared, and values in the form in which a reader gives them. -/
structure AreFurther (declared : List Text) (extras : Entries Text Json) : Prop where
  /-- Further members have distinct names. -/
  distinct : extras.keys.Nodup
  /-- Further members are not declared. -/
  further : ∀ name ∈ extras.keys, name ∉ declared
  /-- Their values have the form in which a reader gives them. -/
  values : ∀ member ∈ extras, member.2.Everywhere Json.AsRead

namespace MergedRecord

variable {r : MergedRecord}

/-- The further members of the record are such. -/
def IsProper (r : MergedRecord) : Prop := AreFurther declaredNames r.extras

/-- The members of a record that have a declared name. -/
def ownMembers (r : MergedRecord) : Entries Text Json :=
  r.declaredMembers ++ r.documentationMembers

/-- A record is written as its own members and the further ones. -/
theorem toJson_eq (r : MergedRecord) : r.toJson = .object (r.ownMembers ++ r.extras) := rfl

/-- The names of the own members; only the category may be missing. -/
def ownNames (category : Category) : List Text :=
  ("name" : Text) :: "description" :: "usage" ::
    (Entries.keys category.members ++ documentationNames)

/-- The own members bear these names in order. -/
theorem keys_ownMembers (r : MergedRecord) : r.ownMembers.keys = ownNames r.category := by
  rw [ownMembers, Entries.keys_append]
  rfl

/-- The own members have declared names. -/
theorem ownNames_subset (category : Category) : ownNames category ⊆ declaredNames := by
  cases category with
  | unset => decide
  | none => decide
  | named label =>
    have hnone : ownNames .none ⊆ declaredNames := by decide
    exact hnone

/-- The own members have distinct names. -/
theorem nodup_ownNames (category : Category) : (ownNames category).Nodup := by
  cases category with
  | unset => decide
  | none => decide
  | named label =>
    have hnone : (ownNames .none).Nodup := by decide
    exact hnone

/-- The object of a record has distinct names when its further members do and none of them is
declared. -/
theorem nodup_keys (hdistinct : r.extras.keys.Nodup)
    (hfurther : ∀ name ∈ r.extras.keys, name ∉ declaredNames) :
    (Entries.keys (r.ownMembers ++ r.extras)).Nodup := by
  rw [Entries.keys_append, keys_ownMembers, List.nodup_append]
  refine ⟨nodup_ownNames r.category, hdistinct, ?_⟩
  intro name hown _ hmember h
  subst h
  exact hfurther name hmember (ownNames_subset r.category hown)

/-- The members of an object that are not declared are the further ones. -/
theorem otherMembers_append (h : r.IsProper) (htexts : ∀ name ∈ r.extras.keys, name.IsUnicode) :
    otherMembers declaredNames (r.ownMembers ++ r.extras) = .ok r.extras := by
  have hown : (r.ownMembers.filter fun member => !declaredNames.contains member.1) = [] := by
    rw [List.filter_eq_nil_iff]
    intro member hmember
    have hname : member.1 ∈ declaredNames := ownNames_subset r.category
      (keys_ownMembers r ▸ List.mem_map_of_mem hmember)
    simpa using hname
  have hfurther : (r.extras.filter fun member => !declaredNames.contains member.1) = r.extras := by
    rw [List.filter_eq_self]
    intro member hmember
    have hname := h.further member.1 (List.mem_map_of_mem hmember)
    simpa using hname
  have hunicode : (r.extras.any fun member => member.1.any CodePoint.isSurrogate) = false := by
    rw [List.any_eq_false]
    intro member hmember
    have hname := htexts member.1 (List.mem_map_of_mem hmember)
    simpa [Text.IsUnicode] using hname
  simp only [otherMembers, List.filter_append, hown, hfurther, List.nil_append, hunicode,
    Bool.false_eq_true, if_false]

/-- A member among the own ones is found whatever the further ones are. -/
theorem find?_of_ownMembers {name : Text} {value : Json}
    (h : r.ownMembers.find? name = some value) :
    Entries.find? name (r.ownMembers ++ r.extras) = some value := by
  rw [Entries.find?_append, h, Option.some_or]

/-- The category is read as it was written, also when there is none. -/
theorem readCategory_append (h : r.IsProper) :
    readCategory (r.ownMembers ++ r.extras) = .ok r.category := by
  cases hcategory : r.category with
  | unset =>
    have hown : r.ownMembers.find? ("category" : Text) = none := by
      rw [ownMembers, BaselineRecord.declaredMembers, hcategory]
      rfl
    have hfurther : r.extras.find? ("category" : Text) = none :=
      Entries.find?_eq_none fun hmem => h.further _ hmem (by decide)
    simp only [readCategory, Entries.find?_append, hown, hfurther, Option.or_none]
  | none =>
    have hown : r.ownMembers.find? ("category" : Text) = some .null := by
      rw [ownMembers, BaselineRecord.declaredMembers, hcategory]
      rfl
    simp only [readCategory, find?_of_ownMembers hown]
  | named label =>
    have hown : r.ownMembers.find? ("category" : Text) = some (.text label) := by
      rw [ownMembers, BaselineRecord.declaredMembers, hcategory]
      rfl
    simp only [readCategory, find?_of_ownMembers hown]
    rfl

/-- The forms are read as they were written. -/
theorem readRowsFrom_map_toJson (rows : List SyntaxRow) (position : Nat) :
    readRowsFrom position (rows.map SyntaxRow.toJson) = .ok rows := by
  induction rows generalizing position with
  | nil => rfl
  | cons row rows ih =>
    have hrow : readRow row.toJson = .ok row := rfl
    simp only [List.map_cons, readRowsFrom, hrow, ih, Except.mapError, bind, Except.bind]

/-- A proper record is read back from its object. -/
theorem ofJson_toJson (h : r.IsProper) (htexts : ∀ name ∈ r.extras.keys, name.IsUnicode) :
    ofJson r.toJson = .ok r := by
  have hextras := otherMembers_append h htexts
  have hcategory := readCategory_append h
  have hfind : r.ownMembers.find? ("markdown" : Text) = some (.text r.markdown) ∧
      r.ownMembers.find? ("summary" : Text) = some (.text r.summary) ∧
      r.ownMembers.find? ("syntax" : Text) = some (.array (r.rows.map SyntaxRow.toJson)) ∧
      r.ownMembers.find? ("example" : Text) = some (.text r.exampleCode) := by
    rw [ownMembers, BaselineRecord.declaredMembers]
    cases r.category <;> exact ⟨rfl, rfl, rfl, rfl⟩
  obtain ⟨hmarkdown, hsummary, hsyntax, hexample⟩ := hfind
  have hname : requiredText (r.ownMembers ++ r.extras) "name" = .ok r.name := rfl
  have hdescription : requiredText (r.ownMembers ++ r.extras) "description" = .ok r.description :=
    rfl
  have husage : requiredText (r.ownMembers ++ r.extras) "usage" = .ok r.usage := rfl
  have hrows : readRows (r.ownMembers ++ r.extras) = .ok r.rows := by
    simp only [readRows, find?_of_ownMembers hsyntax, readRowsFrom_map_toJson, Except.mapError]
  have htext : ∀ {name t : Text}, r.ownMembers.find? name = some (.text t) →
      optionalText (r.ownMembers ++ r.extras) name = .ok t := by
    intro name t hfound
    simp only [optionalText, find?_of_ownMembers hfound, readText, Except.mapError]
  rw [toJson_eq]
  simp only [ofJson, BaselineRecord.ofMembers, hextras, hcategory, hrows, hname, hdescription,
    husage, htext hmarkdown, htext hsummary, htext hexample, bind, Except.bind]

/-- The record in which further numbers that JSON does not know have become null. -/
def finitePart (r : MergedRecord) : MergedRecord :=
  { r with extras := Json.finiteMembers r.extras }

/-- Only further members hold numbers. -/
theorem finitePart_toJson (r : MergedRecord) : r.toJson.finitePart = r.finitePart.toJson := by
  have hrows : (r.rows.map SyntaxRow.toJson).map Json.finitePart = r.rows.map SyntaxRow.toJson := by
    rw [List.map_map]
    rfl
  have hown : Json.finiteMembers r.ownMembers = r.ownMembers := by
    rw [ownMembers, BaselineRecord.declaredMembers, documentationMembers]
    cases r.category <;>
      simp only [Category.members, Json.finiteMembers, Json.finitePart, Json.finiteItems_eq_map,
        hrows, List.cons_append, List.nil_append]
  have happend : Json.finiteMembers (r.ownMembers ++ r.extras) =
      Json.finiteMembers r.ownMembers ++ Json.finiteMembers r.extras := by
    rw [Json.finiteMembers_eq_map, List.map_append, ← Json.finiteMembers_eq_map,
      ← Json.finiteMembers_eq_map]
  rw [toJson_eq, Json.finitePart, happend, hown]
  rfl

/-- The payload of a record is its object without unknown numbers. -/
theorem payload_eq_ok {written : Json} : r.payload = .ok written ↔
    written = r.finitePart.toJson ∧
      Json.checkWritableMembers Json.writableDepth r.extras = .ok () := by
  rw [payload, ← finitePart_toJson]
  cases Json.checkWritableMembers Json.writableDepth r.extras with
  | error e => exact iff_of_false (fun h => nomatch h) (fun h => nomatch h.2)
  | ok u =>
    constructor
    · intro h
      cases h
      exact ⟨rfl, rfl⟩
    · intro h
      rcases h with ⟨rfl, -⟩
      rfl

/-- A record without such numbers is left as it is. -/
theorem finitePart_of_everywhere
    (h : ∀ member ∈ r.extras, member.2.Everywhere Json.HasFinite) : r.finitePart = r := by
  have hextras : Json.finiteMembers r.extras = r.extras := by
    rw [Json.finiteMembers_eq_map]
    conv_rhs => rw [← List.map_id r.extras]
    exact List.map_congr_left fun member hmember =>
      Prod.ext rfl (Json.finitePart_of_everywhere (h member hmember))
  rw [finitePart, hextras]

/-- Once they have become null there are no such numbers. -/
theorem finitePart_finitePart (r : MergedRecord) : r.finitePart.finitePart = r.finitePart := by
  refine finitePart_of_everywhere fun member hmember => ?_
  rw [finitePart, Json.finiteMembers_eq_map] at hmember
  obtain ⟨original, -, rfl⟩ := List.mem_map.mp hmember
  exact Json.hasFinite_finitePart original.2

/-- The record stays proper. -/
theorem IsProper.finitePart (h : r.IsProper) : r.finitePart.IsProper := by
  have hkeys : r.finitePart.extras.keys = r.extras.keys := Json.keys_finiteMembers r.extras
  refine ⟨hkeys ▸ h.distinct, hkeys ▸ h.further, fun member hmember => ?_⟩
  rw [MergedRecord.finitePart, Json.finiteMembers_eq_map] at hmember
  obtain ⟨original, horiginal, rfl⟩ := List.mem_map.mp hmember
  exact Json.asRead_finitePart (h.values original horiginal)

/-- The values of own members are texts, null, or the list of forms. -/
theorem cases_of_mem_ownMembers {member : Text × Json} (h : member ∈ r.ownMembers) :
    (∃ t, member.2 = .text t) ∨ member.2 = .null ∨
      member.2 = .array (r.rows.map SyntaxRow.toJson) := by
  have hcategory : ∀ category : Category, member ∈ category.members →
      (∃ t, member.2 = .text t) ∨ member.2 = .null := by
    intro category hmember
    cases category with
    | unset => cases hmember
    | none =>
      rw [List.mem_singleton.mp hmember]
      exact Or.inr rfl
    | named label =>
      rw [List.mem_singleton.mp hmember]
      exact Or.inl ⟨label, rfl⟩
  simp only [ownMembers, BaselineRecord.declaredMembers, documentationMembers, List.mem_append,
    List.mem_cons, List.not_mem_nil, or_false] at h
  rcases h with (rfl | rfl | rfl | hmember) | rfl | rfl | rfl | rfl
  · exact Or.inl ⟨_, rfl⟩
  · exact Or.inl ⟨_, rfl⟩
  · exact Or.inl ⟨_, rfl⟩
  · exact (hcategory _ hmember).imp_right Or.inl
  · exact Or.inl ⟨_, rfl⟩
  · exact Or.inl ⟨_, rfl⟩
  · exact Or.inr (Or.inr rfl)
  · exact Or.inl ⟨_, rfl⟩

/-- The object of a form has the form in which a reader gives it. -/
theorem asRead_row (row : SyntaxRow) : row.toJson.Everywhere Json.AsRead := by
  have hnames : (("syntax" : Text) :: [("description" : Text)]).Nodup := by decide
  rw [SyntaxRow.toJson, Json.everywhere_object]
  refine ⟨hnames, fun member hmember => ?_⟩
  rcases List.mem_cons.mp hmember with rfl | hmember
  · exact Json.everywhere_of_isAtom trivial trivial
  · rw [List.mem_singleton.mp hmember]
    exact Json.everywhere_of_isAtom trivial trivial

/-- The own members have the form in which a reader gives them. -/
theorem asRead_ownMembers (r : MergedRecord) :
    ∀ member ∈ r.ownMembers, member.2.Everywhere Json.AsRead := by
  intro member hmember
  rcases cases_of_mem_ownMembers hmember with ⟨t, ht⟩ | hnull | hrows
  · rw [ht]
    exact Json.everywhere_of_isAtom trivial trivial
  · rw [hnull]
    exact Json.everywhere_of_isAtom trivial trivial
  · rw [hrows, Json.everywhere_array]
    refine ⟨trivial, fun item hitem => ?_⟩
    obtain ⟨row, -, rfl⟩ := List.mem_map.mp hitem
    exact asRead_row row

/-- The object of a proper record has the form in which a reader gives it. -/
theorem IsProper.asRead_toJson (h : r.IsProper) : r.toJson.Everywhere Json.AsRead := by
  rw [toJson_eq, Json.everywhere_object, List.forall_mem_append]
  exact ⟨nodup_keys h.distinct h.further, r.asRead_ownMembers, h.values⟩

/-- The object of a record is nested one value deeper than its further members, and at
least as deep as the list of forms needs. -/
theorem nestedWithin_toJson {depth : Nat} (hdepth : 3 ≤ depth)
    (h : ∀ member ∈ r.extras, Json.NestedWithin depth member.2) :
    Json.NestedWithin (depth + 1) r.toJson := by
  intro member hmember
  rcases List.mem_append.mp hmember with hown | hfurther
  · have hthree : Json.NestedWithin 3 member.2 := by
      rcases cases_of_mem_ownMembers hown with ⟨t, ht⟩ | hnull | hrows
      · rw [ht]
        trivial
      · rw [hnull]
        trivial
      · rw [hrows]
        intro item hitem
        obtain ⟨row, -, rfl⟩ := List.mem_map.mp hitem
        intro part hpart
        rcases List.mem_cons.mp hpart with rfl | hpart
        · trivial
        · rw [List.mem_singleton.mp hpart]
          trivial
    exact hthree.mono hdepth
  · exact h member hfurther

end MergedRecord

end CommandDocs
