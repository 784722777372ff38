import CommandDocs.Proofs.Page.Unicode
import CommandDocs.Proofs.Record.Reading

/-!
# Texts of records

A record has no surrogate in it when its object has none. A baseline record has none that
the object it was read from does not have, and merging adds only the texts of the page.
-/

namespace CommandDocs

/-- Everywhere in an object there are Unicode texts: in its names and in its values. -/
theorem Json.everywhere_hasUnicode_object {members : Entries Text Json} :
    (Json.object members).Everywhere HasUnicode ↔
      ∀ member ∈ members, member.1.IsUnicode ∧ member.2.Everywhere HasUnicode := by
  rw [everywhere_object]
  exact forall₂_and.symm

/-- The object of a form is Unicode when its texts are. -/
theorem SyntaxRow.hasUnicode_toJson {row : SyntaxRow}
    (h : row.form.IsUnicode ∧ row.description.IsUnicode) :
    row.toJson.Everywhere Json.HasUnicode := by
  rw [toJson, Json.everywhere_hasUnicode_object]
  simpa [Json.HasUnicode] using h

namespace BaselineRecord

variable {b : BaselineRecord}

/-- The texts of a baseline record are those of its object. -/
theorem hasUnicode_toJson : b.toJson.Everywhere Json.HasUnicode ↔
    b.name.IsUnicode ∧ b.description.IsUnicode ∧ b.usage.IsUnicode ∧
      ∀ member ∈ b.category.members ++ b.extras,
        member.1.IsUnicode ∧ member.2.Everywhere Json.HasUnicode := by
  rw [toJson, Json.everywhere_hasUnicode_object, declaredMembers]
  simp only [List.cons_append, List.forall_mem_cons, Text.isUnicode_ofString, true_and,
    Json.everywhere_text, Json.HasUnicode]

/-- A baseline record has the texts of the object it was read from. -/
theorem hasUnicode_of_ofJson {value : Json} (h : ofJson value = .ok b)
    (htexts : value.Everywhere Json.HasUnicode) : b.toJson.Everywhere Json.HasUnicode := by
  obtain ⟨members, rfl, -⟩ := ofJson_eq_ok.mp h
  rw [Json.everywhere_hasUnicode_object] at htexts
  rw [toJson, Json.everywhere_hasUnicode_object]
  exact fun member hmember => htexts member (subset_of_ofJson h hmember)

/-- The page that stands in for a missing one has the texts of the record. -/
theorem isUnicode_synthesizedPage (hname : b.name.IsUnicode)
    (hdescription : b.description.IsUnicode) (husage : b.usage.IsUnicode) :
    b.synthesizedPage.IsUnicode := by
  simp only [synthesizedPage, Text.isUnicode_append, Text.isUnicode_ofString, hname, hdescription,
    husage, and_true]

end BaselineRecord

namespace MergedRecord

variable {r : MergedRecord}

/-- The texts of a merged record are those of its entry and those of its documentation. -/
theorem hasUnicode_toJson : r.toJson.Everywhere Json.HasUnicode ↔
    r.toBaselineRecord.toJson.Everywhere Json.HasUnicode ∧
      ∀ member ∈ r.documentationMembers, member.2.Everywhere Json.HasUnicode := by
  have hnames : ∀ member ∈ r.documentationMembers, member.1.IsUnicode := by
    simp [documentationMembers]
  rw [toJson, BaselineRecord.toJson, Json.everywhere_hasUnicode_object,
    Json.everywhere_hasUnicode_object]
  simp only [List.forall_mem_append]
  constructor
  · intro h
    exact ⟨⟨h.1.1, h.2⟩, fun member hmember => (h.1.2 member hmember).2⟩
  · intro h
    exact ⟨⟨h.1.1, fun member hmember => ⟨hnames member hmember, h.2 member hmember⟩⟩, h.1.2⟩

/-- Documentation is Unicode when each of its texts is. -/
theorem hasUnicode_documentationMembers (hmarkdown : r.markdown.IsUnicode)
    (hsummary : r.summary.IsUnicode)
    (hrows : ∀ row ∈ r.rows, row.form.IsUnicode ∧ row.description.IsUnicode)
    (hexample : r.exampleCode.IsUnicode) :
    ∀ member ∈ r.documentationMembers, member.2.Everywhere Json.HasUnicode := by
  have hforms : (Json.array (r.rows.map SyntaxRow.toJson)).Everywhere Json.HasUnicode := by
    rw [Json.everywhere_array]
    refine ⟨trivial, fun item hitem => ?_⟩
    obtain ⟨row, hrow, rfl⟩ := List.mem_map.mp hitem
    exact SyntaxRow.hasUnicode_toJson (hrows row hrow)
  simpa [documentationMembers, Json.HasUnicode] using ⟨hmarkdown, hsummary, hforms, hexample⟩

end MergedRecord

/-- A merged record has the texts of its entry and of its page. -/
theorem BaselineRecord.hasUnicode_merge {b : BaselineRecord} {page : Option Page.Extraction}
    (htexts : b.toJson.Everywhere Json.HasUnicode) (hpage : ∀ said ∈ page, said.IsUnicode)
    (isPlaceholder : PlaceholderTest) :
    (b.merge isPlaceholder page).toJson.Everywhere Json.HasUnicode := by
  obtain ⟨hname, hdescription, husage, hmembers⟩ := hasUnicode_toJson.mp htexts
  rw [List.forall_mem_append] at hmembers
  have hcarried : ∀ member ∈ b.category.members ++ b.carried.extras,
      member.1.IsUnicode ∧ member.2.Everywhere Json.HasUnicode :=
    List.forall_mem_append.mpr ⟨hmembers.1, fun member hmember =>
      hmembers.2 member (List.mem_filter.mp hmember).1⟩
  rw [MergedRecord.hasUnicode_toJson, hasUnicode_toJson]
  cases page with
  | none =>
    refine ⟨⟨hname, hdescription, husage, hcarried⟩, ?_⟩
    refine MergedRecord.hasUnicode_documentationMembers
      (isUnicode_synthesizedPage hname hdescription husage) hdescription ?_ Text.isUnicode_nil
    intro row hrow
    rw [List.mem_singleton.mp hrow]
    exact ⟨husage, hdescription⟩
  | some said =>
    have hsaid := hpage said rfl
    refine ⟨⟨hname, ?_, husage, hcarried⟩, ?_⟩
    · rw [merge, withPage]
      dsimp only
      split
      · exact hdescription
      · exact hsaid.description
    · exact MergedRecord.hasUnicode_documentationMembers hsaid.body hsaid.summary hsaid.rows
        hsaid.exampleCode

end CommandDocs
