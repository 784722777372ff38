import CommandDocs.Proofs.Record.Reading

/-!
# Merged records as a baseline

The object of a merged record is also accepted as an entry of a baseline, whose further
members are then the documentation and what was further before. Merged with the same page
such an entry gives the record again: the documentation gives way to itself, and the
description that the page left alone is left alone once more.
-/

namespace CommandDocs

/-- The entry of a baseline that has the object of the record. -/
def MergedRecord.asBaseline (r : MergedRecord) : BaselineRecord :=
  { r.toBaselineRecord with extras := r.documentationMembers ++ r.extras }

namespace MergedRecord

variable {r : MergedRecord}

/-- The object of a record is read as that entry, as long as no further member has a name of
the baseline or one with surrogates. -/
theorem ofJson_asBaseline (hfurther : ∀ name ∈ r.extras.keys, name ∉ BaselineRecord.declaredNames)
    (hunicode : ∀ name ∈ r.extras.keys, name.IsUnicode) :
    BaselineRecord.ofJson r.toJson = .ok r.asBaseline := by
  have hextras : (r.extras.filter fun member =>
      !BaselineRecord.declaredNames.contains member.1) = r.extras := by
    rw [List.filter_eq_self]
    intro member hmember
    simpa using hfurther member.1 (List.mem_map_of_mem hmember)
  have hcategory : Entries.find? ("category" : Text) (r.ownMembers ++ r.extras) =
      r.category.value? := by
    have hnone : r.extras.find? ("category" : Text) = none :=
      Entries.find?_eq_none fun hmem => hfurther _ hmem (by decide)
    rw [Entries.find?_append, find?_category_ownMembers, hnone, Option.or_none]
  have hothers : ((r.ownMembers ++ r.extras).filter fun member =>
      !BaselineRecord.declaredNames.contains member.1) = r.documentationMembers ++ r.extras := by
    rw [List.filter_append, hextras, ownMembers, BaselineRecord.declaredMembers]
    cases r.category <;> rfl
  refine BaselineRecord.ofJson_eq_ok.mpr
    ⟨r.ownMembers ++ r.extras, rfl, rfl, rfl, rfl, hcategory, hothers.symm, ?_⟩
  rw [asBaseline, List.forall_mem_append]
  refine ⟨by simp [documentationMembers], fun member hmember => ?_⟩
  exact hunicode member.1 (List.mem_map_of_mem hmember)

/-- Merging takes the documentation out of that entry again. -/
theorem carried_asBaseline (h : ∀ name ∈ r.extras.keys, name ∉ documentationNames) :
    r.asBaseline.carried = r.toBaselineRecord := by
  have hdocumentation : (r.documentationMembers.filter fun member =>
      !documentationNames.contains member.1) = [] := rfl
  have hextras : (r.extras.filter fun member => !documentationNames.contains member.1) =
      r.extras := by
    rw [List.filter_eq_self]
    intro member hmember
    simpa using h member.1 (List.mem_map_of_mem hmember)
  rw [BaselineRecord.carried, asBaseline, List.filter_append, hdocumentation, hextras,
    List.nil_append]

end MergedRecord

namespace BaselineRecord

/-- No further member of a merged record, even without unknown numbers, has a name of
documentation. -/
theorem not_mem_documentationNames_of_merge {b : BaselineRecord} {isPlaceholder : PlaceholderTest}
    {page : Option Page.Extraction} {name : Text}
    (h : name ∈ (b.merge isPlaceholder page).finitePart.extras.keys) :
    name ∉ MergedRecord.documentationNames ∧ name ∈ b.extras.keys := by
  rw [MergedRecord.finitePart, Json.keys_finiteMembers, extras_merge] at h
  obtain ⟨member, hmember, rfl⟩ := List.mem_map.mp h
  obtain ⟨horiginal, hkept⟩ := List.mem_filter.mp hmember
  exact ⟨by simpa using hkept, List.mem_map_of_mem horiginal⟩

/-- A merged record is merged with its page as before. -/
theorem merge_asBaseline (b : BaselineRecord) (isPlaceholder : PlaceholderTest)
    (page : Option Page.Extraction) :
    (b.merge isPlaceholder page).finitePart.asBaseline.merge isPlaceholder page =
      (b.merge isPlaceholder page).finitePart := by
  have hcarried : (b.merge isPlaceholder page).finitePart.asBaseline.carried =
      (b.merge isPlaceholder page).finitePart.toBaselineRecord :=
    MergedRecord.carried_asBaseline fun name hname => (not_mem_documentationNames_of_merge hname).1
  cases page with
  | none =>
    rw [merge, withSynthesizedPage, hcarried]
    rfl
  | some said =>
    rw [merge, withPage, hcarried]
    -- whether the description is kept depends on the page and the name only
    by_cases hkeeps : (said.description.isEmpty || isPlaceholder said.description b.name) = true
    · simp only [merge, withPage, MergedRecord.finitePart, MergedRecord.asBaseline, carried, hkeeps,
        if_true]
    · simp only [merge, withPage, MergedRecord.finitePart, MergedRecord.asBaseline, carried, hkeeps,
        Bool.false_eq_true, if_false]

/-- The payload of a merged record is accepted as an entry of a baseline, and merged with the
same page that entry has the same payload. -/
theorem payload_merge_again {b : BaselineRecord} {isPlaceholder : PlaceholderTest}
    {page : Option Page.Extraction} {payload : Json}
    (hfurther : ∀ name ∈ b.extras.keys, name ∉ declaredNames)
    (hpayload : (b.merge isPlaceholder page).payload = .ok payload) :
    ∃ again, ofJson payload = .ok again ∧
      (again.merge isPlaceholder page).payload = .ok payload := by
  obtain ⟨rfl, hcheck⟩ := MergedRecord.payload_eq_ok.mp hpayload
  refine ⟨_, MergedRecord.ofJson_asBaseline (fun name hname =>
    hfurther name (not_mem_documentationNames_of_merge hname).2) ?_, ?_⟩
  · intro name hname
    rw [MergedRecord.finitePart, Json.keys_finiteMembers] at hname
    obtain ⟨member, hmember, rfl⟩ := List.mem_map.mp hname
    exact (Json.checkWritableMembers_eq_ok.mp hcheck member hmember).1
  · rw [merge_asBaseline, MergedRecord.payload_eq_ok, MergedRecord.finitePart_finitePart]
    refine ⟨rfl, ?_⟩
    rw [MergedRecord.finitePart, Json.checkWritableMembers_finiteMembers]
    exact hcheck

end BaselineRecord

end CommandDocs
