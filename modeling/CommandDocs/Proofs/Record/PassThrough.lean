import CommandDocs.Proofs.Record.Reading

/-!
# What merging passes through

The object of a merged record next to the object of its entry: which members it has, in
which order, and which values are those of the entry.
-/

namespace CommandDocs

/-- A written object has the members of an object of the baseline: the declared ones in
front, with the category only if the entry has one, then the documentation, and then all
others in their order. All values but the description and the documentation are kept. -/
structure PassesThrough (members written : Entries Text Json) : Prop where
  /-- The names in order. -/
  keys : written.keys =
    ("name" : Text) :: "description" :: "usage" ::
      ((if ("category" : Text) ∈ members.keys then [("category" : Text)] else []) ++
        MergedRecord.documentationNames ++
          members.keys.filter fun name => !MergedRecord.declaredNames.contains name)
  /-- The values, also where there is none. -/
  values : ∀ name : Text, name ≠ ("description" : Text) →
    name ∉ MergedRecord.documentationNames → written.find? name = members.find? name

/-- A category has a member when its value is found. -/
theorem Category.keys_members {category : Category} {members : Entries Text Json}
    (h : members.find? ("category" : Text) = category.value?) :
    Entries.keys category.members =
      if ("category" : Text) ∈ members.keys then [("category" : Text)] else [] := by
  have hmem : ("category" : Text) ∈ members.keys ↔ category.value?.isSome = true := by
    rw [← Entries.isSome_find?, h]
  cases category with
  | unset => rw [if_neg fun h => nomatch hmem.mp h]; rfl
  | none => rw [if_pos (hmem.mpr rfl)]; rfl
  | named label => rw [if_pos (hmem.mpr rfl)]; rfl

namespace BaselineRecord

variable {b : BaselineRecord} {members : Entries Text Json}

/-- The further members of a merged record are those of the object that are not declared. -/
theorem extras_merge_of_ofJson (h : ofJson (.object members) = .ok b)
    (isPlaceholder : PlaceholderTest) (page : Option Page.Extraction) :
    (b.merge isPlaceholder page).extras =
      members.filter fun member => !MergedRecord.declaredNames.contains member.1 := by
  obtain ⟨_, ⟨⟩, -, -, -, -, hextras, -⟩ := ofJson_eq_ok.mp h
  rw [extras_merge, hextras, List.filter_filter]
  refine List.filter_congr fun member _ => ?_
  rw [MergedRecord.declaredNames, List.contains_append, Bool.not_or, Bool.and_comm]

/-- The object of a merged record has the members of the object of its entry. -/
theorem passesThrough_merge (h : ofJson (.object members) = .ok b)
    (isPlaceholder : PlaceholderTest) (page : Option Page.Extraction) :
    PassesThrough members ((b.merge isPlaceholder page).ownMembers ++
      (b.merge isPlaceholder page).extras) := by
  have hextras := extras_merge_of_ofJson h isPlaceholder page
  obtain ⟨hname, husage, hcategory⟩ := merge_eq b isPlaceholder page
  obtain ⟨_, ⟨⟩, hnameIn, -, husageIn, hcategoryIn, -, -⟩ := ofJson_eq_ok.mp h
  generalize b.merge isPlaceholder page = r at hextras hname husage hcategory
  rw [← hname] at hnameIn
  rw [← husage] at husageIn
  rw [← hcategory] at hcategoryIn
  constructor
  · rw [Entries.keys_append, MergedRecord.keys_ownMembers, MergedRecord.ownNames, hextras,
      Entries.keys_filter fun name => !MergedRecord.declaredNames.contains name,
      Category.keys_members hcategoryIn]
    simp only [List.cons_append, List.append_assoc]
  · intro name hdescription hdocumentation
    by_cases hdeclared : name ∈ MergedRecord.declaredNames
    · -- one of the three declared members that merging never touches
      rw [MergedRecord.declaredNames, List.mem_append] at hdeclared
      have hbaseline := hdeclared.resolve_right hdocumentation
      simp only [declaredNames, List.mem_cons, List.not_mem_nil, or_false] at hbaseline
      rcases hbaseline with rfl | rfl | rfl | rfl
      · exact hnameIn.symm
      · exact absurd rfl hdescription
      · exact husageIn.symm
      · have hfurther : r.extras.find? ("category" : Text) = none := by
          rw [hextras, Entries.find?_filter fun name => !MergedRecord.declaredNames.contains name]
          rfl
        rw [Entries.find?_append, MergedRecord.find?_category_ownMembers, hfurther, Option.or_none,
          hcategoryIn]
    · have hown : r.ownMembers.find? name = none := by
        refine Entries.find?_eq_none fun hmem => hdeclared ?_
        rw [MergedRecord.keys_ownMembers] at hmem
        exact MergedRecord.ownNames_subset r.category hmem
      rw [Entries.find?_append, hown, Option.none_or, hextras,
        Entries.find?_filter fun name => !MergedRecord.declaredNames.contains name]
      simp [hdeclared]

end BaselineRecord

end CommandDocs
