import CommandDocs.Proofs.Corpus.Storing
import CommandDocs.Proofs.Record.PassThrough
import CommandDocs.Proofs.Record.Unicode

/-!
# From the baseline to the output

Each object of the baseline that can be stored comes back in the output in the same
position, with the members of a merged record.
-/

namespace CommandDocs

open Generate

/-- An item of a baseline without anything that a file cannot hold: its texts have no
surrogates, its numbers are finite, and its members are nested no deeper than the writer
goes. -/
structure Json.IsStorable (item : Json) : Prop where
  /-- The form in which a reader gives the item. -/
  form : item.Everywhere AsRead
  /-- All names and strings are Unicode. -/
  texts : item.Everywhere HasUnicode
  /-- All numbers are finite. -/
  numbers : item.Everywhere HasFinite
  /-- Members are nested within the bound of the writer. -/
  depth : NestedWithin (writableDepth + 1) item

/-- An entry that is read and can be stored can be stored with its documentation. -/
theorem BaselineRecord.isStorable_merge {b : BaselineRecord} {item : Json}
    {page : Option Page.Extraction} (hread : ofJson item = .ok b) (hitem : item.IsStorable)
    (hpage : ∀ said ∈ page, said.IsUnicode) (isPlaceholder : PlaceholderTest) :
    (b.merge isPlaceholder page).IsProper ∧ (b.merge isPlaceholder page).IsStorable := by
  obtain ⟨members, rfl, -⟩ := ofJson_eq_ok.mp hread
  have hextras : ∀ member ∈ (b.merge isPlaceholder page).extras, member ∈ members := by
    intro member hmember
    rw [extras_merge] at hmember
    exact subset_of_ofJson hread (List.mem_append_right _ (List.mem_filter.mp hmember).1)
  have hproper := isProper_merge (areFurther_of_ofJson hread hitem.form) isPlaceholder page
  refine ⟨hproper, hproper.isStorable ?_ ?_ ?_⟩
  · exact hasUnicode_merge (hasUnicode_of_ofJson hread hitem.texts) hpage isPlaceholder
  · exact fun member hmember =>
      (Json.everywhere_object.mp hitem.numbers).2 member (hextras member hmember)
  · exact fun member hmember => hitem.depth member (hextras member hmember)

/-- A page of a table is one of its values. -/
theorem Entries.isUnicode_of_find? {pages : Entries Text Page.Extraction}
    (hpages : ∀ entry ∈ pages, entry.2.IsUnicode) (name : Text) :
    ∀ said ∈ pages.find? name, said.IsUnicode :=
  fun _ hsaid => hpages _ (mem_of_find? hsaid)

/-- The objects that are written for a baseline have, in the same positions, the members of
its objects. Name, usage, category and all members that are not declared pass through. -/
theorem writeCorpus_passesThrough {fs : FileSystem} {p : Path} {items : List Json}
    {baselines : List BaselineRecord} (hitems : fs.readItems .baseline p = .ok items)
    (hbaselines : fs.readBaseline p = .ok baselines)
    (htexts : ∀ item ∈ items, item.Everywhere Json.HasUnicode)
    (hnumbers : ∀ item ∈ items, item.Everywhere Json.HasFinite)
    (hdepth : ∀ item ∈ items, Json.NestedWithin (Json.writableDepth + 1) item)
    {pages : Entries Text Page.Extraction} (hpages : ∀ entry ∈ pages, entry.2.IsUnicode)
    (isPlaceholder : PlaceholderTest) {s : RunState} {output : Path}
    (hopen : s.files.CanOpen output) :
    ∃ s' written,
      (writeCorpus output (mergeCorpus isPlaceholder baselines pages).records).run.run s =
        (.ok (), s') ∧
      s'.files.readText output =
        .ok (Json.write Json.Layout.indented (.array written) ++ ("\n" : Text)) ∧
      s'.files.readItems .commandData output = .ok written ∧
      List.Forall₂ (fun item object => ∃ members members', item = .object members ∧
        object = .object members' ∧ PassesThrough members members') items written := by
  obtain ⟨_, hitems', hrecords⟩ := FileSystem.readBaseline_eq_ok.mp hbaselines
  rw [hitems, Except.ok.injEq] at hitems'
  subst hitems'
  have hitem : ∀ item ∈ items, item.IsStorable := fun item h =>
    ⟨FileSystem.asRead_of_readItems hitems item h, htexts item h, hnumbers item h, hdepth item h⟩
  have hmerged : ∀ r ∈ (mergeCorpus isPlaceholder baselines pages).records,
      r.IsProper ∧ r.IsStorable := by
    intro r hr
    obtain ⟨b, hb, rfl⟩ := List.mem_map.mp hr
    obtain ⟨item, hmem, hread⟩ := exists_item_of_mem_baselines hrecords hb
    exact BaselineRecord.isStorable_merge hread (hitem item hmem)
      (Entries.isUnicode_of_find? hpages b.name) isPlaceholder
  obtain ⟨text, bytes, htext, hencode⟩ := encode_corpusText (fun r hr => (hmerged r hr).2)
    fun r hr => (hmerged r hr).1.hasShortIntegers
  obtain ⟨hdirectories, opened, hopened⟩ := hopen
  obtain ⟨written, hwritten⟩ := FileSystem.writeFile_of_writeFile hopened bytes
  have hfile := FileSystem.readFile_of_writeFile hwritten
  refine ⟨_, _, run_writeCorpus_eq_ok.mpr
    ⟨text, bytes, opened, written, htext, hencode, hdirectories, hopened, hwritten, rfl⟩, ?_,
    readItems_of_corpusText hfile htext hencode (fun r hr => (hmerged r hr).1) _, ?_⟩
  · rw [readText_of_corpusText hfile htext hencode, (corpusText_eq_ok.mp htext).1]
    rfl
  · rw [mergeCorpus, List.map_map, List.forall₂_map_right_iff]
    refine ((List.forall₂_and_left items baselines).mpr ⟨hitem, hrecords⟩).imp fun item b h => ?_
    obtain ⟨hstorable, hread⟩ := h
    obtain ⟨members, rfl, -⟩ := BaselineRecord.ofJson_eq_ok.mp hread
    have hfinite := (BaselineRecord.isStorable_merge hread hstorable
      (Entries.isUnicode_of_find? hpages b.name) isPlaceholder).2.finitePart
    refine ⟨members, _, rfl, ?_, BaselineRecord.passesThrough_merge hread isPlaceholder
      (pages.find? b.name)⟩
    rw [Function.comp_apply, hfinite, MergedRecord.toJson_eq]

/-- A baseline whose entry has a null category, a further member, and a member with a name of
documentation. -/
def crowdedBaseline : FileSystem where
  nodes := [(["base.json"], .file ((Text.ofString
    "[\x7b\"tag\":[],\"markdown\":\"\",\"category\":null,\"name\":\"a\",\"usage\":\"\",\"description\":\"\"\x7d]").flatMap
      Utf8.bytesOf))]
  workingDirectory := []

/-- The members of the entry. -/
def crowdedMembers : Entries Text Json :=
  [("tag", .array []), ("markdown", .text []), ("category", .null), ("name", .text "a"),
    ("usage", .text []), ("description", .text [])]

/-- The entry as it is read. -/
def crowdedEntry : BaselineRecord where
  name := "a"
  description := []
  usage := []
  category := .none
  extras := [("tag", .array []), ("markdown", .text [])]

/-- The category of the entry is kept, its further member comes last, and the documentation it
claims is dropped. -/
theorem writeCorpus_crowdedBaseline : ∃ (s' : RunState) (members' : Entries Text Json),
    (writeCorpus ⟨.relative, ["out.json"]⟩
      (mergeCorpus (placeholderTest defaultPlaceholder) [crowdedEntry] []).records).run.run
        emptyState = (.ok (), s') ∧
    s'.files.readItems .commandData ⟨.relative, ["out.json"]⟩ = .ok [.object members'] ∧
    members'.keys = [("name" : Text), "description", "usage", "category", "markdown", "summary",
      "syntax", "example", "tag"] ∧
    members'.find? ("category" : Text) = some .null := by
  have hitems : crowdedBaseline.readItems .baseline ⟨.relative, ["base.json"]⟩ =
      .ok [.object crowdedMembers] := rfl
  have hbaselines : crowdedBaseline.readBaseline ⟨.relative, ["base.json"]⟩ =
      .ok [crowdedEntry] := rfl
  obtain ⟨s', written, hrun, -, hread, hpasses⟩ := writeCorpus_passesThrough hitems hbaselines
    (by simp [crowdedMembers, Json.everywhere_object, Json.everywhere_array, Json.HasUnicode])
    (by simp [crowdedMembers, Json.everywhere_object, Json.everywhere_array, Json.HasFinite])
    (by simp [crowdedMembers, Json.NestedWithin, Json.writableDepth])
    (fun entry (hentry : entry ∈ ([] : Entries Text Page.Extraction)) => nomatch hentry)
    (placeholderTest defaultPlaceholder) canOpen_emptyState
  obtain ⟨object, _, ⟨_, members', ⟨⟩, rfl, hobject⟩, hrest, rfl⟩ :=
    List.forall₂_cons_left_iff.mp hpasses
  rw [List.forall₂_nil_left_iff] at hrest
  subst hrest
  refine ⟨s', members', hrun, hread, hobject.keys.trans (by decide), ?_⟩
  rw [hobject.values _ (by decide) (by decide)]
  rfl

end CommandDocs
