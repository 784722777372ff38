import CommandDocs.Proofs.Corpus.SourcesAgree

/-!
# The names of an index

A collection may hold several records of one name. The index that reads it lists each name once,
in the place of its first record, and finds its last record under it. Offers are made in the same
order and from the same records. This holds for command data and for a baseline alike, and once
the records are read it holds whatever becomes of the files.
-/

namespace CommandDocs

/-- What stands under a name for a list of records: the last record that bears the name, or
nothing when none does. -/
inductive MergedRecord.IsLast (records : List MergedRecord) (name : Text) :
    Option MergedRecord → Prop
  /-- No record behind this one bears its name. -/
  | found {r : MergedRecord} {before after : List MergedRecord}
    (hsplit : records = before ++ r :: after) (hname : r.name = name)
    (hlast : ∀ later ∈ after, later.name ≠ name) : IsLast records name (some r)
  /-- No record bears the name. -/
  | absent (hnone : ∀ r ∈ records, r.name ≠ name) : IsLast records name none

/-- The last record of a name is the first one that bears it from behind. -/
theorem MergedRecord.isLast_iff {records : List MergedRecord} {name : Text}
    {found : Option MergedRecord} : IsLast records name found ↔
      records.reverse.find? (fun r => r.name = name) = found := by
  constructor
  · intro h
    cases h with
    | @found r before after hsplit hname hlast =>
      have hafter : after.reverse.find? (fun r => r.name = name) = none := by
        refine List.find?_eq_none.mpr fun later hlater => ?_
        simpa using hlast later (List.mem_reverse.mp hlater)
      rw [hsplit, List.reverse_append, List.reverse_cons, List.append_assoc,
        List.singleton_append, List.find?_append, hafter, Option.none_or]
      exact List.find?_cons_of_pos (by simpa using hname)
    | absent hnone =>
      refine List.find?_eq_none.mpr fun r hr => ?_
      simpa using hnone r (List.mem_reverse.mp hr)
  · intro h
    subst h
    cases hfind : records.reverse.find? fun r => r.name = name with
    | none =>
      refine .absent fun r hr => ?_
      simpa using List.find?_eq_none.mp hfind r (List.mem_reverse.mpr hr)
    | some r =>
      obtain ⟨hname, after, before, hsplit, hafter⟩ := List.find?_eq_some_iff_append.mp hfind
      rw [List.reverse_eq_iff, List.reverse_append, List.reverse_cons, List.append_assoc,
        List.singleton_append] at hsplit
      refine .found hsplit (of_decide_eq_true hname) fun later hlater => ?_
      simpa using hafter later (List.mem_reverse.mp hlater)

/-- What is shown beside the name of a record: its summary, or else its description, or else a
placeholder. -/
inductive MergedRecord.Details (r : MergedRecord) : Text → Prop
  /-- There is a summary. -/
  | summary (h : r.summary ≠ []) : Details r r.summary
  /-- There is a description only. -/
  | description (hnone : r.summary = []) (h : r.description ≠ []) : Details r r.description
  /-- There is neither. -/
  | placeholder (hnone : r.summary = []) (h : r.description = []) : Details r "Lumerical command"

/-- The page that is shown for a record, if the text of its page is known: the name, and below it the
summary and the usage as far as they are there. -/
inductive MergedRecord.Documents (r : MergedRecord) (name : Text) : Option Text → Prop
  /-- No page is known. -/
  | unknown (h : r.markdown = []) : Documents r name none
  /-- A page is known. -/
  | page {summary usage : Text} (h : r.markdown ≠ [])
    (hsummary : summary = if r.summary = [] then [] else (r.summary ++ "\n\n" : Text))
    (husage : usage = if r.usage = [] then [] else ("Usage: `" ++ r.usage ++ "`" : Text)) :
    Documents r name (some ("**" ++ name ++ "**\n\n" ++ summary ++ usage))

/-- An offer that is built from a record. -/
structure CompletionItem.IsBuilt (item : CompletionItem) (name : Text) (r : MergedRecord) :
    Prop where
  /-- It is listed under the name. -/
  label : item.label = name
  /-- Beside it stands what the record says. -/
  detail : r.Details item.detail
  /-- A call of the command is inserted. -/
  insertText : item.insertText = name ++ "();"
  /-- The page is shown. -/
  documentation : r.Documents name item.documentation

/-- The offer for a record is built from it. -/
theorem Completion.isBuilt_item (name : Text) (r : MergedRecord) :
    (item name (some r)).IsBuilt name r := by
  refine ⟨rfl, ?_, rfl, ?_⟩
  · change r.Details (Completion.detail r)
    rw [Completion.detail]
    split
    · rename_i hsummary
      exact .summary (by simpa using hsummary)
    rename_i hsummary
    split
    · rename_i hdescription
      exact .description (by simpa using hsummary) (by simpa using hdescription)
    · rename_i hdescription
      exact .placeholder (by simpa using hsummary) (by simpa using hdescription)
  · change r.Documents name (page? name r)
    rw [page?]
    split
    · rename_i hmarkdown
      exact .unknown (List.isEmpty_iff.mp hmarkdown)
    · rename_i hmarkdown
      exact .page (mt List.isEmpty_iff.mpr hmarkdown) (by simp) (by simp)

/-- The records that an index reads from the files: those of its command data or, when there is
none or it has a fault, those of its baseline. -/
inductive CommandIndex.Draws (index : CommandIndex) (fs : FileSystem) : List MergedRecord → Prop
  /-- The command data is accepted. -/
  | commandData {records : List MergedRecord}
    (hdata : fs.readCommandData index.data = .ok records) : Draws index fs records
  /-- There is no command data, and the baseline is accepted. -/
  | missing {p : Path} {baselines : List BaselineRecord}
    (hdata : fs.pathExists index.data = .ok false) (hbaseline : index.baseline = some p)
    (hread : fs.readBaseline p = .ok baselines) :
    Draws index fs (baselines.map BaselineRecord.withoutDocumentation)
  /-- The command data has a fault, and the baseline is accepted. -/
  | unfit {p place : Path} {kind : CollectionKind} {fault : CollectionFault}
    {baselines : List BaselineRecord} (hdata : fs.pathExists index.data = .ok true)
    (hfault : fs.readCommandData index.data = .error (.collection kind fault place))
    (hbaseline : index.baseline = some p) (hread : fs.readBaseline p = .ok baselines) :
    Draws index fs (baselines.map BaselineRecord.withoutDocumentation)

/-- An index answers from the table of a list of records. -/
structure CommandIndex.Tabulates (index : CommandIndex) (fs : FileSystem)
    (records : List MergedRecord) : Prop where
  /-- Each name is listed once, in the place of its first record. -/
  names : (index.call fs .names).reply = .ok (.names (records.map (·.name)).eraseDups)
  /-- Under a name stands its last record. -/
  lookup : ∀ name, ∃ found, (index.call fs (.lookup name)).reply = .ok (.record found) ∧
    MergedRecord.IsLast records name found
  /-- Where nothing is typed one offer is made for each name, in the same order, from its last
  record. -/
  offers : ∃ items, (index.call fs (.complete [] [])).reply = .ok (.offers items) ∧
    List.Forall₂ (fun name item => ∃ r, MergedRecord.IsLast records name (some r) ∧
      item = Completion.item name (some r) ∧ item.IsBuilt name r)
      (records.map (·.name)).eraseDups items

namespace LoadedRecords

variable {source : IndexSource} {records : List MergedRecord}

/-- The names of a table come in the order of their first records. -/
theorem keys_ofRecords (source : IndexSource) (records : List MergedRecord) :
    (ofRecords source records).records.keys = (records.map (·.name)).eraseDups := by
  have hkeys : Entries.keys (records.map fun r => (r.name, r)) = records.map (·.name) := by
    rw [Entries.keys, List.map_map]
    rfl
  rw [ofRecords, Entries.keys_ofPairs, hkeys]

/-- Under a name a table has the last record of that name. -/
theorem isLast_ofRecords (source : IndexSource) (records : List MergedRecord) (name : Text) :
    MergedRecord.IsLast records name ((ofRecords source records).records.find? name) := by
  rw [MergedRecord.isLast_iff, ofRecords, Entries.find?_ofPairs, ← List.map_reverse,
    Entries.find?_map_keyed]

end LoadedRecords

namespace CommandIndex

variable {index : CommandIndex} {fs : FileSystem} {records : List MergedRecord}

/-- The records of an accepted source are put under their names. -/
theorem outcome_of_draws (hnone : index.loaded = none) (h : index.Draws fs records) :
    ∃ source, (index.load fs).outcome = .ok (some (.ofRecords source records)) := by
  cases h with
  | commandData hdata => exact ⟨_, load_of_readCommandData hnone hdata⟩
  | missing hdata hbaseline hread => exact ⟨_, load_of_readBaseline hnone hdata hbaseline hread⟩
  | unfit hdata hfault hbaseline hread =>
    exact ⟨_, load_of_fault hnone hdata hfault hbaseline hread⟩

/-- An index that has the records of a list under their names answers from them, whatever the
files are. -/
theorem tabulates_of_loaded {source : IndexSource}
    (h : index.loaded = some (.ofRecords source records)) (fs : FileSystem) :
    index.Tabulates fs records := by
  have hreply {call : IndexCall} (hcall : call ≠ .reset) := reply_call_of_loaded h fs hcall
  have hrecords : index.records = (LoadedRecords.ofRecords source records).records := by
    rw [CommandIndex.records, h]
  have hkeys : index.records.keys = (records.map (·.name)).eraseDups := by
    rw [hrecords, LoadedRecords.keys_ofRecords]
  have hlast (name : Text) : MergedRecord.IsLast records name (index.records.find? name) := by
    rw [hrecords]
    exact LoadedRecords.isLast_ofRecords source records name
  refine ⟨?_, fun name => ⟨_, hreply (by simp), hlast name⟩, _, hreply (by simp), ?_⟩
  · rw [hreply (by simp), ← hkeys]
    rfl
  · -- nothing typed is a part of every name
    have hitems : index.complete [] [] =
        index.records.keys.map fun name => Completion.item name (index.records.find? name) := by
      have hall : index.records.keys.filter (Completion.matchesWord []) = index.records.keys :=
        List.filter_eq_self.mpr fun _ _ => rfl
      rw [complete, Completion.items, hall]
      rfl
    rw [hitems, ← hkeys, List.forall₂_map_right_iff, List.forall₂_same]
    intro name hname
    obtain ⟨r, hr⟩ := Option.isSome_iff_exists.mp (Entries.isSome_find?.mpr hname)
    exact ⟨r, hr ▸ hlast name, congrArg _ hr, hr ▸ Completion.isBuilt_item name r⟩

/-- An index that reads a list of records lists each of their names once, in the order of the first
records, and finds under each name the last of its records. It goes on to do so whatever becomes
of the files. -/
theorem tabulates_of_draws (hnone : index.loaded = none) (h : index.Draws fs records) :
    (index.call fs .load).reply = .ok (.truth true) ∧
      ∀ fs', (index.call fs .load).index.Tabulates fs' records := by
  obtain ⟨source, houtcome⟩ := outcome_of_draws hnone h
  exact ⟨reply_call_of_outcome houtcome (by simp),
    tabulates_of_loaded (loaded_call_load houtcome)⟩

/-- A record of the given name and description. -/
def plainRecord (name description : Text) : MergedRecord := { name, description, usage := [] }

/-- Command data in which the first and the last record have the same name. -/
def repeatedFiles : FileSystem where
  nodes := [(["data"], .file ((Text.ofString
    ("[\x7b\"name\":\"a\",\"description\":\"1\",\"usage\":\"\"\x7d," ++
      "\x7b\"name\":\"b\",\"description\":\"2\",\"usage\":\"\"\x7d," ++
      "\x7b\"name\":\"a\",\"description\":\"3\",\"usage\":\"\"\x7d]")).flatMap
        Utf8.bytesOf))]
  workingDirectory := []

set_option maxRecDepth 4000 in
/-- The three records are read. -/
theorem readCommandData_repeatedFiles : repeatedFiles.readCommandData ⟨.relative, ["data"]⟩ =
    .ok [plainRecord "a" "1", plainRecord "b" "2", plainRecord "a" "3"] := rfl

/-- An index of this data lists two names, and finds and offers the last record under the first of
them, also when the data was deleted. -/
theorem tabulates_repeatedFiles :
    let index : CommandIndex := { data := ⟨.relative, ["data"]⟩ }
    (index.call repeatedFiles .load).reply = .ok (.truth true) ∧
    ((index.call repeatedFiles .load).index.call ⟨[], []⟩ .names).reply =
      .ok (.names ["a", "b"]) ∧
    ((index.call repeatedFiles .load).index.call ⟨[], []⟩ (.lookup "a")).reply =
      .ok (.record (some (plainRecord "a" "3"))) ∧
    ((index.call repeatedFiles .load).index.call ⟨[], []⟩ (.complete [] [])).reply =
      .ok (.offers [⟨"a", "3", "a();", none⟩, ⟨"b", "2", "b();", none⟩]) := by
  intro index
  have hnone : index.loaded = none := rfl
  obtain ⟨hload, htable⟩ := tabulates_of_draws hnone (.commandData readCommandData_repeatedFiles)
  have htable := htable ⟨[], []⟩
  refine ⟨hload, htable.names, ?_, ?_⟩
  · obtain ⟨found, hfound, hlast⟩ := htable.lookup "a"
    rw [hfound, ← MergedRecord.isLast_iff.mp hlast]
    rfl
  · obtain ⟨items, hoffers, hitems⟩ := htable.offers
    rw [hoffers]
    -- two names, and so two offers
    cases hitems with
    | cons hfirst hrest =>
      cases hrest with
      | cons hsecond hnone =>
        cases hnone
        obtain ⟨first, hfirst, rfl, -⟩ := hfirst
        obtain ⟨second, hsecond, rfl, -⟩ := hsecond
        cases MergedRecord.isLast_iff.mp hfirst
        cases MergedRecord.isLast_iff.mp hsecond
        rfl

end CommandIndex

end CommandDocs
