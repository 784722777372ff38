import CommandDocs.Proofs.Corpus.GenerateRun
import CommandDocs.Proofs.File.Enumeration
import CommandDocs.Proofs.Text.Order

/-!
# What a scan finds

A scan of a directory finds the same in whatever order the entries of the directory come. No
two pages share a stem, so that none takes the place of another: each page that is listed is
either found under its stem or passed over, and both kinds come in the order of their names.

Whether a page is passed over depends on its bytes alone. Events that are noted in a log file
put a text behind the bytes of that file, so that even a log among the pages is read if it was
readable before.
-/

namespace CommandDocs

namespace FileSystem

variable {fs fs' : FileSystem} {directory p : Path} {suffix : Text} {found : List Path}

/-! ### Pages in the order of their names -/

/-- The entries of a directory among which the pages are. -/
def candidates (fs : FileSystem) (directory : Path) (suffix : Text) : List Path :=
  ((fs.childNames (fs.placeOf directory)).map directory.child).filter (·.suffix == suffix)

/-- Pages are the files among these entries, in the order of their names. -/
theorem listPages_eq_ok : fs.listPages directory suffix = .ok found ↔
    (∃ place, fs.locate directory = .ok (.present place .directory)) ∧
      ∃ files, fs.filesAmong (fs.candidates directory suffix) = .ok files ∧
        found = Text.sortOn Path.name files := by
  simp only [listPages, bind_eq_ok, mapError_eq_ok, Except.ok.injEq, listDirectory_eq_ok]
  constructor
  · intro h
    obtain ⟨_, ⟨hdirectory, rfl⟩, files, hfiles, rfl⟩ := h
    exact ⟨hdirectory, files, hfiles, rfl⟩
  · intro h
    obtain ⟨hdirectory, files, hfiles, rfl⟩ := h
    exact ⟨_, ⟨hdirectory, rfl⟩, files, hfiles, rfl⟩

/-- No two of these entries have the same name. -/
theorem nodup_names_candidates (h : fs.nodes.keys.Nodup) (directory : Path) (suffix : Text) :
    ((fs.candidates directory suffix).map Path.name).Nodup := by
  refine List.Nodup.sublist (List.filter_sublist.map _) ?_
  have hnames : Path.name ∘ directory.child = id := funext (Path.name_child directory)
  rw [List.map_map, hnames, List.map_id]
  exact nodup_childNames h _

/-- Pages have distinct names. -/
theorem nodup_names_of_listPages (h : fs.nodes.keys.Nodup)
    (hlist : fs.listPages directory suffix = .ok found) : (found.map Path.name).Nodup := by
  obtain ⟨-, files, hfiles, rfl⟩ := listPages_eq_ok.mp hlist
  rw [((Text.sortOn_perm Path.name files).map Path.name).nodup_iff]
  exact (nodup_names_candidates h _ _).sublist ((sublist_of_filesAmong hfiles).map _)

/-- Pages come in the order of their names, each strictly behind those before it. -/
theorem increasing_names_of_listPages (h : fs.nodes.keys.Nodup)
    (hlist : fs.listPages directory suffix = .ok found) :
    (found.map Path.name).Pairwise fun a b => Text.le a b = true ∧ a ≠ b := by
  refine List.Pairwise.and ?_ (nodup_names_of_listPages h hlist)
  obtain ⟨-, files, -, rfl⟩ := listPages_eq_ok.mp hlist
  exact List.pairwise_map.mpr (Text.pairwise_sortOn Path.name files)

/-- Pages have distinct stems, since all of them have the same suffix. -/
theorem nodup_stems_of_listPages (h : fs.nodes.keys.Nodup)
    (hlist : fs.listPages directory suffix = .ok found) : (found.map Path.stem).Nodup := by
  have hnames : found.map Path.name = (found.map Path.stem).map (· ++ suffix) := by
    rw [List.map_map]
    refine List.map_congr_left fun p hp => ?_
    have hchild := (eq_child_of_mem_listPages hlist hp).1
    exact (congrArg Path.name hchild).trans (Path.name_child _ _)
  have hdistinct := nodup_names_of_listPages h hlist
  rw [hnames] at hdistinct
  exact hdistinct.of_map _

/-- In whatever order the entries come, the pages are listed in the same order. -/
theorem Reordered.listPages (h : Reordered fs fs')
    (hlist : fs.listPages directory suffix = .ok found) :
    fs'.listPages directory suffix = .ok found := by
  obtain ⟨hdirectory, files, hfiles, rfl⟩ := listPages_eq_ok.mp hlist
  have hcandidates : (fs'.candidates directory suffix).Perm (fs.candidates directory suffix) := by
    rw [candidates, candidates, h.placeOf]
    exact ((h.childNames _).map _).filter _
  have hnames := nodup_names_candidates h.distinct directory suffix
  obtain ⟨files', hfiles', hperm⟩ := h.filesAmong hcandidates (hnames.of_map _) hfiles
  refine listPages_eq_ok.mpr ⟨?_, files', hfiles', ?_⟩
  · rw [h.locate]
    exact hdirectory
  · -- a page is told by its name among the pages of one directory
    refine Text.sortOn_eq_of_perm hperm.symm fun p hp q hq hname => ?_
    exact List.inj_on_of_nodup_map hnames ((sublist_of_filesAmong hfiles).subset hp)
      ((sublist_of_filesAmong hfiles).subset hq) hname

/-! ### Pages that can be read -/

/-- A page that is listed is a file. -/
theorem exists_readFile_of_mem_listPages (h : fs.listPages directory suffix = .ok found)
    (hp : p ∈ found) : ∃ content, fs.readFile p = .ok content := by
  obtain ⟨name, -, -, -, hfile⟩ := (mem_listPages h).mp hp
  exact isFile_eq_true.mp hfile

/-- There is a page at the path whose bytes are decoded. -/
def isReadable (fs : FileSystem) (p : Path) : Bool := (fs.pageAt? p).isSome

/-- A page can be read when its file is there and its bytes are decoded. -/
theorem isReadable_iff : fs.isReadable p = true ↔
    ∃ content, fs.readFile p = .ok content ∧ Utf8.IsDecodable content := by
  simp only [isReadable, Option.isSome_iff_exists, pageAt?_eq_some, readText_eq_ok]
  constructor
  · intro h
    obtain ⟨_, _, ⟨content, decoded, hcontent, hdecoded, rfl⟩, rfl⟩ := h
    exact ⟨content, hcontent, decoded, hdecoded⟩
  · intro h
    obtain ⟨content, hcontent, decoded, hdecoded⟩ := h
    exact ⟨_, _, ⟨content, decoded, hcontent, hdecoded, rfl⟩, rfl⟩

/-- Every file is still there, and is decoded if and only if it was. -/
def KeepsReadable (fs fs' : FileSystem) : Prop :=
  ∀ p content, fs.readFile p = .ok content → ∃ content', fs'.readFile p = .ok content' ∧
    (Utf8.IsDecodable content' ↔ Utf8.IsDecodable content)

/-- Files that are kept are as readable as they were. -/
theorem KeepsReadable.refl (fs : FileSystem) : KeepsReadable fs fs :=
  fun _ content hread => ⟨content, hread, Iff.rfl⟩

/-- A page is read after as before. -/
theorem KeepsReadable.isReadable (h : KeepsReadable fs fs') {content : Bytes}
    (hread : fs.readFile p = .ok content) : fs'.isReadable p = fs.isReadable p := by
  obtain ⟨content', hread', hiff⟩ := h p content hread
  rw [Bool.eq_iff_iff, isReadable_iff, isReadable_iff, hread, hread']
  simp only [Except.ok.injEq, exists_eq_left', hiff]

/-- After an update a file reads as before, or as it was changed. -/
theorem readFile_of_updateFile {log : Path} {change : Bytes → Bytes} {content : Bytes}
    (hupdate : fs.updateFile log change = .ok fs') (hread : fs.readFile p = .ok content) :
    fs'.readFile p = .ok content ∨ fs'.readFile p = .ok (change content) := by
  obtain ⟨place, hlocate⟩ := readFile_eq_ok.mp hread
  have hpresent := (locate_iff.mp hlocate).2.present
  by_cases hplace : some (fs.placeOf log) = some (fs.placeOf p)
  · -- the file that is changed is the one at the path
    refine Or.inr ?_
    rw [updateFile, bind_eq_ok] at hupdate
    obtain ⟨target, htarget, hupdate⟩ := hupdate
    have hsame : place = target.place := by
      rw [place_of_locate htarget, Option.some.inj hplace, ← place_of_locate hlocate]
      rfl
    subst hsame
    have hfile : fs.node? target.place ≠ some .directory := by simp [hpresent]
    have hset := locate_setNode hlocate (ne_root_of_file hpresent) hfile (.file (change content))
    cases target with
    | absent place =>
      cases hpresent.symm.trans (locate_iff.mp htarget).2.absent.2
    | present place node =>
      cases hpresent.symm.trans (locate_iff.mp htarget).2.present
      cases hupdate
      exact readFile_of_locate hset
  · exact Or.inl ((AgreesOff.of_updateFile hupdate).readFile hplace hread)

/-- A text that is put behind a file leaves all files as readable as they were. -/
theorem KeepsReadable.of_appendFile {log : Path} {more : Text} (hmore : more.IsUnicode)
    (h : fs.appendFile log (more.flatMap Utf8.bytesOf) = .ok fs') : KeepsReadable fs fs' := by
  intro p content hread
  rcases readFile_of_updateFile h hread with hsame | hchanged
  · exact ⟨content, hsame, Iff.rfl⟩
  · exact ⟨_, hchanged, Utf8.isDecodable_append hmore⟩

end FileSystem

namespace RunState

variable {s s' : RunState}

/-- The block of an event is the bytes of a text. -/
theorem exists_blockOf (s : RunState) (log : LogFile) (e : LogEvent) :
    ∃ more : Text, more.IsUnicode ∧ s.blockOf log e = more.flatMap Utf8.bytesOf := by
  have hnone : ∃ more : Text, more.IsUnicode ∧ [] = more.flatMap Utf8.bytesOf :=
    ⟨[], Text.isUnicode_nil, rfl⟩
  rw [blockOf]
  split
  · exact hnone
  · split
    · exact hnone
    · rename_i bytes hencode
      have hunicode := Utf8.isUnicode_of_encode hencode
      rw [Utf8.encode_of_isUnicode hunicode, Except.ok.injEq] at hencode
      exact ⟨_, hunicode, hencode.symm⟩

/-- Noting an event leaves all files as readable as they were, the log included. -/
theorem keepsReadable_note (s : RunState) (e : LogEvent) :
    s.files.KeepsReadable (s.note e).files := by
  unfold note
  split
  · exact .refl _
  · rename_i log hlog
    split
    · exact .refl _
    · dsimp only
      split
      · rename_i files happend
        obtain ⟨more, hmore, hblock⟩ := exists_blockOf s log e
        rw [hblock] at happend
        exact .of_appendFile hmore happend
      · exact .refl _

/-- The same state with its files in another order. -/
def Reordered (s s' : RunState) : Prop :=
  ∃ files, s.files.Reordered files ∧ s' = { s with files }

/-- An order can be changed back. -/
theorem Reordered.symm (h : s.Reordered s') : s'.Reordered s := by
  obtain ⟨files, hfiles, rfl⟩ := h
  exact ⟨s.files, hfiles.symm, rfl⟩

/-- An event is noted in both orders alike. -/
theorem Reordered.note (h : s.Reordered s') (e : LogEvent) : (s.note e).Reordered (s'.note e) := by
  obtain ⟨files, hfiles, rfl⟩ := h
  unfold RunState.note
  dsimp only
  cases hlog : s.logFile with
  | none => exact ⟨files, hfiles, rfl⟩
  | some log =>
    have hblock : RunState.blockOf ⟨files, s.clock, s.events, some log⟩ log e = s.blockOf log e :=
      rfl
    dsimp only
    rw [hblock]
    split
    · exact ⟨files, hfiles, rfl⟩
    · cases happend : s.files.appendFile log.path (s.blockOf log e) with
      | ok made =>
        obtain ⟨made', happend', hmade⟩ := hfiles.updateFile happend
        rw [FileSystem.appendFile, happend']
        exact ⟨made', hmade, rfl⟩
      | error fault =>
        -- a log that is written in one order is written in the other
        cases happend' : files.appendFile log.path (s.blockOf log e) with
        | ok made' =>
          obtain ⟨made, hmade, -⟩ := hfiles.symm.updateFile happend'
          rw [FileSystem.appendFile, hmade] at happend
          cases happend
        | error fault' => exact ⟨files, hfiles, rfl⟩

end RunState

namespace Run

open RunState

variable {α β : Type}

/-- What ends well in one order of the files ends well in every order, with the same answer
and the same events. -/
def IgnoresOrder (x : Run α) : Prop :=
  ∀ s s' a t, s.Reordered s' → x.run.run s = (.ok a, t) →
    ∃ t', x.run.run s' = (.ok a, t') ∧ t.Reordered t'

/-- An answer without a question ignores the order. -/
theorem ignoresOrder_pure (a : α) : IgnoresOrder (pure a : Run α) := by
  intro s s' b t h hrun
  obtain ⟨rfl, rfl⟩ := run_pure_eq_ok.mp hrun
  exact ⟨s', rfl, h⟩

/-- Reporting an event ignores the order. -/
theorem ignoresOrder_report (e : LogEvent) : IgnoresOrder (report e) := by
  intro s s' u t h hrun
  obtain rfl := run_report_eq_ok.mp hrun
  exact ⟨s'.note e, rfl, h.note e⟩

/-- Of two steps each ignores the order. -/
theorem IgnoresOrder.bind {x : Run α} {f : α → Run β} (hx : x.IgnoresOrder)
    (hf : ∀ a, (f a).IgnoresOrder) : (x >>= f).IgnoresOrder := by
  intro s s' b t h hrun
  obtain ⟨a, s₁, hfirst, hsecond⟩ := run_bind_eq_ok.mp hrun
  obtain ⟨s₁', hfirst', h₁⟩ := hx s s' a s₁ h hfirst
  obtain ⟨t', hsecond', ht⟩ := hf a s₁ s₁' b t h₁ hsecond
  exact ⟨t', run_bind_eq_ok.mpr ⟨a, s₁', hfirst', hsecond'⟩, ht⟩

/-- A question with the same answer in every order ignores the order. -/
theorem ignoresOrder_ask {question : FileSystem → Except Failure α}
    (hquestion : ∀ fs fs' a, fs.Reordered fs' → question fs = .ok a → question fs' = .ok a) :
    IgnoresOrder (ask question) := by
  intro s s' a t h hrun
  obtain ⟨hanswer, rfl⟩ := run_ask_eq_ok.mp hrun
  obtain ⟨files, hfiles, rfl⟩ := id h
  exact ⟨_, run_ask_eq_ok.mpr ⟨hquestion _ _ _ hfiles hanswer, rfl⟩, h⟩

/-- A step that looks at the state ignores the order as long as it does the same in every
order. -/
theorem IgnoresOrder.of_get {f : RunState → Run α} (hsame : ∀ s s', s.Reordered s' → f s' = f s)
    (hf : ∀ s, (f s).IgnoresOrder) : (get >>= f).IgnoresOrder := by
  intro s s' a t h hrun
  have hget (s : RunState) : (get >>= f).run.run s = (f s).run.run s := rfl
  rw [hget] at hrun ⊢
  rw [hsame s s' h]
  exact hf s s s' a t h hrun

end Run

namespace Generate

open RunState

variable {s s' : RunState} {directory : Path} {suffix : Text} {found : List Path}

/-- Reading pages ignores the order of the files. -/
theorem ignoresOrder_readPages (found : List Path) : (readPages found).IgnoresOrder := by
  induction found with
  | nil => exact Run.ignoresOrder_pure _
  | cons p rest ih =>
    rw [readPages]
    refine Run.IgnoresOrder.of_get (fun s s' h => ?_) fun s => ?_
    · obtain ⟨files, hfiles, rfl⟩ := h
      dsimp only
      rw [hfiles.readPage]
    · cases s.files.readPage p with
      | ok text => exact ih.bind fun _ => Run.ignoresOrder_pure _
      | error failure =>
        exact (Run.ignoresOrder_report _).bind fun _ => ih.bind fun _ => Run.ignoresOrder_pure _

/-- Scanning a directory ignores the order of its entries. -/
theorem ignoresOrder_scan (directory : Path) (suffix : Text) :
    (scan directory suffix).IgnoresOrder :=
  (Run.ignoresOrder_ask fun _ _ _ h hlist => h.listPages hlist).bind fun found =>
    (ignoresOrder_readPages found).bind fun _ => (Run.ignoresOrder_report _).bind fun _ =>
      Run.ignoresOrder_pure _

variable {pairs : List (Text × Page.Extraction)} {skipped : List Text}

/-- Reading one page leaves all files as readable as they were. -/
theorem ReadStep.keepsReadable {p : Path} (h : ReadStep s p s') :
    s.files.KeepsReadable s'.files := by
  cases h with
  | read => exact .refl _
  | skip reason => exact keepsReadable_note s _

/-- The pages that can be read are found under their stems and the others are passed over, both
in the order of the list. -/
theorem names_of_run_readPages (h : (readPages found).run.run s = (.ok (pairs, skipped), s'))
    (hfiles : ∀ p ∈ found, ∃ content, s.files.readFile p = .ok content) :
    Entries.keys pairs = (found.filter s.files.isReadable).map Path.stem ∧
      skipped = (found.filter (!s.files.isReadable ·)).map Path.name := by
  induction found generalizing s pairs skipped with
  | nil =>
    rw [readPages, Run.run_pure_eq_ok] at h
    cases h.1
    exact ⟨rfl, rfl⟩
  | cons p rest ih =>
    obtain ⟨s₁, pages, others, hstep, hrest, rfl, rfl⟩ := run_readPages_cons h
    have hkeeps := hstep.keepsReadable
    rw [List.forall_mem_cons] at hfiles
    -- the later pages are as readable as before, whatever was noted
    have hreadable : ∀ q ∈ rest, s₁.files.isReadable q = s.files.isReadable q := by
      intro q hq
      obtain ⟨content, hcontent⟩ := hfiles.2 q hq
      exact hkeeps.isReadable hcontent
    obtain ⟨hpages, hothers⟩ := ih hrest fun q hq => by
      obtain ⟨content, hcontent⟩ := hfiles.2 q hq
      obtain ⟨content', hcontent', -⟩ := hkeeps q content hcontent
      exact ⟨content', hcontent'⟩
    have hneither : ∀ q ∈ rest, (!s₁.files.isReadable q) = !s.files.isReadable q :=
      fun q hq => congrArg (!·) (hreadable q hq)
    rw [List.filter_congr hreadable] at hpages
    rw [List.filter_congr hneither] at hothers
    rw [Entries.keys_append, hpages, hothers, List.filter_cons, List.filter_cons,
      FileSystem.isReadable]
    cases s.files.pageAt? p with
    | none => exact ⟨rfl, rfl⟩
    | some page => exact ⟨rfl, rfl⟩

/-- A page that can be read and is not the log is found with what it says. -/
theorem mem_of_run_readPages (h : (readPages found).run.run s = (.ok (pairs, skipped), s'))
    {p : Path} {page : Page.Extraction} (hp : p ∈ found)
    (hlog : s.logPlace? ≠ some (s.files.placeOf p)) (hpage : s.files.pageAt? p = some page) :
    (p.stem, page) ∈ pairs := by
  induction found generalizing s pairs skipped with
  | nil => cases hp
  | cons q rest ih =>
    obtain ⟨s₁, pages, others, hstep, hrest, rfl, -⟩ := run_readPages_cons h
    rcases List.mem_cons.mp hp with rfl | hp
    · rw [hpage]
      exact List.mem_append_left _ (List.mem_singleton_self _)
    · have hnoted := hstep.onlyNoted
      refine List.mem_append_right _ (ih hrest hp (hnoted.apart hlog) ?_)
      rw [hnoted.files.pageAt? hlog, hpage]

/-- Pages that can be read have distinct stems when all pages do. -/
theorem nodup_keys_of_stems
    (hkeys : Entries.keys pairs = (found.filter s.files.isReadable).map Path.stem)
    (hstems : (found.map Path.stem).Nodup) : (Entries.keys pairs).Nodup := by
  rw [hkeys]
  exact hstems.sublist (List.filter_sublist.map _)

/-- Under the stem of a page that is not the log stands what the page says, if it can be read. -/
theorem find?_stem_of_run_readPages
    (h : (readPages found).run.run s = (.ok (pairs, skipped), s'))
    (hkeys : Entries.keys pairs = (found.filter s.files.isReadable).map Path.stem)
    (hstems : (found.map Path.stem).Nodup) {p : Path} (hp : p ∈ found)
    (hlog : s.logPlace? ≠ some (s.files.placeOf p)) :
    Entries.find? p.stem pairs = s.files.pageAt? p := by
  cases hpage : s.files.pageAt? p with
  | some page =>
    exact Entries.find?_of_mem (mem_of_run_readPages h hp hlog hpage)
      (nodup_keys_of_stems hkeys hstems)
  | none =>
    -- no page that can be read has this stem
    refine Entries.find?_eq_none fun hmem => ?_
    rw [hkeys] at hmem
    obtain ⟨q, hq, hstem⟩ := List.mem_map.mp hmem
    obtain ⟨hqfound, hreadable⟩ := List.mem_filter.mp hq
    cases List.inj_on_of_nodup_map hstems hqfound hp hstem
    rw [FileSystem.isReadable, hpage] at hreadable
    cases hreadable

/-- In two orders of the files a scan has the same answers. -/
theorem run_scan_of_reordered (h : s.Reordered s') (answer : Scan) :
    (∃ t, (scan directory suffix).run.run s' = (.ok answer, t)) ↔
      ∃ t, (scan directory suffix).run.run s = (.ok answer, t) := by
  constructor
  · intro hends
    obtain ⟨t, hrun⟩ := hends
    obtain ⟨t', hrun', -⟩ := ignoresOrder_scan _ _ _ _ answer t h.symm hrun
    exact ⟨t', hrun'⟩
  · intro hends
    obtain ⟨t, hrun⟩ := hends
    obtain ⟨t', hrun', -⟩ := ignoresOrder_scan _ _ _ _ answer t h hrun
    exact ⟨t', hrun'⟩

/-- A directory is scanned alike in whatever order its entries come, and none of its pages takes
the place of another: their stems are distinct, and each page that is listed is found under
its stem, if its bytes are decoded, or else passed over. -/
theorem scan_lossless (directory : Path) (suffix : Text) (hdistinct : s.files.nodes.keys.Nodup) :
    (∀ nodes, nodes.Perm s.files.nodes → ∀ answer,
      (∃ t, (scan directory suffix).run.run { s with files := { s.files with nodes } } =
        (.ok answer, t)) ↔ ∃ t, (scan directory suffix).run.run s = (.ok answer, t)) ∧
    ((∃ answer t, (scan directory suffix).run.run s = (.ok answer, t)) ↔
      ∃ found, s.files.listPages directory suffix = .ok found) ∧
    ∀ answer t, (scan directory suffix).run.run s = (.ok answer, t) →
      ∃ found, s.files.listPages directory suffix = .ok found ∧
        (found.map Path.stem).Nodup ∧
        (found.map Path.name).Pairwise (fun a b => Text.le a b = true ∧ a ≠ b) ∧
        answer.pages.length + answer.skipped.length = found.length ∧
        answer.pages.keys = (found.filter s.files.isReadable).map Path.stem ∧
        answer.skipped = (found.filter (!s.files.isReadable ·)).map Path.name ∧
        ∀ p ∈ found, s.logPlace? ≠ some (s.files.placeOf p) →
          answer.pages.find? p.stem = s.files.pageAt? p := by
  refine ⟨fun nodes hnodes answer => ?_, ⟨fun h => ?_, exists_run_scan⟩, fun answer t hrun => ?_⟩
  · exact run_scan_of_reordered ⟨{ s.files with nodes }, ⟨rfl, hnodes, hdistinct⟩, rfl⟩ answer
  · obtain ⟨_, _, hrun⟩ := h
    obtain ⟨found, _, _, _, hlist, -⟩ := run_scan_eq_ok.mp hrun
    exact ⟨found, hlist⟩
  · obtain ⟨found, pairs, skipped, s₁, hlist, hread, rfl, -⟩ := run_scan_eq_ok.mp hrun
    have hstems := FileSystem.nodup_stems_of_listPages hdistinct hlist
    obtain ⟨hkeys, hskipped⟩ := names_of_run_readPages hread fun p hp =>
      FileSystem.exists_readFile_of_mem_listPages hlist hp
    rw [Entries.ofPairs_of_nodup (nodup_keys_of_stems hkeys hstems)]
    refine ⟨found, hlist, hstems, FileSystem.increasing_names_of_listPages hdistinct hlist, ?_,
      hkeys, hskipped, fun p hp => find?_stem_of_run_readPages hread hkeys hstems hp⟩
    calc pairs.length + skipped.length
      _ = (Entries.keys pairs).length + skipped.length := by rw [Entries.keys, List.length_map]
      _ = (found.filter s.files.isReadable).length +
          (found.filter (!s.files.isReadable ·)).length := by
        rw [hkeys, hskipped, List.length_map, List.length_map]
      _ = found.length := (List.length_eq_length_filter_add _).symm

/-- A directory with a page, a page that is not decoded and a file of another kind. -/
def threeFiles : FileSystem where
  nodes := [
    (["docs"], .directory),
    (["docs", "abs.md"], .file ((Text.ofString "# Magnitude").flatMap Utf8.bytesOf)),
    (["docs", "max.md"], .file [0xFF]),
    (["docs", "min.txt"], .file [])]
  workingDirectory := []

/-- The state before a scan of this directory, without a log. -/
def threeFilesState : RunState := { files := threeFiles, clock := .epoch }

/-- From this directory one page is found and one is passed over, also when its entries come in
the reverse order. -/
theorem scan_threeFiles : threeFiles.nodes.keys.Nodup ∧
    ∃ answer t t', (scan ⟨.relative, ["docs"]⟩ defaultSuffix).run.run threeFilesState =
        (.ok answer, t) ∧
      (scan ⟨.relative, ["docs"]⟩ defaultSuffix).run.run
        { threeFilesState with files := { threeFiles with nodes := threeFiles.nodes.reverse } } =
        (.ok answer, t') ∧
      answer.pages.keys = ["abs"] ∧ answer.skipped = ["max.md"] := by
  have hdistinct : threeFilesState.files.nodes.keys.Nodup := by decide
  have hlist : threeFiles.listPages ⟨.relative, ["docs"]⟩ defaultSuffix =
      .ok [⟨.relative, ["docs", "abs.md"]⟩, ⟨.relative, ["docs", "max.md"]⟩] :=
    FileSystem.listPages_eq_ok.mpr ⟨⟨_, rfl⟩, _, rfl,
      (List.mergeSort_of_pairwise (by decide)).symm⟩
  obtain ⟨horder, hends, hscan⟩ := scan_lossless ⟨.relative, ["docs"]⟩ defaultSuffix hdistinct
  obtain ⟨answer, t, hrun⟩ := hends.mpr ⟨_, hlist⟩
  obtain ⟨t', hrun'⟩ := (horder _ (List.reverse_perm _) answer).mpr ⟨t, hrun⟩
  obtain ⟨found, hfound, -, -, -, hkeys, hskipped, -⟩ := hscan answer t hrun
  cases hfound.symm.trans hlist
  exact ⟨hdistinct, answer, t, t', hrun, hrun', hkeys, hskipped⟩

end Generate

end CommandDocs
