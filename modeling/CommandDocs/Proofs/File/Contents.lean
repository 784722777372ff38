import CommandDocs.Corpus.Collection
import CommandDocs.Proofs.Outcome
import CommandDocs.Proofs.Text.Decoding
import CommandDocs.Proofs.Text.Parts
import Mathlib.Tactic.ByContra

/-!
# What a path leads to

Reading a file depends on nothing but the node that its path leads to. Why there is
no node makes no difference to a reader of collections, apart from the character
that no path can be told with.
-/

namespace CommandDocs.FileSystem

variable {fs fs' : FileSystem} {p : Path}

/-- The path holds the character that cannot be told to the system. -/
def HasNul (p : Path) : Prop := p.parts.any (·.contains (CodePoint.scalar '\x00')) = true

/-- Following names never meets that character. -/
theorem follow_ne_nul (fs : FileSystem) (place : Place) (parts : List Text) :
    fs.follow place parts ≠ .error .nul := by
  induction parts generalizing place with
  | nil =>
    unfold follow
    split <;> simp
  | cons part rest ih =>
    unfold follow
    split
    · simp
    · simp
    · split
      · exact ih _
      · split
        · simp
        · split
          · simp
          · exact ih _

/-- A path with that character is refused at once. -/
theorem locate_of_hasNul (h : HasNul p) : fs.locate p = .error ⟨.nul, p⟩ := by
  have hnul : p.parts.any (·.contains (CodePoint.scalar '\x00')) = true := h
  simp only [locate, hnul, if_true, Except.mapError]

/-- No other path meets it. -/
theorem fault_ne_nul (h : ¬HasNul p) {e : FileError} (he : fs.locate p = .error e) :
    e.fault ≠ .nul := by
  have hnul : ¬p.parts.any (·.contains (CodePoint.scalar '\x00')) = true := h
  rw [locate, if_neg hnul] at he
  by_cases hlong : pathBound < byteLength p.toText
  · rw [if_pos hlong] at he
    cases he
    simp
  · rw [if_neg hlong] at he
    cases hf : fs.follow (fs.origin p) p.parts with
    | ok target =>
      rw [hf] at he
      cases he
    | error fault =>
      rw [hf] at he
      cases he
      intro hfault
      have hnul : fault = FileFault.nul := hfault
      rw [hnul] at hf
      exact follow_ne_nul _ _ _ hf

/-- Every error names the path of the operation. -/
theorem path_of_locate {e : FileError} (he : fs.locate p = .error e) : e.path = p := by
  rw [locate] at he
  generalize hfollow : (if p.parts.any (·.contains (CodePoint.scalar '\x00')) = true
    then Except.error FileFault.nul
    else if pathBound < byteLength p.toText then .error .nameTooLong
    else fs.follow (fs.origin p) p.parts : Except FileFault Target) = target at he
  cases target with
  | ok target => cases he
  | error fault =>
    cases he
    rfl

/-- The path is too long, or a name that is followed on it is. -/
def IsTooLong (fs : FileSystem) (p : Path) : Prop := fs.locate p = .error ⟨.nameTooLong, p⟩

/-- What is at a path can be told unless the path is too long. -/
theorem nodeAt?_eq_error {e : FileError} :
    fs.nodeAt? p = .error e ↔ e = ⟨.nameTooLong, p⟩ ∧ fs.IsTooLong p := by
  rw [nodeAt?, IsTooLong]
  constructor
  · intro h
    split at h
    · cases h
    · cases h
    · rename_i e' hlocate
      split at h
      · rename_i hlong
        cases h
        have he : e = ⟨.nameTooLong, p⟩ := by
          rw [← hlong, ← path_of_locate hlocate]
        exact ⟨he, he ▸ hlocate⟩
      · cases h
  · intro h
    obtain ⟨rfl, hlocate⟩ := h
    rw [hlocate]
    rfl

/-- A file is read where the path leads to one. -/
theorem readFile_of_file {content : Bytes} (h : fs.nodeAt? p = .ok (some (.file content))) :
    fs.readFile p = .ok content := by
  rw [nodeAt?] at h
  split at h
  · rename_i place node hlocate
    cases h
    simp only [readFile, hlocate, bind, Except.bind]
  · cases h
  · split at h <;> cases h

/-- A directory is not read. -/
theorem readFile_of_directory (h : fs.nodeAt? p = .ok (some .directory)) :
    fs.readFile p = .error ⟨.isDirectory, p⟩ := by
  rw [nodeAt?] at h
  split at h
  · rename_i place node hlocate
    cases h
    simp only [readFile, hlocate, bind, Except.bind]
  · cases h
  · split at h <;> cases h

/-- Where the path leads nowhere nothing is read. -/
theorem readFile_of_none (h : fs.nodeAt? p = .ok none) :
    ∃ e, fs.readFile p = .error e ∧ e.path = p ∧ (e.fault = .nul ↔ HasNul p) := by
  rw [nodeAt?] at h
  split at h
  · cases h
  · rename_i place hlocate
    refine ⟨⟨.missing, p⟩, by simp only [readFile, hlocate, bind, Except.bind], rfl, ?_⟩
    constructor
    · intro h
      cases h
    · intro hnul
      rw [locate_of_hasNul hnul] at hlocate
      cases hlocate
  · rename_i e hlocate
    refine ⟨e, by simp only [readFile, hlocate, bind, Except.bind], path_of_locate hlocate, ?_⟩
    constructor
    · intro hfault
      by_contra hnul
      exact fault_ne_nul hnul hlocate hfault
    · intro hnul
      rw [locate_of_hasNul hnul] at hlocate
      cases hlocate
      rfl

/-- A path that is refused is refused to every reader. -/
theorem readFile_of_error {e : FileError} (h : fs.nodeAt? p = .error e) :
    fs.readFile p = .error e := by
  rw [nodeAt?] at h
  split at h
  · cases h
  · cases h
  · rename_i e' hlocate
    split at h
    · cases h
      simp only [readFile, hlocate, bind, Except.bind]
    · cases h

/-- A collection is a function of the node at its path. -/
theorem readItems_congr (kind : CollectionKind) (h : fs'.nodeAt? p = fs.nodeAt? p) :
    fs'.readItems kind p = fs.readItems kind p := by
  have hcontent : fs'.readFile p = fs.readFile p ∨
      ∃ e e', fs.readFile p = .error e ∧ fs'.readFile p = .error e' ∧
        (e.fault = .nul ↔ e'.fault = .nul) ∧ e.path = e'.path := by
    cases hn : fs.nodeAt? p with
    | error e =>
      rw [hn] at h
      exact Or.inl (by rw [readFile_of_error h, readFile_of_error hn])
    | ok node =>
      rw [hn] at h
      cases node with
      | some node =>
        cases node with
        | file content => exact Or.inl (by rw [readFile_of_file h, readFile_of_file hn])
        | directory => exact Or.inl (by rw [readFile_of_directory h, readFile_of_directory hn])
      | none =>
        obtain ⟨e, he, hpath, hnul⟩ := readFile_of_none hn
        obtain ⟨e', he', hpath', hnul'⟩ := readFile_of_none h
        exact Or.inr ⟨e, e', he, he', hnul.trans hnul'.symm, hpath.trans hpath'.symm⟩
  rcases hcontent with hsame | ⟨e, e', he, he', hnul, hpath⟩
  · simp only [readItems, readText, hsame]
  · have hfailure : Failure.ofText (fun _ => .collection kind .unreadable p) (.file e') =
        Failure.ofText (fun _ => .collection kind .unreadable p) (.file e) := by
      rw [Failure.ofText, Failure.ofText, Failure.ofFile, Failure.ofFile]
      by_cases hf : e.fault = .nul
      · have heq : e' = e := by
          cases e
          cases e'
          simp_all
        rw [heq]
      · rw [if_neg hf, if_neg fun h' => hf (hnul.mpr h')]
    simp only [readItems, readText, he, he', Except.mapError, bind, Except.bind, hfailure]

/-! ### What is read where a file is kept -/

/-- At the path the same can be read in both states of the files, if anything. -/
def SameContent (p : Path) (fs fs' : FileSystem) : Prop :=
  ∀ content, fs'.readFile p = .ok content ↔ fs.readFile p = .ok content

/-- What is the same from state to state is the same throughout. -/
theorem SameContent.trans {fs'' : FileSystem} (h : SameContent p fs fs')
    (h' : SameContent p fs' fs'') : SameContent p fs fs'' :=
  fun content => (h' content).trans (h content)

variable {kind : CollectionKind} {items : List Json} {baselines : List BaselineRecord}

/-- Text is read from a file with bytes that are decoded. -/
theorem readText_eq_ok {text : Text} : fs.readText p = .ok text ↔
    ∃ content decoded, fs.readFile p = .ok content ∧ Utf8.decode content = .ok decoded ∧
      text = decoded.unifyNewlines := by
  simp only [readText, bind_eq_ok, mapError_eq_ok, Except.ok.injEq]
  constructor
  · intro h
    obtain ⟨content, hcontent, decoded, hdecoded, htext⟩ := h
    exact ⟨content, decoded, hcontent, hdecoded, htext.symm⟩
  · intro h
    obtain ⟨content, decoded, hcontent, hdecoded, htext⟩ := h
    exact ⟨content, hcontent, decoded, hdecoded, htext.symm⟩

/-- Text is read from a file. -/
theorem readFile_of_readText {text : Text} (h : fs.readText p = .ok text) :
    ∃ content, fs.readFile p = .ok content := by
  obtain ⟨content, decoded, hcontent, -⟩ := readText_eq_ok.mp h
  exact ⟨content, hcontent⟩

/-- Text that is read is Unicode. -/
theorem isUnicode_of_readText {text : Text} (h : fs.readText p = .ok text) : text.IsUnicode := by
  obtain ⟨content, decoded, -, hdecoded, rfl⟩ := readText_eq_ok.mp h
  exact (Utf8.isUnicode_of_decode hdecoded).unifyNewlines

/-- The items of a collection are read where its text is. -/
theorem readItems_eq_ok : fs.readItems kind p = .ok items ↔
    ∃ text, fs.readText p = .ok text ∧ Json.read text = .ok (.array items) := by
  rw [readItems]
  cases htext : fs.readText p with
  | error fault => exact iff_of_false (fun h => nomatch h) (fun ⟨_, h, _⟩ => nomatch h)
  | ok text =>
    constructor
    · intro h
      refine ⟨text, rfl, ?_⟩
      dsimp only at h
      split at h <;> cases h
      assumption
    · intro h
      rcases h with ⟨text', ⟨⟩, hread⟩
      dsimp only
      rw [hread]

/-- A collection is read from a file. -/
theorem readFile_of_readItems (h : fs.readItems kind p = .ok items) :
    ∃ content, fs.readFile p = .ok content := by
  obtain ⟨text, htext, -⟩ := readItems_eq_ok.mp h
  exact readFile_of_readText htext

/-- From a file that is kept the same collection is read. -/
theorem readItems_of_kept
    (hkept : ∀ content, fs.readFile p = .ok content → fs'.readFile p = .ok content)
    (h : fs.readItems kind p = .ok items) : fs'.readItems kind p = .ok items := by
  obtain ⟨content, hcontent⟩ := readFile_of_readItems h
  have hsame : fs'.readFile p = fs.readFile p := by rw [hkept content hcontent, hcontent]
  simp only [readItems, readText, hsame] at h ⊢
  exact h

/-- From a file that is kept the same baseline is read. -/
theorem readBaseline_of_kept
    (hkept : ∀ content, fs.readFile p = .ok content → fs'.readFile p = .ok content)
    (h : fs.readBaseline p = .ok baselines) : fs'.readBaseline p = .ok baselines := by
  rw [readBaseline, bind_eq_ok] at h ⊢
  obtain ⟨items, hitems, hrecords⟩ := h
  exact ⟨items, readItems_of_kept hkept hitems, hrecords⟩

end CommandDocs.FileSystem
