import CommandDocs.Proofs.Log.Listing
import CommandDocs.Proofs.Text.CodePoint
import CommandDocs.Proofs.Text.EndedLines
import Mathlib.Data.List.Chain

/-!
# Blocks of a log file

A log file is written block by block. The first block of a command stands right behind what the
file holds already, and every further block of that command behind an empty line. Blocks are told
apart by their headings, so that a file shows where the empty line between two of them is missing:
it has the shape of blocks with an empty line between any two of them if and only if its first
block, and no other, is the first one of a command.
-/

namespace CommandDocs

/-- Lines behind which there is a newline each can be told from the text. -/
theorem Text.splitOn_unlines {ls : List Text} (h : ∀ line ∈ ls, CodePoint.scalar '\n' ∉ line) :
    splitOn (.scalar '\n') (unlines ls) = ls ++ [[]] := by
  refine splitOn_eq_iff.mpr ⟨List.concat_ne_nil [] ls, ?_, join_newline_concat ls⟩
  rw [List.forall_mem_append]
  exact ⟨h, List.forall_mem_singleton.mpr List.not_mem_nil⟩

namespace LogFormat

/-- A line that begins like the heading of a block. -/
def IsHeading (line : Text) : Prop := ("=== " : Text) <+: line

/-- The lines of a block. Only the first of them is a heading, and none is empty. -/
structure IsBlock (lines : List Text) : Prop where
  /-- A block begins with the name of its event. -/
  heading : ∃ event shown, lines = ("=== " ++ event ++ " ===" : Text) :: shown ∧
    ∀ line ∈ shown, line ≠ [] ∧ ¬IsHeading line
  /-- No line is more than one. -/
  unbroken : ∀ line ∈ lines, CodePoint.scalar '\n' ∉ line

/-- A text of blocks, with one empty line between any two of them and a newline at the end. -/
def IsSeparated (t : Text) : Prop :=
  ∃ blocks : List (List Text), (∀ block ∈ blocks, IsBlock block) ∧
    t = Text.unlines (List.intercalate [[]] blocks)

/-- A block in a log file. -/
structure Entry where
  /-- Is it that of the first event of its command? -/
  isFirst : Bool
  /-- The lines of the block. -/
  lines : List Text

/-- The lines that are written: every block but the first one follows an empty line. -/
def Entry.written (entry : Entry) : List Text :=
  (if entry.isFirst then [] else [[]]) ++ entry.lines

/-- The lines of a file. -/
def fileLines (entries : List Entry) : List Text := (entries.map Entry.written).flatten

variable {entries : List Entry} {entry : Entry}

/-- Blocks that are written later stand behind. -/
theorem fileLines_append (entries others : List Entry) :
    fileLines (entries ++ others) = fileLines entries ++ fileLines others := by
  rw [fileLines, List.map_append, List.flatten_append]
  rfl

/-- No line that is written is more than one. -/
theorem unbroken_fileLines (h : ∀ entry ∈ entries, IsBlock entry.lines) :
    ∀ line ∈ fileLines entries, CodePoint.scalar '\n' ∉ line := by
  intro line hline
  obtain ⟨written, hwritten, hmem⟩ := List.mem_flatten.mp hline
  obtain ⟨entry, hentry, rfl⟩ := List.mem_map.mp hwritten
  rcases List.mem_append.mp hmem with hgap | hmem
  · split at hgap
    · cases hgap
    · rw [List.mem_singleton.mp hgap]
      exact List.not_mem_nil
  · exact (h entry hentry).unbroken line hmem

/-! ### Where an empty line is missing -/

/-- A heading stands behind an empty line. -/
def Parts (line next : Text) : Prop := IsHeading next → line = []

/-- A heading is no empty line. -/
theorem IsHeading.ne_nil {line : Text} (h : IsHeading line) : line ≠ [] := by
  rintro rfl
  exact absurd (List.prefix_nil.mp h) (by decide)

/-- The line with the name of an event is a heading. -/
theorem isHeading_of_event (event : Text) : IsHeading ("=== " ++ event ++ " ===" : Text) := by
  rw [IsHeading, List.append_assoc]
  exact List.prefix_append _ _

/-- A block ends with a line that is not empty. -/
theorem IsBlock.getLast?_ne {lines : List Text} (h : IsBlock lines) :
    ∃ last ∈ lines.getLast?, last ≠ [] := by
  obtain ⟨event, shown, rfl, hshown⟩ := h.heading
  refine ⟨_, List.getLast?_eq_some_getLast (List.cons_ne_nil _ shown), ?_⟩
  rcases List.mem_cons.mp (List.getLast_mem (List.cons_ne_nil _ shown)) with hlast | hlast
  · rw [hlast]
    exact (isHeading_of_event event).ne_nil
  · exact (hshown _ hlast).1

/-- Within what is written for one block nothing is missing. -/
theorem isChain_written (h : IsBlock entry.lines) : entry.written.IsChain Parts := by
  obtain ⟨event, shown, hlines, hshown⟩ := h.heading
  have hblock : entry.lines.IsChain Parts := by
    rw [hlines]
    refine List.Pairwise.isChain (List.pairwise_cons.mpr ⟨?_, ?_⟩)
    · exact fun line hline hheading => absurd hheading (hshown line hline).2
    · exact List.pairwise_of_forall_mem_list fun _ _ line hline hheading =>
        absurd hheading (hshown line hline).2
  rw [Entry.written]
  split
  · exact hblock
  · exact hblock.cons fun _ _ _ => rfl

/-- What is written for a block begins with a heading if the block is the first one of a command,
and with an empty line otherwise. -/
theorem head?_written (h : IsBlock entry.lines) :
    ∃ first ∈ entry.written.head?, (IsHeading first ↔ entry.isFirst = true) ∧
      (first = [] ↔ entry.isFirst = false) := by
  obtain ⟨event, shown, hlines, -⟩ := h.heading
  have hheading := isHeading_of_event event
  rw [Entry.written, hlines]
  cases entry.isFirst with
  | true =>
    exact ⟨_, rfl, iff_of_true hheading rfl, iff_of_false hheading.ne_nil Bool.noConfusion⟩
  | false =>
    exact ⟨[], rfl, iff_of_false (fun hnil => hnil.ne_nil rfl) Bool.noConfusion,
      iff_of_true rfl rfl⟩

/-- What is written for a block ends with a line that is not empty. -/
theorem getLast?_written (h : IsBlock entry.lines) :
    ∃ last ∈ entry.written.getLast?, last ≠ [] := by
  obtain ⟨last, hlast, hne⟩ := h.getLast?_ne
  refine ⟨last, ?_, hne⟩
  rw [Entry.written, List.getLast?_append, hlast]
  rfl

/-- All headings but that at the beginning stand behind an empty line when no block but the first
one in the file is the first one of a command. -/
theorem isChain_fileLines (h : ∀ entry ∈ entries, IsBlock entry.lines) :
    (fileLines entries).IsChain Parts ↔
      entries.IsChain fun _ next => next.isFirst = false := by
  have hne : [] ∉ entries.map Entry.written := by
    intro hmem
    obtain ⟨entry, hentry, hnil⟩ := List.mem_map.mp hmem
    obtain ⟨last, hlast, -⟩ := getLast?_written (h entry hentry)
    rw [hnil] at hlast
    cases hlast
  have hparts : ∀ written ∈ entries.map Entry.written, written.IsChain Parts := by
    intro written hwritten
    obtain ⟨entry, hentry, rfl⟩ := List.mem_map.mp hwritten
    exact isChain_written (h entry hentry)
  rw [fileLines, List.isChain_flatten hne, and_iff_right hparts, List.isChain_map]
  refine List.IsChain.iff_of_mem_imp fun entry next hentry hnext => ?_
  obtain ⟨last, hlast, hlastne⟩ := getLast?_written (h entry hentry)
  obtain ⟨first, hfirst, hheading, -⟩ := head?_written (h next hnext)
  constructor
  · intro hall
    rw [← Bool.not_eq_true, ← hheading]
    exact fun hfirstHeading => hlastne (hall last hlast first hfirst hfirstHeading)
  · intro hnot line _ head hhead hheadHeading
    rw [Option.mem_unique hhead hfirst, hheading, hnot] at hheadHeading
    cases hheadHeading

/-- No two blocks are both the first ones of their commands when none but the first one in the file
is. -/
theorem isChain_iff_tail :
    (entries.IsChain fun _ next => next.isFirst = false) ↔
      ∀ entry ∈ entries.tail, entry.isFirst = false := by
  induction entries with
  | nil => exact iff_of_true .nil (List.forall_mem_nil _)
  | cons entry rest ih =>
    rw [List.isChain_cons, ih, List.tail_cons]
    cases rest with
    | nil => simp
    | cons next rest => simp

/-- A file begins with a line that is not empty when its first block is the first one of a
command. -/
theorem head?_fileLines (h : ∀ entry ∈ entries, IsBlock entry.lines) :
    (∀ line ∈ (fileLines entries).head?, line ≠ []) ↔
      ∀ entry ∈ entries.head?, entry.isFirst = true := by
  cases entries with
  | nil => exact iff_of_true nofun nofun
  | cons entry rest =>
    obtain ⟨first, hfirst, -, hempty⟩ := head?_written (h entry (List.mem_cons_self ..))
    have hhead : (fileLines (entry :: rest)).head? = some first := by
      rw [fileLines, List.map_cons, List.flatten_cons, List.head?_append, hfirst]
      rfl
    rw [hhead, List.head?_cons]
    simp only [Option.mem_some_iff, forall_eq', ne_eq, hempty, Bool.not_eq_false]

/-- A file does not end with an empty line. -/
theorem getLast?_fileLines (h : ∀ entry ∈ entries, IsBlock entry.lines) :
    ∀ line ∈ (fileLines entries).getLast?, line ≠ [] := by
  rcases List.eq_nil_or_concat' entries with rfl | ⟨init, entry, rfl⟩
  · exact nofun
  · rw [List.forall_mem_append] at h
    obtain ⟨last, hlast, hne⟩ := getLast?_written (h.2 entry (List.mem_singleton_self entry))
    have hwritten : fileLines [entry] = entry.written := List.append_nil _
    intro line hline
    rw [fileLines_append, hwritten, List.getLast?_append, hlast, Option.some_or] at hline
    exact Option.some.inj hline ▸ hne

/-! ### Blocks of one command -/

/-- Blocks as one command writes them. -/
def asWritten : List (List Text) → List Entry
  | [] => []
  | block :: others => ⟨true, block⟩ :: others.map (Entry.mk false)

/-- One command puts an empty line between any two of its blocks. -/
theorem fileLines_asWritten (blocks : List (List Text)) :
    fileLines (asWritten blocks) = List.intercalate [[]] blocks := by
  have hothers (others : List (List Text)) (block : List Text) :
      block ++ fileLines (others.map (Entry.mk false)) =
        List.intercalate [[]] (block :: others) := by
    induction others generalizing block with
    | nil => rw [List.intercalate_singleton, List.map_nil, fileLines, List.map_nil,
        List.flatten_nil, List.append_nil]
    | cons next others ih =>
      rw [List.intercalate_cons_cons, ← ih next]
      simp only [fileLines, List.map_cons, List.flatten_cons, Entry.written, Bool.false_eq_true,
        if_false, List.append_assoc]
  cases blocks with
  | nil => rfl
  | cons block others => exact hothers others block

/-- Entries are written as the blocks of one command when the first of them, and no other, is the
first one of a command. -/
theorem asWritten_lines : asWritten (entries.map Entry.lines) = entries ↔
    (∀ entry ∈ entries.head?, entry.isFirst = true) ∧
      ∀ entry ∈ entries.tail, entry.isFirst = false := by
  have hmark (marked : Bool) (entry : Entry) :
      Entry.mk marked entry.lines = entry ↔ entry.isFirst = marked := by
    cases entry
    simp only [Entry.mk.injEq, and_true, eq_comm]
  cases entries with
  | nil => exact iff_of_true rfl ⟨nofun, List.forall_mem_nil _⟩
  | cons entry rest =>
    have hrest : (rest.map Entry.lines).map (Entry.mk false) = rest ↔
        ∀ other ∈ rest, other.isFirst = false := by
      conv_lhs => rhs; rw [← List.map_id rest]
      rw [List.map_map, List.map_inj_left]
      simp only [Function.comp_apply, id, hmark]
    rw [List.map_cons, asWritten, List.cons.injEq, hmark, hrest, List.tail_cons]
    simp only [List.head?_cons, Option.mem_some_iff, forall_eq']

/-- A file has an empty line between any two blocks, and none at either end, if and only if its
first block, and no other, is the first one of a command. -/
theorem isSeparated_iff (h : ∀ entry ∈ entries, IsBlock entry.lines) :
    IsSeparated (Text.unlines (fileLines entries)) ↔
      (∀ entry ∈ entries.head?, entry.isFirst = true) ∧
        ∀ entry ∈ entries.tail, entry.isFirst = false := by
  constructor
  · rintro ⟨blocks, hblocks, htext⟩
    have hwritten : ∀ entry ∈ asWritten blocks, IsBlock entry.lines := by
      cases blocks with
      | nil => exact List.forall_mem_nil _
      | cons block others =>
        rw [List.forall_mem_cons] at hblocks
        rw [asWritten, List.forall_mem_cons, List.forall_mem_map]
        exact hblocks
    have hsame : fileLines entries = fileLines (asWritten blocks) := by
      rw [← fileLines_asWritten] at htext
      have hsplit := congrArg (Text.splitOn (.scalar '\n')) htext
      rw [Text.splitOn_unlines (unbroken_fileLines h),
        Text.splitOn_unlines (unbroken_fileLines hwritten)] at hsplit
      exact List.append_cancel_right hsplit
    -- the lines tell which blocks follow an empty line
    rw [← isChain_iff_tail, ← isChain_fileLines h, ← head?_fileLines h, hsame,
      isChain_fileLines hwritten, head?_fileLines hwritten, isChain_iff_tail, ← asWritten_lines]
    cases blocks with
    | nil => rfl
    | cons block others => simp [asWritten]
  · intro hmarks
    refine ⟨entries.map Entry.lines, List.forall_mem_map.mpr h, ?_⟩
    rw [← fileLines_asWritten, asWritten_lines.mpr hmarks]

end LogFormat

end CommandDocs
