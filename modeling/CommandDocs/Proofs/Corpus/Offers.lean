import CommandDocs.Proofs.Corpus.SourcesAgree
import CommandDocs.Proofs.Text.Lowercase

/-!
# Offers for the beginning of a name

A name is offered for whatever it begins with, once, in an index that has its records. The
comparison is made in lower case, and there a capital sigma at the end of the typed word has its
final form. A name that goes on behind such a sigma is not offered while the word stops there.
-/

namespace CommandDocs

namespace Completion

variable {records : Entries Text MergedRecord} {linePrefix word behind name : Text}

/-- The offers bear the names that match, in the order of the table. -/
theorem map_label_items (hwanted : isWanted linePrefix = true) :
    (items records linePrefix word).map CompletionItem.label =
      records.keys.filter (matchesWord word) := by
  rw [items, if_pos hwanted, List.map_map]
  exact List.map_id' _

/-- A name that matches is offered once. -/
theorem count_label_items (hwanted : isWanted linePrefix = true) (hkeys : records.keys.Nodup)
    (hname : name ∈ records.keys) (hmatches : matchesWord word name = true) :
    ((items records linePrefix word).map CompletionItem.label).count name = 1 := by
  rw [map_label_items hwanted, List.count_filter hmatches]
  exact List.count_eq_one_of_mem hkeys hname

/-- A name that does not match is not offered. -/
theorem not_mem_label_items (hmatches : ¬matchesWord word name = true) :
    name ∉ (items records linePrefix word).map CompletionItem.label := by
  by_cases hwanted : isWanted linePrefix = true
  · rw [map_label_items hwanted, List.mem_filter]
    exact fun h => hmatches h.2
  · rw [items, if_neg hwanted, List.map_nil]
    exact List.not_mem_nil

/-- A name matches its own beginning, unless that stops at a sigma inside of a word. -/
theorem matchesWord_append_iff :
    matchesWord word (word ++ behind) = true ↔ ¬Text.StopsAtSigma word behind :=
  Text.startsWith_lower_iff word behind

end Completion

namespace IndexWorld

open Completion

/-- Whatever happened to an index and to the files: if the index has its records, it offers each of
its names exactly once for every beginning of the name, wherever offers are wanted. The only
exception are beginnings that stop at a capital sigma in a word that the name goes on with, and for
these the name is not offered. -/
theorem offers_of_beginning (data : Path) (baseline : Option Path) (files : FileSystem)
    (events : List IndexEvent) (word behind linePrefix : Text) (fs : FileSystem) :
    let index := ((start data baseline files).after events).index
    index.loaded ≠ none → word ++ behind ∈ index.names → isWanted linePrefix = true →
      ∃ offers, (index.call fs (.complete linePrefix word)).reply = .ok (.offers offers) ∧
        (¬Text.StopsAtSigma word behind →
          (offers.map CompletionItem.label).count (word ++ behind) = 1) ∧
        (Text.StopsAtSigma word behind → word ++ behind ∉ offers.map CompletionItem.label) := by
  intro index hloaded hname hwanted
  have hsound : index.IsSound :=
    isSound_after (w := start data baseline files) (by rintro loaded ⟨⟩) events
  obtain ⟨loaded, hloaded⟩ := Option.ne_none_iff_exists'.mp hloaded
  refine ⟨_, index.reply_call_of_loaded hloaded fs (by simp), fun hgoes => ?_, fun hstops => ?_⟩
  · exact count_label_items hwanted hsound.nodup_names hname (matchesWord_append_iff.mpr hgoes)
  · exact not_mem_label_items fun h => matchesWord_append_iff.mp h hstops

/-- The index of one command offers it for its first two letters, also when the data is gone. -/
theorem offers_of_beginning_sampleFiles : ∃ offers,
    (((start ⟨.relative, ["data"]⟩ none sampleFiles).after [.call .load]).index.call noFiles
      (.complete [] "ab")).reply = .ok (.offers offers) ∧
    (offers.map CompletionItem.label).count ("abs" : Text) = 1 := by
  have hloaded : ∃ loaded, ((start ⟨.relative, ["data"]⟩ none sampleFiles).after
      [.call .load]).index.loaded = some loaded := ⟨_, rfl⟩
  obtain ⟨offers, hreply, honce, -⟩ := offers_of_beginning ⟨.relative, ["data"]⟩ none sampleFiles
    [.call .load] "ab" "s" [] noFiles (Option.ne_none_iff_exists'.mpr hloaded) (by decide) rfl
  refine ⟨offers, hreply, honce fun hstops => ?_⟩
  exact Text.not_endsInSigma (by decide) hstops.1

/-- A name of three capital letters, the second of which is a sigma. -/
def sigmaName : Text := [.ofValue 0x391, .capitalSigma, .ofValue 0x391]

/-- Command data about it. -/
def sigmaFiles : FileSystem where
  nodes := [(["data"], .file (("[\x7b\"name\":\"" ++ sigmaName ++
    "\",\"description\":\"d\",\"usage\":\"u\"\x7d]" : Text).flatMap Utf8.bytesOf))]
  workingDirectory := []

/-- An index that knows the name offers nothing for its first two letters. -/
theorem no_offers_of_sigmaName :
    let index := ((start ⟨.relative, ["data"]⟩ none sigmaFiles).after [.call .load]).index
    index.names = [sigmaName] ∧ sigmaName.take 2 <+: sigmaName ∧ isWanted [] = true ∧
      (index.call sigmaFiles (.complete [] (sigmaName.take 2))).reply = .ok (.offers []) := by
  intro index
  have hnames : index.names = [sigmaName] := rfl
  have hloaded : ∃ loaded, index.loaded = some loaded := ⟨_, rfl⟩
  obtain ⟨loaded, hloaded⟩ := hloaded
  have hletter : Text.meetsCased [.ofValue 0x391] = true := by
    have hkept : (CodePoint.ofValue 0x391).isCaseIgnorable = false := by
      rw [CodePoint.isCaseIgnorable_eq]
      decide +kernel
    rw [Text.meetsCased_cons hkept]
    decide +kernel
  have hstops : Text.StopsAtSigma (sigmaName.take 2) (sigmaName.drop 2) :=
    ⟨⟨sigmaName.take 1, [], rfl, List.forall_mem_nil _, hletter⟩, hletter⟩
  have hmatches : ¬matchesWord (sigmaName.take 2) sigmaName = true :=
    fun h => matchesWord_append_iff.mp h hstops
  refine ⟨hnames, List.take_prefix _ _, rfl, ?_⟩
  have hnone : index.complete [] (sigmaName.take 2) = [] := by
    have hkeys : index.records.keys = [sigmaName] := hnames
    rw [CommandIndex.complete, items, hkeys, List.filter_cons_of_neg hmatches]
    rfl
  rw [index.reply_call_of_loaded hloaded _ (by simp), IndexCall.reply, hnone]

end IndexWorld

end CommandDocs
