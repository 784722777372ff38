import CommandDocs.Entries
import Mathlib.Data.List.Induction

/-!
# Entries written one after the other

The view of a table that was filled pair by pair: which keys it has, in which order
they stand, and which value each of them bears.
-/

namespace CommandDocs.Entries

variable {κ α : Type} [DecidableEq κ] {entries pairs : Entries κ α} {key k : κ} {value v : α}

omit [DecidableEq κ] in
/-- The first key comes first. -/
@[simp]
theorem keys_cons (key : κ) (value : α) (rest : Entries κ α) :
    keys ((key, value) :: rest) = key :: rest.keys := rfl

omit [DecidableEq κ] in
/-- Keys keep the order of the pairs. -/
@[simp]
theorem keys_append (first second : Entries κ α) :
    keys (first ++ second) = first.keys ++ second.keys := List.map_append

/-- A key is found exactly when it is there. -/
theorem isSome_find? : (find? key entries).isSome = true ↔ key ∈ entries.keys := by
  induction entries with
  | nil => simp [find?, keys]
  | cons entry rest ih =>
    obtain ⟨first, value⟩ := entry
    by_cases h : first = key
    · simp [find?, keys, h]
    · have hne : key ≠ first := fun e => h e.symm
      simpa [find?, keys, h, hne] using ih

/-- What is found under a key stands in the table. -/
theorem mem_of_find? (h : find? key entries = some value) : (key, value) ∈ entries := by
  induction entries with
  | nil => cases h
  | cons entry rest ih =>
    obtain ⟨first, old⟩ := entry
    by_cases hf : first = key
    · rw [find?, if_pos hf, Option.some.injEq] at h
      rw [hf, h]
      exact List.mem_cons_self ..
    · rw [find?, if_neg hf] at h
      exact List.mem_cons_of_mem _ (ih h)

/-- A key that is not there is not found. -/
theorem find?_eq_none (h : key ∉ entries.keys) : find? key entries = none := by
  rw [← Option.not_isSome_iff_eq_none, isSome_find?]
  exact h

/-- A key is looked up in one table and then in the next. -/
theorem find?_append (key : κ) (first second : Entries κ α) :
    find? key (first ++ second) = (find? key first).or (find? key second) := by
  induction first with
  | nil => rfl
  | cons entry rest ih =>
    obtain ⟨k, value⟩ := entry
    by_cases h : k = key
    · simp [find?, h]
    · simpa [find?, h] using ih

/-- Writing to a known key keeps all keys. -/
theorem keys_put_of_mem (h : key ∈ entries.keys) :
    (put key value entries).keys = entries.keys := by
  induction entries with
  | nil => cases h
  | cons entry rest ih =>
    obtain ⟨first, old⟩ := entry
    by_cases hf : first = key
    · rw [put, if_pos hf, keys_cons, keys_cons]
    · rw [keys_cons] at h
      have hrest : key ∈ keys rest :=
        (List.mem_cons.mp h).resolve_left fun e => hf e.symm
      rw [put, if_neg hf, keys_cons, keys_cons, ih hrest]

/-- A new entry is appended. -/
theorem put_of_not_mem (h : key ∉ entries.keys) :
    put key value entries = entries ++ [(key, value)] := by
  induction entries with
  | nil => rfl
  | cons entry rest ih =>
    obtain ⟨first, old⟩ := entry
    rw [keys_cons, List.mem_cons, not_or] at h
    rw [put, if_neg fun e => h.1 e.symm, ih h.2, List.cons_append]

/-- Distinct keys stay distinct. -/
theorem nodup_keys_put (h : entries.keys.Nodup) : (put key value entries).keys.Nodup := by
  by_cases hmem : key ∈ entries.keys
  · rw [keys_put_of_mem hmem]
    exact h
  · rw [put_of_not_mem hmem, keys_append, List.nodup_append]
    refine ⟨h, by simp [keys], ?_⟩
    intro a ha b hb h
    subst h
    rw [List.mem_singleton.mp hb] at ha
    exact hmem ha

/-- Whatever stands in the table was there before or was written. -/
theorem mem_put (h : (k, v) ∈ put key value entries) :
    (k, v) ∈ entries ∨ (k, v) = (key, value) := by
  induction entries with
  | nil => exact Or.inr (List.mem_singleton.mp h)
  | cons entry rest ih =>
    obtain ⟨first, old⟩ := entry
    by_cases hf : first = key
    · rw [put, if_pos hf] at h
      rcases List.mem_cons.mp h with hnew | hrest
      · exact Or.inr (by rw [hnew, hf])
      · exact Or.inl (List.mem_cons_of_mem _ hrest)
    · rw [put, if_neg hf] at h
      rcases List.mem_cons.mp h with hfirst | hrest
      · exact Or.inl (hfirst ▸ List.mem_cons_self ..)
      · exact (ih hrest).imp_left (List.mem_cons_of_mem _)

/-- A key that was written bears its value, and all others bear theirs. -/
theorem find?_put : find? k (put key value entries) =
    if key = k then some value else find? k entries := by
  induction entries with
  | nil => simp [put, find?]
  | cons entry rest ih =>
    obtain ⟨first, old⟩ := entry
    by_cases hf : first = key
    · by_cases hk : key = k
      · simp [put, find?, hf, hk]
      · simp [put, find?, hf, hk]
    · by_cases hk : key = k
      · have hfk : first ≠ k := hk ▸ hf
        rw [put, if_neg hf, find?, if_neg hfk, ih]
        simp [hk]
      · simp [put, find?, hf, ih, hk]

/-- Writing one more pair at the end. -/
theorem ofPairs_concat (pairs : List (κ × α)) (key : κ) (value : α) :
    ofPairs (pairs ++ [(key, value)]) = put key value (ofPairs pairs) := by
  rw [ofPairs, List.foldl_append]
  rfl

/-- The keys of a table that was filled pair by pair are distinct. -/
theorem nodup_keys_ofPairs (pairs : List (κ × α)) : (ofPairs pairs).keys.Nodup := by
  induction pairs using List.reverseRecOn with
  | nil => exact List.nodup_nil
  | append_singleton pairs pair ih =>
    rw [ofPairs_concat]
    exact nodup_keys_put ih

/-- Whatever stands in a table that was filled pair by pair is one of the pairs. -/
theorem mem_of_mem_ofPairs (h : (k, v) ∈ ofPairs pairs) : (k, v) ∈ pairs := by
  induction pairs using List.reverseRecOn with
  | nil => cases h
  | append_singleton pairs pair ih =>
    rw [ofPairs_concat] at h
    rcases mem_put h with hold | hnew
    · exact List.mem_append_left _ (ih hold)
    · exact List.mem_append_right _ (List.mem_singleton.mpr hnew)

/-- The keys are those that were written. -/
theorem mem_keys_ofPairs : key ∈ (ofPairs pairs).keys ↔ key ∈ keys pairs := by
  induction pairs using List.reverseRecOn with
  | nil => rfl
  | append_singleton pairs pair ih =>
    obtain ⟨written, value⟩ := pair
    rw [ofPairs_concat, keys_append, List.mem_append, ← ih]
    by_cases hmem : written ∈ (ofPairs pairs).keys
    · rw [keys_put_of_mem hmem]
      refine ⟨Or.inl, ?_⟩
      intro h
      rcases h with hold | hnew
      · exact hold
      · rw [List.mem_singleton.mp hnew]
        exact hmem
    · rw [put_of_not_mem hmem, keys_append, List.mem_append]

/-- Pairs with distinct keys are a table already. -/
theorem ofPairs_of_nodup (h : (keys pairs).Nodup) : ofPairs pairs = pairs := by
  induction pairs using List.reverseRecOn with
  | nil => rfl
  | append_singleton pairs pair ih =>
    obtain ⟨key, value⟩ := pair
    rw [keys_append, List.nodup_append] at h
    obtain ⟨hpairs, -, hdisjoint⟩ := h
    have hnew : key ∉ (ofPairs pairs).keys := by
      rw [mem_keys_ofPairs]
      exact fun hmem => hdisjoint key hmem key (List.mem_singleton_self _) rfl
    rw [ofPairs_concat, put_of_not_mem hnew, ih hpairs]

/-- A key bears the value of the last pair that wrote to it. -/
theorem find?_ofPairs (pairs : List (κ × α)) (key : κ) :
    find? key (ofPairs pairs) = find? key pairs.reverse := by
  induction pairs using List.reverseRecOn with
  | nil => rfl
  | append_singleton pairs pair ih =>
    rw [ofPairs_concat, find?_put, ih, List.reverse_concat]
    rfl

/-- A table that was filled from the pairs of a function looks up that function. -/
theorem find?_ofPairs_eq {f : κ → Option α} (hsound : ∀ pair ∈ pairs, f pair.1 = some pair.2)
    (hcomplete : ∀ key value, f key = some value → (key, value) ∈ pairs) (key : κ) :
    find? key (ofPairs pairs) = f key := by
  cases hfind : find? key (ofPairs pairs) with
  | some value => exact (hsound _ (mem_of_mem_ofPairs (mem_of_find? hfind))).symm
  | none =>
    cases hf : f key with
    | none => rfl
    | some value =>
      have hkey : key ∈ (ofPairs pairs).keys :=
        mem_keys_ofPairs.mpr (List.mem_map_of_mem (hcomplete key value hf))
      rw [← isSome_find?, hfind] at hkey
      cases hkey

/-- The keys come in the order in which each was written first. -/
theorem keys_ofPairs [BEq κ] [LawfulBEq κ] (pairs : List (κ × α)) :
    (ofPairs pairs).keys = (keys pairs).eraseDups := by
  induction pairs using List.reverseRecOn with
  | nil => rfl
  | append_singleton pairs pair ih =>
    obtain ⟨key, value⟩ := pair
    have hlast : keys [(key, value)] = [key] := rfl
    rw [ofPairs_concat, keys_append, hlast, List.eraseDups_append, ← ih]
    by_cases hmem : key ∈ keys pairs
    · have hnothing : [key].removeAll (keys pairs) = [] := by simpa [List.removeAll] using hmem
      rw [keys_put_of_mem (mem_keys_ofPairs.mpr hmem), hnothing, List.eraseDups_nil,
        List.append_nil]
    · have hnew : [key].removeAll (keys pairs) = [key] := by simpa [List.removeAll] using hmem
      rw [put_of_not_mem (mt mem_keys_ofPairs.mp hmem), keys_append, hnew]
      rfl

/-- Values that are put under keys of their own are searched by these keys. -/
theorem find?_map_keyed (keyOf : α → κ) (key : κ) (values : List α) :
    find? key (values.map fun value => (keyOf value, value)) =
      values.find? fun value => keyOf value = key := by
  induction values with
  | nil => rfl
  | cons value values ih =>
    by_cases h : keyOf value = key
    · simp [find?, h]
    · simpa [find?, h] using ih

/-! ### Some of the keys -/

omit [DecidableEq κ] in
/-- Where entries are kept by their keys, so are the keys. -/
theorem keys_filter (keeps : κ → Bool) (entries : Entries κ α) :
    keys (entries.filter fun entry => keeps entry.1) = entries.keys.filter keeps := by
  rw [keys, keys, List.filter_map]
  rfl

/-- A key is found among the entries that are kept if it is kept. -/
theorem find?_filter (keeps : κ → Bool) (key : κ) (entries : Entries κ α) :
    find? key (entries.filter fun entry => keeps entry.1) =
      if keeps key then find? key entries else none := by
  induction entries with
  | nil => simp [find?]
  | cons entry rest ih =>
    obtain ⟨first, value⟩ := entry
    by_cases hkey : first = key
    · subst hkey
      by_cases hkeeps : keeps first = true
      · simp [find?, hkeeps]
      · simpa [hkeeps] using ih
    · by_cases hfirst : keeps first = true
      · simpa [find?, hkey, hfirst] using ih
      · simpa [find?, hkey, hfirst] using ih

/-! ### Entries in another order -/

variable {others : Entries κ α}

/-- With distinct keys every entry is found. -/
theorem find?_of_mem (h : (key, value) ∈ entries) (hkeys : entries.keys.Nodup) :
    find? key entries = some value := by
  induction entries with
  | nil => cases h
  | cons entry rest ih =>
    obtain ⟨first, old⟩ := entry
    rw [keys_cons, List.nodup_cons] at hkeys
    rcases List.mem_cons.mp h with hfirst | hrest
    · rw [Prod.mk.injEq] at hfirst
      rw [find?, if_pos hfirst.1.symm, hfirst.2]
    · have hne : first ≠ key := fun e => hkeys.1 (e ▸ List.mem_map_of_mem hrest)
      rw [find?, if_neg hne, ih hrest hkeys.2]

omit [DecidableEq κ] in
/-- The keys stand in the order of the entries. -/
theorem keys_perm (h : others.Perm entries) : others.keys.Perm entries.keys := h.map _

omit [DecidableEq κ] in
/-- In another order the keys are distinct as well. -/
theorem nodup_keys_of_perm (h : others.Perm entries) (hkeys : entries.keys.Nodup) :
    others.keys.Nodup := (keys_perm h).nodup_iff.mpr hkeys

/-- With distinct keys the same is found in whatever order the entries stand. -/
theorem find?_of_perm (h : others.Perm entries) (hkeys : entries.keys.Nodup) (key : κ) :
    find? key others = find? key entries := by
  cases hfind : find? key entries with
  | some value =>
    exact find?_of_mem (h.mem_iff.mpr (mem_of_find? hfind)) (nodup_keys_of_perm h hkeys)
  | none =>
    refine find?_eq_none fun hmem => ?_
    rw [← Option.not_isSome_iff_eq_none, isSome_find?] at hfind
    exact hfind ((keys_perm h).mem_iff.mp hmem)

/-- Writing to a known key changes its entry and no other. -/
theorem put_of_mem (h : key ∈ entries.keys) (hkeys : entries.keys.Nodup) :
    put key value entries =
      entries.map fun entry => if entry.1 = key then (entry.1, value) else entry := by
  induction entries with
  | nil => cases h
  | cons entry rest ih =>
    obtain ⟨first, old⟩ := entry
    rw [keys_cons, List.nodup_cons] at hkeys
    by_cases hfirst : first = key
    · have hrest : ∀ entry ∈ rest, (if entry.1 = key then (entry.1, value) else entry) = entry := by
        intro entry hentry
        rw [if_neg]
        intro hkey
        exact hkeys.1 (hfirst ▸ hkey ▸ List.mem_map_of_mem hentry)
      rw [put, if_pos hfirst, List.map_cons, if_pos hfirst, List.map_congr_left hrest,
        List.map_id']
    · rw [keys_cons, List.mem_cons] at h
      rw [put, if_neg hfirst, List.map_cons, if_neg hfirst,
        ih (h.resolve_left (Ne.symm hfirst)) hkeys.2]

/-- What is written stands in both orders. -/
theorem put_perm (h : others.Perm entries) (hkeys : entries.keys.Nodup) (key : κ) (value : α) :
    (put key value others).Perm (put key value entries) := by
  have hmem : key ∈ others.keys ↔ key ∈ entries.keys := (keys_perm h).mem_iff
  by_cases hkey : key ∈ entries.keys
  · rw [put_of_mem hkey hkeys, put_of_mem (hmem.mpr hkey) (nodup_keys_of_perm h hkeys)]
    exact h.map _
  · rw [put_of_not_mem hkey, put_of_not_mem fun h => hkey (hmem.mp h)]
    exact h.append_right _

/-! ### Values changed one by one -/

variable {β : Type}

/-- The table with each value changed and each key in its place. -/
def mapValues (f : α → β) (entries : Entries κ α) : Entries κ β :=
  entries.map fun entry => (entry.1, f entry.2)

omit [DecidableEq κ] in
/-- The keys stay as they are. -/
@[simp]
theorem keys_mapValues (f : α → β) (entries : Entries κ α) :
    (mapValues f entries).keys = entries.keys := by
  simp only [mapValues, keys, List.map_map, Function.comp_def]

/-- What is found under a key is changed. -/
theorem find?_mapValues (f : α → β) (key : κ) (entries : Entries κ α) :
    find? key (mapValues f entries) = (find? key entries).map f := by
  induction entries with
  | nil => rfl
  | cons entry rest ih =>
    obtain ⟨first, value⟩ := entry
    by_cases h : first = key
    · simp [mapValues, find?, h]
    · simpa [mapValues, find?, h] using ih

/-- A value may be changed before it is written or after. -/
theorem put_mapValues (f : α → β) (key : κ) (value : α) (entries : Entries κ α) :
    put key (f value) (mapValues f entries) = mapValues f (put key value entries) := by
  induction entries with
  | nil => rfl
  | cons entry rest ih =>
    obtain ⟨first, old⟩ := entry
    by_cases h : first = key
    · simp [mapValues, put, h]
    · simpa [mapValues, put, h] using ih

/-- Values may be changed before a table is filled or after. -/
theorem ofPairs_mapValues (f : α → β) (pairs : List (κ × α)) :
    ofPairs (mapValues f pairs) = mapValues f (ofPairs pairs) := by
  induction pairs using List.reverseRecOn with
  | nil => rfl
  | append_singleton pairs pair ih =>
    obtain ⟨key, value⟩ := pair
    have hsplit : mapValues f (pairs ++ [(key, value)]) = mapValues f pairs ++ [(key, f value)] :=
      List.map_append
    rw [hsplit, ofPairs_concat, ofPairs_concat, ih, put_mapValues]

end CommandDocs.Entries
