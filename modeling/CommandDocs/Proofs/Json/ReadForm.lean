import CommandDocs.Proofs.Json.Parts
import CommandDocs.Proofs.Text.Numeral
import Mathlib.Data.List.TakeWhile

/-!
# The form of what is read

Whatever a reader gives has integers of bounded length and objects with distinct names,
at every depth. The induction is on the depth that the reader recurs on.
-/

namespace CommandDocs.Json

/-- The digits before a point are digits. -/
theorem isNumeral_of_readWhole {t whole rest : Text} (h : readWhole t = some (whole, rest)) :
    whole.IsNumeral := by
  have hspan : ∀ t, (spanDigits t).1.IsNumeral := fun t c hc => List.mem_takeWhile_imp hc
  rw [readWhole.eq_def] at h
  split at h
  · cases h
    exact Text.isNumeral_zeros 1
  · dsimp only at h
    split at h
    · cases h
    · cases h
      exact hspan _

/-- A magnitude is read in this form. -/
theorem asRead_of_readMagnitude {negative : Bool} {t rest : Text} {value : Json}
    (h : readMagnitude negative t = .ok (value, rest)) : value.Everywhere AsRead := by
  rw [readMagnitude] at h
  split at h
  · cases h
  · rename_i whole behind hwhole
    dsimp only at h
    split at h
    · split at h
      · cases h
      · rename_i hlength
        cases h
        rw [everywhere_int]
        have hbound : Text.toNat whole < 10 ^ digitBound :=
          (Text.toNat_lt (isNumeral_of_readWhole hwhole)).trans_le
            (Nat.pow_le_pow_right (by decide) (Nat.not_lt.mp hlength))
        cases negative <;> simpa [AsRead] using hbound
    · cases h
      exact everywhere_float.mpr trivial
    · cases h
      exact everywhere_float.mpr trivial

/-- An atom is read in this form. -/
theorem asRead_of_readAtom {t rest : Text} {value : Json} (h : readAtom t = .ok (value, rest)) :
    value.Everywhere AsRead := by
  rw [readAtom.eq_def] at h
  split at h
  · rename_i reading hword
    cases h
    obtain ⟨⟨word, found⟩, hmem, hfound⟩ := List.exists_of_findSome?_eq_some hword
    obtain ⟨behind, -, hpair⟩ := Option.map_eq_some_iff.mp hfound
    cases hpair
    simp only [words, List.mem_cons, Prod.mk.injEq, List.not_mem_nil, or_false] at hmem
    rcases hmem with ⟨-, rfl⟩ | ⟨-, rfl⟩ | ⟨-, rfl⟩ | ⟨-, rfl⟩ | ⟨-, rfl⟩ | ⟨-, rfl⟩ <;>
      exact everywhere_of_isAtom trivial trivial
  · split at h
    · exact asRead_of_readMagnitude h
    · exact asRead_of_readMagnitude h

variable {readItem : Text → Except JsonError (Json × Text)} {p : Json → Prop}

/-- Items that are read one by one with a property all have it. -/
theorem forall_of_readItems (hitem : ∀ t value rest, readItem t = .ok (value, rest) → p value)
    {bound : Nat} {t rest : Text} {items : List Json}
    (h : readItems readItem bound t = .ok (items, rest)) : ∀ item ∈ items, p item := by
  induction bound generalizing t items rest with
  | zero => cases h
  | succ bound ih =>
    rw [readItems] at h
    cases hfirst : readItem t with
    | error e =>
      rw [hfirst] at h
      cases h
    | ok reading =>
      obtain ⟨first, behind⟩ := reading
      have hp := hitem t first behind hfirst
      simp only [hfirst, bind, Except.bind] at h
      split at h
      · split at h
        · cases h
        · rename_i hrest
          cases h
          exact List.forall_mem_cons.mpr ⟨hp, ih hrest⟩
      · cases h
        exact List.forall_mem_cons.mpr ⟨hp, by simp⟩
      · cases h

/-- Members whose values are read with a property all have it. -/
theorem forall_of_readMembers (hitem : ∀ t value rest, readItem t = .ok (value, rest) → p value)
    {bound : Nat} {t rest : Text} {members : List (Text × Json)}
    (h : readMembers readItem bound t = .ok (members, rest)) :
    ∀ member ∈ members, p member.2 := by
  induction bound generalizing t members rest with
  | zero => cases h
  | succ bound ih =>
    rw [readMembers] at h
    cases hname : readName t with
    | error e =>
      rw [hname] at h
      cases h
    | ok named =>
      obtain ⟨name, behindName⟩ := named
      cases hfirst : readItem behindName with
      | error e =>
        simp only [hname, hfirst, bind, Except.bind] at h
        cases h
      | ok reading =>
        obtain ⟨first, behind⟩ := reading
        have hp := hitem behindName first behind hfirst
        simp only [hname, hfirst, bind, Except.bind] at h
        split at h
        · split at h
          · cases h
          · rename_i hrest
            cases h
            exact List.forall_mem_cons.mpr ⟨hp, ih hrest⟩
        · cases h
          exact List.forall_mem_cons.mpr ⟨hp, by simp⟩
        · cases h

/-- An array of values in this form has it. -/
theorem asRead_of_readArray
    (hitem : ∀ t value rest, readItem t = .ok (value, rest) → value.Everywhere AsRead)
    {t rest : Text} {value : Json} (h : readArray readItem t = .ok (value, rest)) :
    value.Everywhere AsRead := by
  rw [readArray] at h
  split at h
  · cases h
    exact everywhere_array.mpr ⟨trivial, by simp⟩
  · cases hitems : readItems readItem (skipGap t).length (skipGap t) with
    | error e =>
      rw [hitems] at h
      cases h
    | ok reading =>
      obtain ⟨items, behind⟩ := reading
      rw [hitems] at h
      cases h
      exact everywhere_array.mpr ⟨trivial, forall_of_readItems hitem hitems⟩

/-- An object whose values have this form has it, whatever names were written. -/
theorem asRead_of_readObject
    (hitem : ∀ t value rest, readItem t = .ok (value, rest) → value.Everywhere AsRead)
    {t rest : Text} {value : Json} (h : readObject readItem t = .ok (value, rest)) :
    value.Everywhere AsRead := by
  rw [readObject] at h
  split at h
  · cases h
    exact everywhere_object.mpr ⟨List.nodup_nil, by simp⟩
  · cases hmembers : readMembers readItem (skipGap t).length (skipGap t) with
    | error e =>
      rw [hmembers] at h
      cases h
    | ok reading =>
      obtain ⟨members, behind⟩ := reading
      rw [hmembers] at h
      cases h
      exact everywhere_object.mpr ⟨Entries.nodup_keys_ofPairs members, fun member hmember =>
        forall_of_readMembers hitem hmembers member (Entries.mem_of_mem_ofPairs hmember)⟩

/-- A string has this form. -/
theorem asRead_of_string {t rest : Text} {value : Json}
    (h : (do
      let (found, rest) ← readString t
      .ok (.text found, rest) : Except JsonError (Json × Text)) = .ok (value, rest)) :
    value.Everywhere AsRead := by
  cases hread : readString t with
  | error e =>
    rw [hread] at h
    cases h
  | ok reading =>
    rw [hread] at h
    cases h
    exact everywhere_text.mpr trivial

/-- A value is read in this form at every depth. -/
theorem asRead_of_readValue {depth : Nat} {t rest : Text} {value : Json}
    (h : readValue depth t = .ok (value, rest)) : value.Everywhere AsRead := by
  induction depth generalizing t rest value with
  | zero =>
    rw [readValue.eq_def] at h
    split at h
    · exact asRead_of_string h
    · cases h
    · cases h
    · rename_i hdepth
      cases hdepth
    · rename_i hdepth
      cases hdepth
    · exact asRead_of_readAtom h
  | succ depth ih =>
    rw [readValue.eq_def] at h
    split at h
    · exact asRead_of_string h
    · rename_i hdepth
      cases hdepth
    · rename_i hdepth
      cases hdepth
    · rename_i hdepth
      cases hdepth
      exact asRead_of_readArray (fun _ _ _ hread => ih hread) h
    · rename_i hdepth
      cases hdepth
      exact asRead_of_readObject (fun _ _ _ hread => ih hread) h
    · exact asRead_of_readAtom h

/-- Whatever is read from a text has this form. -/
theorem asRead_of_read {t : Text} {value : Json} (h : read t = .ok value) :
    value.Everywhere AsRead := by
  rw [read] at h
  split at h
  · cases h
  · cases hvalue : readValue nestingBound (skipGap t) with
    | error e =>
      rw [hvalue] at h
      cases h
    | ok reading =>
      obtain ⟨found, rest⟩ := reading
      simp only [hvalue, bind, Except.bind] at h
      split at h
      · cases h
        exact asRead_of_readValue hvalue
      · cases h

end CommandDocs.Json
