import CommandDocs.Json.Reader
import CommandDocs.Json.Writable
import CommandDocs.Proofs.Entries
import CommandDocs.Proofs.Outcome
import CommandDocs.Proofs.Text.Utf8
import Mathlib.Algebra.Group.Nat.Defs

/-!
# Parts of a JSON value

The values inside a value, and what can be asked of each of them: that it has the form
in which a reader gives it, that its texts are Unicode, that its numbers are finite. The
depth of a value is bounded separately.
-/

namespace CommandDocs.Json

/-- The second value contains the first one, or is it. -/
inductive IsPart (part : Json) : Json → Prop where
  /-- A value is a part of itself. -/
  | refl : IsPart part part
  /-- The parts of an item are parts of the array. -/
  | item {items : List Json} {item : Json} (hitem : item ∈ items) (hpart : IsPart part item) :
    IsPart part (.array items)
  /-- The parts of a member are parts of the object. -/
  | member {members : List (Text × Json)} {member : Text × Json} (hmember : member ∈ members)
    (hpart : IsPart part member.2) : IsPart part (.object members)

/-- A condition holds of a value and of all the values inside it. -/
def Everywhere (p : Json → Prop) (value : Json) : Prop := ∀ part, IsPart part value → p part

variable {p q : Json → Prop} {value : Json} {items : List Json} {members : List (Text × Json)}

/-- What holds everywhere holds of the value itself. -/
theorem Everywhere.self (h : value.Everywhere p) : p value := h value .refl

/-- Everywhere in an array: for the array and everywhere in its items. -/
theorem everywhere_array :
    (array items).Everywhere p ↔ p (.array items) ∧ ∀ item ∈ items, item.Everywhere p := by
  constructor
  · intro h
    exact ⟨h.self, fun item hitem part hpart => h part (.item hitem hpart)⟩
  · intro h part hpart
    rcases h with ⟨hself, hitems⟩
    cases hpart with
    | refl => exact hself
    | item hitem hpart => exact hitems _ hitem part hpart

/-- Everywhere in an object: for the object and everywhere in its members. -/
theorem everywhere_object : (object members).Everywhere p ↔
    p (.object members) ∧ ∀ member ∈ members, member.2.Everywhere p := by
  constructor
  · intro h
    exact ⟨h.self, fun member hmember part hpart => h part (.member hmember hpart)⟩
  · intro h part hpart
    rcases h with ⟨hself, hmembers⟩
    cases hpart with
    | refl => exact hself
    | member hmember hpart => exact hmembers _ hmember part hpart

/-- A value without items and members. -/
def IsAtom : Json → Prop
  | .array _ => False
  | .object _ => False
  | _ => True

/-- An atom has no parts but itself. -/
theorem everywhere_of_isAtom (hvalue : value.IsAtom) (h : p value) : value.Everywhere p := by
  intro part hpart
  cases hpart with
  | refl => exact h
  | item => exact hvalue.elim
  | member => exact hvalue.elim

/-- Everywhere in null. -/
@[simp]
theorem everywhere_null : null.Everywhere p ↔ p .null :=
  ⟨Everywhere.self, everywhere_of_isAtom trivial⟩

/-- Everywhere in a truth value. -/
@[simp]
theorem everywhere_bool {b : Bool} : (bool b).Everywhere p ↔ p (.bool b) :=
  ⟨Everywhere.self, everywhere_of_isAtom trivial⟩

/-- Everywhere in an integer. -/
@[simp]
theorem everywhere_int {n : Int} : (int n).Everywhere p ↔ p (.int n) :=
  ⟨Everywhere.self, everywhere_of_isAtom trivial⟩

/-- Everywhere in a floating point number. -/
@[simp]
theorem everywhere_float {x : Binary64} : (float x).Everywhere p ↔ p (.float x) :=
  ⟨Everywhere.self, everywhere_of_isAtom trivial⟩

/-- Everywhere in a string. -/
@[simp]
theorem everywhere_text {t : Text} : (text t).Everywhere p ↔ p (.text t) :=
  ⟨Everywhere.self, everywhere_of_isAtom trivial⟩

/-- Induction over a value: what holds of an array as soon as it holds of its items, of an
object as soon as it holds of its members, and of every atom, holds of every value. -/
@[elab_as_elim]
theorem induction {motive : Json → Prop} (atom : ∀ value, value.IsAtom → motive value)
    (array : ∀ items, (∀ item ∈ items, motive item) → motive (.array items))
    (object : ∀ members, (∀ member ∈ members, motive member.2) → motive (.object members))
    (value : Json) : motive value :=
  @Json.rec motive (fun items => ∀ item ∈ items, motive item)
    (fun members => ∀ member ∈ members, motive member.2) (fun member => motive member.2)
    (atom _ trivial) (fun _ => atom _ trivial) (fun _ => atom _ trivial) (fun _ => atom _ trivial)
    (fun _ => atom _ trivial) (fun items h => array items h) (fun members h => object members h)
    (fun _ h => nomatch h) (fun _ _ hhead htail => List.forall_mem_cons.mpr ⟨hhead, htail⟩)
    (fun _ h => nomatch h) (fun _ _ hhead htail => List.forall_mem_cons.mpr ⟨hhead, htail⟩)
    (fun _ _ h => h) value

/-- The form in which a reader gives a value: an integer has no more digits than are
converted, and the names in an object are distinct. -/
def AsRead : Json → Prop
  | .int n => n.natAbs < 10 ^ digitBound
  | .object members => (Entries.keys members).Nodup
  | _ => True

/-- The texts of a value itself, string or names, hold no surrogate. -/
def HasUnicode : Json → Prop
  | .text t => t.IsUnicode
  | .object members => ∀ member ∈ members, member.1.IsUnicode
  | _ => True

/-- The value is not an infinite or undefined number. -/
def HasFinite : Json → Prop
  | .float x => x.isFinite = true
  | _ => True

/-- Values are nested in one another at most to this depth, the outermost included. -/
def NestedWithin : Nat → Json → Prop
  | 0, _ => False
  | depth + 1, .array items => ∀ item ∈ items, NestedWithin depth item
  | depth + 1, .object members => ∀ member ∈ members, NestedWithin depth member.2
  | _ + 1, _ => True

/-- A greater depth bounds all the more. -/
theorem NestedWithin.mono {depth more : Nat} (h : NestedWithin depth value)
    (hle : depth ≤ more) : NestedWithin more value := by
  induction depth generalizing more value with
  | zero => exact h.elim
  | succ depth ih =>
    obtain ⟨more, rfl⟩ : ∃ k, more = k + 1 := ⟨more - 1, by omega⟩
    cases value with
    | array items => exact fun item hitem => ih (h item hitem) (by omega)
    | object members => exact fun member hmember => ih (h member hmember) (by omega)
    | _ => trivial

/-- A text is accepted as a name when it has no surrogates. -/
theorem checkName_eq_ok {name : Text} : checkName name = .ok () ↔ name.IsUnicode := by
  rw [checkName]
  cases hencode : Utf8.encode name with
  | ok bytes => exact iff_of_true rfl (Utf8.isUnicode_of_encode hencode)
  | error e =>
    refine iff_of_false (fun h => nomatch h) fun hname => ?_
    rw [Utf8.encode_of_isUnicode hname] at hencode
    cases hencode

/-- Items are accepted together when each of them is. -/
theorem checkWritableItems_eq_ok {depth : Nat} : checkWritableItems depth items = .ok () ↔
    ∀ item ∈ items, checkWritable depth item = .ok () := by
  induction items with
  | nil => exact iff_of_true rfl (fun _ h => nomatch h)
  | cons item items ih =>
    rw [checkWritableItems, check_bind_eq_ok, ih, List.forall_mem_cons]

/-- Members are accepted together when each of them is, with its name. -/
theorem checkWritableMembers_eq_ok {depth : Nat} : checkWritableMembers depth members = .ok () ↔
    ∀ member ∈ members, member.1.IsUnicode ∧ checkWritable depth member.2 = .ok () := by
  induction members with
  | nil => exact iff_of_true rfl (fun _ h => nomatch h)
  | cons member members ih =>
    rw [checkWritableMembers, check_bind_eq_ok, check_bind_eq_ok, checkName_eq_ok, ih,
      List.forall_mem_cons, and_assoc]

/-- A value of bounded depth without surrogates is accepted. -/
theorem checkWritable_of_nestedWithin {depth : Nat} (hdepth : NestedWithin depth value)
    (htexts : value.Everywhere HasUnicode) : checkWritable depth value = .ok () := by
  induction value using induction generalizing depth with
  | atom value hatom =>
    cases depth with
    | zero => exact hdepth.elim
    | succ depth => cases value <;> first | rfl | exact hatom.elim
  | array items ih =>
    cases depth with
    | zero => exact hdepth.elim
    | succ depth =>
      rw [checkWritable]
      exact checkWritableItems_eq_ok.mpr fun item hitem =>
        ih item hitem (hdepth item hitem) ((everywhere_array.mp htexts).2 item hitem)
  | object members ih =>
    cases depth with
    | zero => exact hdepth.elim
    | succ depth =>
      rw [everywhere_object] at htexts
      rw [checkWritable]
      exact checkWritableMembers_eq_ok.mpr fun member hmember =>
        ⟨htexts.1 member hmember,
          ih member hmember (hdepth member hmember) (htexts.2 member hmember)⟩

/-- A value that is accepted is of bounded depth. -/
theorem nestedWithin_of_checkWritable {depth : Nat} (h : checkWritable depth value = .ok ()) :
    NestedWithin depth value := by
  induction value using induction generalizing depth with
  | atom value hatom =>
    cases depth with
    | zero =>
      rw [checkWritable] at h
      cases h
    | succ depth => cases value <;> trivial
  | array items ih =>
    cases depth with
    | zero => cases h
    | succ depth =>
      rw [checkWritable] at h
      exact fun item hitem => ih item hitem (checkWritableItems_eq_ok.mp h item hitem)
  | object members ih =>
    cases depth with
    | zero => cases h
    | succ depth =>
      rw [checkWritable] at h
      exact fun member hmember =>
        ih member hmember (checkWritableMembers_eq_ok.mp h member hmember).2

/-- The finite parts of items are taken one by one. -/
theorem finiteItems_eq_map (items : List Json) : finiteItems items = items.map finitePart := by
  induction items with
  | nil => rfl
  | cons item items ih => rw [finiteItems, ih, List.map_cons]

/-- The finite parts of members are taken one by one. -/
theorem finiteMembers_eq_map (members : List (Text × Json)) :
    finiteMembers members = members.map fun member => (member.1, member.2.finitePart) := by
  induction members with
  | nil => rfl
  | cons member members ih => rw [finiteMembers, ih, List.map_cons]

/-- Finite members keep their names. -/
theorem keys_finiteMembers (members : Entries Text Json) :
    Entries.keys (finiteMembers members) = members.keys := by
  rw [finiteMembers_eq_map, Entries.keys, Entries.keys, List.map_map]
  rfl

/-- A value with finite numbers is its own finite part. -/
theorem finitePart_of_everywhere (h : value.Everywhere HasFinite) : value.finitePart = value := by
  induction value using induction with
  | atom value hatom =>
    cases value with
    | float x => exact if_pos h.self
    | array items => exact hatom.elim
    | object members => exact hatom.elim
    | _ => rfl
  | array items ih =>
    rw [everywhere_array] at h
    rw [finitePart, finiteItems_eq_map]
    congr 1
    conv_rhs => rw [← List.map_id items]
    exact List.map_congr_left fun item hitem => ih item hitem (h.2 item hitem)
  | object members ih =>
    rw [everywhere_object] at h
    rw [finitePart, finiteMembers_eq_map]
    congr 1
    conv_rhs => rw [← List.map_id members]
    exact List.map_congr_left fun member hmember =>
      Prod.ext rfl (ih member hmember (h.2 member hmember))

/-- What holds everywhere in a value holds everywhere in its finite part, as long as it does
not depend on the numbers. -/
theorem everywhere_finitePart (hnull : p .null)
    (harray : ∀ items, p (.array items) → p (.array (finiteItems items)))
    (hobject : ∀ members, p (.object members) → p (.object (finiteMembers members)))
    (h : value.Everywhere p) : value.finitePart.Everywhere p := by
  induction value using induction with
  | atom value hatom =>
    cases value with
    | float x =>
      rw [finitePart]
      split
      · exact h
      · exact everywhere_of_isAtom trivial hnull
    | array items => exact hatom.elim
    | object members => exact hatom.elim
    | _ => exact h
  | array items ih =>
    rw [everywhere_array] at h
    rw [finitePart, everywhere_array]
    refine ⟨harray items h.1, fun item hitem => ?_⟩
    rw [finiteItems_eq_map] at hitem
    obtain ⟨original, horiginal, rfl⟩ := List.mem_map.mp hitem
    exact ih original horiginal (h.2 original horiginal)
  | object members ih =>
    rw [everywhere_object] at h
    rw [finitePart, everywhere_object]
    refine ⟨hobject members h.1, fun member hmember => ?_⟩
    rw [finiteMembers_eq_map] at hmember
    obtain ⟨original, horiginal, rfl⟩ := List.mem_map.mp hmember
    exact ih original horiginal (h.2 original horiginal)

/-- The finite part has the form in which a reader gives a value if the value has. -/
theorem asRead_finitePart (h : value.Everywhere AsRead) : value.finitePart.Everywhere AsRead := by
  refine everywhere_finitePart trivial (fun _ _ => trivial) (fun members hmembers => ?_) h
  rw [AsRead, keys_finiteMembers]
  exact hmembers

/-- The finite part has the texts of the value. -/
theorem hasUnicode_finitePart (h : value.Everywhere HasUnicode) :
    value.finitePart.Everywhere HasUnicode := by
  refine everywhere_finitePart trivial (fun _ _ => trivial) (fun members hmembers => ?_) h
  rw [finiteMembers_eq_map]
  intro member hmember
  obtain ⟨original, horiginal, rfl⟩ := List.mem_map.mp hmember
  exact hmembers original horiginal

/-- All numbers in a finite part are finite. -/
theorem hasFinite_finitePart (value : Json) : value.finitePart.Everywhere HasFinite := by
  induction value using induction with
  | atom value hatom =>
    cases value with
    | float x =>
      rw [finitePart]
      split
      · exact everywhere_of_isAtom trivial ‹_›
      · exact everywhere_of_isAtom trivial trivial
    | array items => exact hatom.elim
    | object members => exact hatom.elim
    | _ => exact everywhere_of_isAtom trivial trivial
  | array items ih =>
    rw [finitePart, finiteItems_eq_map, everywhere_array]
    refine ⟨trivial, fun item hitem => ?_⟩
    obtain ⟨original, horiginal, rfl⟩ := List.mem_map.mp hitem
    exact ih original horiginal
  | object members ih =>
    rw [finitePart, finiteMembers_eq_map, everywhere_object]
    refine ⟨trivial, fun member hmember => ?_⟩
    obtain ⟨original, horiginal, rfl⟩ := List.mem_map.mp hmember
    exact ih original horiginal

/-- A value is accepted by the writer if its finite part is. -/
theorem checkWritable_finitePart (depth : Nat) (value : Json) :
    checkWritable depth value.finitePart = checkWritable depth value := by
  induction depth generalizing value with
  | zero => simp only [checkWritable]
  | succ depth ih =>
    cases value with
    | float x =>
      rw [finitePart]
      split <;> simp only [checkWritable]
    | array items =>
      rw [finitePart, finiteItems_eq_map, checkWritable, checkWritable]
      induction items with
      | nil => rfl
      | cons item items ihItems =>
        rw [List.map_cons, checkWritableItems, checkWritableItems, ih, ihItems]
    | object members =>
      rw [finitePart, finiteMembers_eq_map, checkWritable, checkWritable]
      induction members with
      | nil => rfl
      | cons member members ihMembers =>
        rw [List.map_cons, checkWritableMembers, checkWritableMembers, ih, ihMembers]
    | _ => rfl

/-- Members are accepted by the writer if their finite parts are. -/
theorem checkWritableMembers_finiteMembers (depth : Nat) (members : Entries Text Json) :
    checkWritableMembers depth (finiteMembers members) = checkWritableMembers depth members := by
  have hobject := checkWritable_finitePart (depth + 1) (.object members)
  rw [finitePart, checkWritable, checkWritable] at hobject
  exact hobject

/-- The finite part is nested no deeper than the value. -/
theorem nestedWithin_finitePart {depth : Nat} (h : NestedWithin depth value) :
    NestedWithin depth value.finitePart := by
  induction depth generalizing value with
  | zero => exact h.elim
  | succ depth ih =>
    cases value with
    | float x =>
      rw [finitePart]
      split <;> trivial
    | array items =>
      rw [finitePart, finiteItems_eq_map]
      intro item hitem
      obtain ⟨original, horiginal, rfl⟩ := List.mem_map.mp hitem
      exact ih (h original horiginal)
    | object members =>
      rw [finitePart, finiteMembers_eq_map]
      intro member hmember
      obtain ⟨original, horiginal, rfl⟩ := List.mem_map.mp hmember
      exact ih (h original horiginal)
    | _ => exact h

end CommandDocs.Json
