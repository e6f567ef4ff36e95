import LabelPress.Document.Field
import LabelPress.Proofs.Journal
import Mathlib.Data.List.Nodup

/-!
# Reading the fields of a mapping

A mapping holds fields if each of their names leads to its value. What the readers of fields return
follows from that, whatever else the mapping has: a mapping made of fields with different names
holds all of them, and inserting an entry changes what its own key leads to and nothing else.
-/

namespace LabelPress

namespace Value

def IsOptionalNumber (v : Value) : Prop := v = .null ∨ ∃ n, v = .number n

/-- What may stand where a text may be left out: all but lists and mappings that has a text. -/
def IsOptionalText (v : Value) : Prop := v.isCompound = false ∧ ∃ t, v.printed = .ok t

theorem number?_eq_some {v : Value} {n : Number} : v.number? = some n ↔ v = .number n := by
  unfold number?
  split <;> simp_all

theorem mustMap_eq_ok {what : Text} {v : Value} {entries : Entries} :
    v.mustMap what = .ok entries ↔ v.head = .mapping entries := by
  unfold mustMap
  split <;> simp_all

end Value

namespace Entries
variable {entries : Entries} {name : Text}

def Holds (entries : Entries) (fields : List (Text × Value)) : Prop :=
  ∀ field ∈ fields, entries.get? field.1 = some field.2

theorem holds_cons {field : Text × Value} {fields : List (Text × Value)} :
    entries.Holds (field :: fields) ↔
      entries.get? field.1 = some field.2 ∧ entries.Holds fields := List.forall_mem_cons

theorem holds_append {fields fields' : List (Text × Value)} :
    entries.Holds (fields ++ fields') ↔ entries.Holds fields ∧ entries.Holds fields' :=
  List.forall_mem_append

theorem get?_cons_text (k : Text) (v : Value) (rest : Entries) :
    get? name ((.text k, v) :: rest) = if k = name then some v else get? name rest := rfl

theorem get?_cons_of_ne {k : Scalar} (hk : k ≠ .text name) (v : Value) (rest : Entries) :
    get? name ((k, v) :: rest) = get? name rest := by
  cases k with
  | text k => exact if_neg fun h => hk (congrArg Scalar.text h)
  | _ => rfl

theorem getOrNull_of_get? {v : Value} (h : entries.get? name = some v) :
    entries.getOrNull name = v := by
  simp only [getOrNull, h, Option.getD_some]

theorem has_of_get? {v : Value} (h : entries.get? name = some v) : entries.has name = true := by
  simp only [has, h, Option.isSome_some]

section Made
variable {fields : List (Text × Value)}

/-- The entries of fields. -/
def ofFields (fields : List (Text × Value)) : Entries := fields.map fun (k, v) => (.text k, v)

theorem get?_ofFields_eq_none (h : name ∉ fields.map Prod.fst) :
    (ofFields fields).get? name = none := by
  induction fields with
  | nil => rfl
  | cons field fields ih =>
    simp only [List.map_cons, List.mem_cons, not_or] at h
    exact (if_neg (Ne.symm h.1)).trans (ih h.2)

theorem holds_ofFields (h : (fields.map Prod.fst).Nodup) : (ofFields fields).Holds fields := by
  induction fields with
  | nil => exact fun field hfield => nomatch hfield
  | cons field fields ih =>
    simp only [List.map_cons, List.nodup_cons] at h
    refine holds_cons.mpr ⟨if_pos rfl, fun other hother => ?_⟩
    have hne : field.1 ≠ other.1 := fun heq => h.1 (heq ▸ List.mem_map_of_mem hother)
    exact (if_neg hne).trans (ih h.2 other hother)

end Made

/-- A key is the same as a text exactly if it is that text. -/
theorem same_text_iff {k : Scalar} : k.same (.text name) = true ↔ k = .text name := by
  cases k <;> simp [Scalar.same, Scalar.toNumber?]

theorem text_same_iff {k : Scalar} : (Scalar.text name).same k = true ↔ k = .text name := by
  rw [← same_text_iff]
  cases k <;> simp [Scalar.same, Scalar.toNumber?, BEq.comm]

theorem get?_insert_self (v : Value) : (entries.insert (.text name) v).get? name = some v := by
  induction entries with
  | nil => exact if_pos rfl
  | cons entry rest ih =>
    obtain ⟨k, w⟩ := entry
    by_cases hk : k = .text name
    · subst hk
      rw [insert, if_pos (same_text_iff.mpr rfl), get?_cons_text, if_pos rfl]
    · rw [insert, if_neg (mt same_text_iff.mp hk), get?_cons_of_ne hk, ih]

theorem get?_insert_of_key_ne {key : Scalar} (hkey : key ≠ .text name) (v : Value) :
    (entries.insert key v).get? name = entries.get? name := by
  induction entries with
  | nil => exact get?_cons_of_ne hkey v []
  | cons entry rest ih =>
    obtain ⟨k, w⟩ := entry
    by_cases hname : k = .text name
    · subst hname
      rw [insert, if_neg (mt text_same_iff.mp hkey), get?_cons_text, get?_cons_text, ih]
    · rw [insert, get?_cons_of_ne hname]
      split
      · exact get?_cons_of_ne hname v rest
      · rw [get?_cons_of_ne hname, ih]

theorem get?_insert_of_ne {other : Text} (hne : other ≠ name) (v : Value) :
    (entries.insert (.text other) v).get? name = entries.get? name :=
  get?_insert_of_key_ne (fun h => hne (Scalar.text.inj h)) v

theorem optionalNumber_of_get? {n : Option Number}
    (h : entries.get? name = some ((n.map Value.number).getD .null)) :
    entries.optionalNumber name = .ok n := by
  simp only [optionalNumber, getOrNull_of_get? h]
  cases n <;> rfl

theorem number_of_get? {n : Number} (h : entries.get? name = some (.number n))
    (default : Number) : entries.number name default = .ok n := by
  rw [number, optionalNumber_of_get? (n := some n) h]
  rfl

theorem optionalText_of_get? {s : Option Text} (h : entries.get? name = some (.ofText? s)) :
    entries.optionalText name = .ok s := by
  simp only [optionalText, getOrNull_of_get? h]
  cases s <;> rfl

theorem optionalText_of_get?_eq_none (h : entries.get? name = none) :
    entries.optionalText name = .ok none := by
  simp only [optionalText, getOrNull, h, Option.getD_none]
  rfl

theorem flag_of_get? {b : Bool} (h : entries.get? name = some (.bool b)) (default : Bool) :
    entries.flag name default = b := by
  simp only [flag, h]
  rfl

theorem exists_optionalNumber_iff :
    (∃ n, entries.optionalNumber name = .ok n) ↔ (entries.getOrNull name).IsOptionalNumber := by
  unfold optionalNumber Value.IsOptionalNumber
  split
  · next hnull => exact ⟨fun _ => Or.inl hnull, fun _ => ⟨none, rfl⟩⟩
  · next hne =>
    rw [or_iff_right hne]
    split
    · next n hn => exact ⟨fun _ => ⟨n, Value.number?_eq_some.mp hn⟩, fun _ => ⟨some n, rfl⟩⟩
    · next hnone =>
      simp only [bind_eq_ok, throw_ne_ok, and_false, exists_false, false_iff, not_exists]
      intro n hn
      rw [Value.number?_eq_some.mpr hn] at hnone
      cases hnone

theorem exists_number_iff {default : Number} :
    (∃ n, entries.number name default = .ok n) ↔ (entries.getOrNull name).IsOptionalNumber := by
  rw [← exists_optionalNumber_iff]
  simp only [number, bind_eq_ok, pure_eq_ok]
  constructor
  · rintro ⟨_, n, hn, -⟩
    exact ⟨n, hn⟩
  · rintro ⟨n, hn⟩
    exact ⟨_, n, hn, rfl⟩

theorem exists_optionalText_iff :
    (∃ s, entries.optionalText name = .ok s) ↔ (entries.getOrNull name).IsOptionalText := by
  unfold optionalText Value.IsOptionalText
  split
  · next hnull =>
    rw [hnull]
    exact ⟨fun _ => ⟨rfl, _, rfl⟩, fun _ => ⟨none, rfl⟩⟩
  · next hne =>
    cases (entries.getOrNull name).isCompound with
    | true => simp [bind_eq_ok, throw_ne_ok]
    | false =>
      simp only [Bool.false_eq_true, if_false, bind_eq_ok, pure_eq_ok, liftArithmetic_eq_ok,
        true_and]
      constructor
      · rintro ⟨_, t, ht, -⟩
        exact ⟨t, ht⟩
      · rintro ⟨t, ht⟩
        exact ⟨_, t, ht, rfl⟩

end Entries
end LabelPress
