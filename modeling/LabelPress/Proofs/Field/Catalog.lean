import LabelPress.Handmade.Spec
import LabelPress.Proofs.Journal
import Mathlib.Data.List.Induction
import Mathlib.Data.List.Nodup
import Mathlib.Data.List.Perm.Basic

/-!
# What a catalog holds

Specifications make a catalog unless two of them share a key; the fault then names the first key
that comes again. A catalog gives back what it was made of, by key and by category. One that is put
together by hand, a specification at a time, is the same.
-/

namespace LabelPress
variable {specs held : List FieldSpec} {spec : FieldSpec} {key : Text} {fault : Fault}

namespace Catalog
variable {c : Catalog} {seen keys : List Text}

/-! ## Keys that come again -/

/-- The key that is named follows keys that are all different, and is one of them. -/
theorem firstRepeated_eq_some_iff (hseen : seen.Nodup) :
    firstRepeated seen keys = some key ↔ ∃ before after, keys = before ++ key :: after ∧
      (seen.reverse ++ before).Nodup ∧ key ∈ seen.reverse ++ before := by
  induction keys generalizing seen with
  | nil => simp [firstRepeated]
  | cons k keys ih =>
    rw [firstRepeated]
    by_cases hk : k ∈ seen
    · rw [if_pos (List.contains_iff_mem.mpr hk), Option.some.injEq]
      constructor
      · rintro rfl
        exact ⟨[], keys, rfl, by simpa using hseen, by simpa using hk⟩
      · rintro ⟨before, after, hkeys, hnodup, -⟩
        cases before with
        | nil => exact (List.cons.inj hkeys).1
        | cons _ before =>
          cases (List.cons.inj hkeys).1
          exact absurd (List.mem_reverse.mpr hk)
            fun hmem => (List.nodup_append.mp hnodup).2.2 k hmem k List.mem_cons_self rfl
    · rw [if_neg (mt List.contains_iff_mem.mp hk), ih (List.nodup_cons.mpr ⟨hk, hseen⟩)]
      simp only [List.reverse_cons, List.append_assoc, List.singleton_append]
      constructor
      · rintro ⟨before, after, rfl, h⟩
        exact ⟨k :: before, after, rfl, h⟩
      · rintro ⟨before, after, hkeys, hnodup, hmem⟩
        cases before with
        | nil =>
          cases (List.cons.inj hkeys).1
          exact absurd (by simpa using hmem) hk
        | cons _ before =>
          cases hkeys
          exact ⟨before, after, rfl, hnodup, hmem⟩

def IsFirstRepeated (specs : List FieldSpec) (spec : FieldSpec) : Prop :=
  ∃ before after, specs = before ++ spec :: after ∧ (before.map (·.key)).Nodup ∧
    spec.key ∈ before.map (·.key)

theorem firstRepeated_keys :
    firstRepeated [] (specs.map (·.key)) = some key ↔
      ∃ spec, IsFirstRepeated specs spec ∧ spec.key = key := by
  rw [firstRepeated_eq_some_iff List.nodup_nil]
  simp only [List.reverse_nil, List.nil_append]
  constructor
  · rintro ⟨before, after, hkeys, hnodup, hmem⟩
    obtain ⟨before, rest, rfl, rfl, hrest⟩ := List.map_eq_append_iff.mp hkeys
    obtain ⟨spec, after, rfl, rfl, rfl⟩ := List.map_eq_cons_iff.mp hrest
    exact ⟨spec, ⟨before, after, rfl, hnodup, hmem⟩, rfl⟩
  · rintro ⟨spec, ⟨before, after, rfl, hnodup, hmem⟩, rfl⟩
    exact ⟨before.map (·.key), after.map (·.key), by simp, hnodup, hmem⟩

theorem IsFirstRepeated.not_nodup (h : IsFirstRepeated specs spec) :
    ¬(specs.map (·.key)).Nodup := by
  obtain ⟨before, after, rfl, -, hmem⟩ := h
  rw [List.map_append, List.map_cons]
  exact fun hnodup =>
    (List.nodup_append.mp hnodup).2.2 _ hmem _ List.mem_cons_self rfl

theorem nodup_keys_concat : ((held ++ [spec]).map (·.key)).Nodup ↔
    (held.map (·.key)).Nodup ∧ spec.key ∉ held.map (·.key) := by
  rw [List.map_append, List.map_singleton, ← List.concat_eq_append, List.nodup_concat]
  exact and_comm

theorem exists_isFirstRepeated (h : ¬(specs.map (·.key)).Nodup) :
    ∃ spec, IsFirstRepeated specs spec := by
  induction specs using List.reverseRecOn with
  | nil => exact absurd List.nodup_nil h
  | append_singleton specs spec ih =>
    by_cases hnodup : (specs.map (·.key)).Nodup
    · refine ⟨spec, specs, [], rfl, hnodup, ?_⟩
      by_contra hmem
      exact h (nodup_keys_concat.mpr ⟨hnodup, hmem⟩)
    · obtain ⟨repeated, before, after, rfl, hbefore, hmem⟩ := ih hnodup
      exact ⟨repeated, before, after ++ [spec], by simp, hbefore, hmem⟩

theorem ofSpecs_eq_ok : ofSpecs specs = .ok c ↔ c.specs = specs := by
  unfold ofSpecs
  constructor
  · intro h
    split at h
    · cases h
      rfl
    · cases h
  · rintro rfl
    rw [dif_pos c.distinct]

theorem ofSpecs_eq_error : ofSpecs specs = .error fault ↔
    ∃ spec, IsFirstRepeated specs spec ∧ fault = .duplicateKey (Text.quoted spec.key) := by
  unfold ofSpecs
  split
  · next hnodup =>
    refine iff_of_false (fun h => nomatch h) ?_
    rintro ⟨spec, hspec, -⟩
    exact hspec.not_nodup hnodup
  · next hnodup =>
    obtain ⟨first, hfirst⟩ := exists_isFirstRepeated hnodup
    have hkey := firstRepeated_keys.mpr ⟨first, hfirst, rfl⟩
    rw [hkey, Option.getD_some, Except.error.injEq]
    constructor
    · rintro rfl
      exact ⟨first, hfirst, rfl⟩
    · rintro ⟨spec, hspec, rfl⟩
      have hsame := firstRepeated_keys.mpr ⟨spec, hspec, rfl⟩
      rw [Option.some.inj (hkey.symm.trans hsame)]

/-! ## Specifications by key and by category -/

theorem get?_eq_some_iff : c.get? key = some spec ↔ spec ∈ c.specs ∧ spec.key = key := by
  have hfound : ∀ {key spec}, c.get? key = some spec → spec ∈ c.specs ∧ spec.key = key := by
    intro key spec h
    unfold get? at h
    exact ⟨List.mem_of_find?_eq_some h, by simpa using List.find?_some h⟩
  refine ⟨hfound, ?_⟩
  rintro ⟨hmem, rfl⟩
  cases hget : c.get? spec.key with
  | none => exact absurd (beq_self_eq_true spec.key) (List.find?_eq_none.mp hget spec hmem)
  | some found =>
    obtain ⟨hmem', hkey⟩ := hfound hget
    rw [List.inj_on_of_nodup_map c.distinct hmem' hmem hkey]

theorem get?_eq_none_iff : c.get? key = none ↔ key ∉ c.keys := by
  simp [get?, keys]

theorem mem_byCategory {category : FieldCategory} :
    spec ∈ c.byCategory category ↔ spec ∈ c.specs ∧ spec.category = category := by
  simp [byCategory]

theorem count_byCategory (c : Catalog) (category : FieldCategory) (spec : FieldSpec) :
    (c.byCategory category).count spec =
      if spec.category = category then c.specs.count spec else 0 := by
  split
  · next h => exact List.count_filter (beq_iff_eq.mpr h)
  · next h => exact List.count_eq_zero_of_not_mem fun hmem => h (mem_byCategory.mp hmem).2

/-- Every specification is in one category. -/
theorem byCategory_perm (c : Catalog) : (FieldCategory.all.flatMap c.byCategory).Perm c.specs := by
  refine List.perm_iff_count.mpr fun spec => ?_
  simp only [FieldCategory.all, List.flatMap_cons, List.flatMap_nil, List.append_nil,
    List.count_append, count_byCategory]
  cases spec.category <;> simp

/-! ## Catalogs put together by hand -/

def byHand (c : Catalog) : Handmade.Catalog := c.specs.map .ofField

/-- The catalog holds the specifications of a list, in its order: each is found by its key, nothing
is found by another key, and the categories part the list. A catalog made by hand has the same. -/
structure Holds (c : Catalog) (specs : List FieldSpec) : Prop where
  size : c.size = specs.length
  keys : c.keys = specs.map (·.key)
  get : ∀ spec ∈ specs, c.get spec.key = .ok spec ∧ c.get? spec.key = some spec
  get_missing : ∀ key ∉ specs.map (·.key),
    c.get key = .error (.unknownKey (Text.quoted key)) ∧ c.get? key = none
  byCategory_sublist : ∀ category, (c.byCategory category).Sublist specs
  mem_byCategory : ∀ category spec,
    spec ∈ c.byCategory category ↔ spec ∈ specs ∧ spec.category = category
  byCategory_perm : (FieldCategory.all.flatMap c.byCategory).Perm specs
  byHand : ∀ key, c.byHand.find? (.text key) = (c.get? key).map .ofField ∧
    c.byHand.get (.text key) = (c.get key).map .ofField

end Catalog

namespace Handmade.Catalog
open LabelPress.Catalog (byHand)

theorem find?_ofField (specs : List FieldSpec) (key : Text) :
    find? (specs.map .ofField) (.text key) =
      (specs.find? fun spec => spec.key == key).map .ofField := by
  rw [find?, List.find?_map]
  congr 2
  funext spec
  exact Bool.eq_iff_iff.mpr (by simp [Spec.ofField, Scalar.same, Scalar.toNumber?])

theorem get_text (c : Catalog) (key : Text) : get c (.text key) =
    (find? c (.text key)).elim (.error (.unknownKey (Text.quoted key))) .ok := by
  cases h : find? c (.text key) <;>
    simp only [get, Value.asKey, bind, Except.bind, h] <;> rfl

def add (c : Catalog) (s : Spec) : Except Fault Catalog := do
  let key ← s.key.asKey
  if (find? c key).isSome then throw (.duplicateKey (← s.key.shown))
  return c ++ [s]

theorem ofSpecs_eq_foldlM (specs : List Spec) : ofSpecs specs = specs.foldlM add [] := rfl

theorem add_ofField (held : List FieldSpec) (spec : FieldSpec) :
    add (held.map .ofField) (.ofField spec) =
      if spec.key ∈ held.map (·.key) then .error (.duplicateKey (Text.quoted spec.key))
      else .ok ((held ++ [spec]).map .ofField) := by
  have hfound : (find? (held.map .ofField) (.text spec.key)).isSome = true ↔
      spec.key ∈ held.map (·.key) := by
    rw [find?_ofField]
    simp
  rw [← if_congr hfound rfl rfl, List.map_append]
  rfl

/-- The specifications that are held stay, and the rest is added to them one by one. -/
theorem foldlM_add_ofField (held specs : List FieldSpec) (hheld : (held.map (·.key)).Nodup) :
    (specs.map .ofField).foldlM add (held.map .ofField) =
      (LabelPress.Catalog.ofSpecs (held ++ specs)).map byHand := by
  induction specs generalizing held with
  | nil =>
    rw [List.append_nil, LabelPress.Catalog.ofSpecs_eq_ok (c := ⟨held, hheld⟩) |>.mpr rfl]
    rfl
  | cons spec specs ih =>
    rw [List.map_cons, List.foldlM_cons, add_ofField]
    split
    · next hmem =>
      have hfirst : LabelPress.Catalog.IsFirstRepeated (held ++ spec :: specs) spec :=
        ⟨held, specs, rfl, hheld, hmem⟩
      rw [LabelPress.Catalog.ofSpecs_eq_error.mpr ⟨spec, hfirst, rfl⟩]
      rfl
    · next hmem =>
      rw [List.append_cons held spec specs]
      exact ih _ (LabelPress.Catalog.nodup_keys_concat.mpr ⟨hheld, hmem⟩)

end Handmade.Catalog

namespace Catalog

theorem holds_specs (c : Catalog) : c.Holds c.specs where
  size := rfl
  keys := rfl
  get spec hspec := by
    have hfound : c.get? spec.key = some spec := get?_eq_some_iff.mpr ⟨hspec, rfl⟩
    exact ⟨by rw [get, hfound], hfound⟩
  get_missing key hkey := by
    have hmissing : c.get? key = none := get?_eq_none_iff.mpr hkey
    exact ⟨by rw [get, hmissing], hmissing⟩
  byCategory_sublist category := List.filter_sublist
  mem_byCategory category spec := mem_byCategory
  byCategory_perm := byCategory_perm c
  byHand key := by
    have hfind : c.byHand.find? (.text key) = (c.get? key).map .ofField :=
      Handmade.Catalog.find?_ofField c.specs key
    refine ⟨hfind, ?_⟩
    rw [get, Handmade.Catalog.get_text, hfind]
    cases c.get? key <;> rfl

/-- A list of specifications is refused exactly if two of them share a key, with the first key that
comes again. Else it makes a catalog that holds it, and a catalog put together by hand comes to the
same, fault or catalog. -/
theorem ofSpecs_holds (specs : List FieldSpec) :
    (∀ fault, ofSpecs specs = .error fault ↔
      ∃ spec, IsFirstRepeated specs spec ∧ fault = .duplicateKey (Text.quoted spec.key)) ∧
    ((∃ fault, ofSpecs specs = .error fault) ↔ ¬specs.Pairwise fun a b => a.key ≠ b.key) ∧
    (∀ c, ofSpecs specs = .ok c → c.Holds specs) ∧
    Handmade.Catalog.ofSpecs (specs.map .ofField) = (ofSpecs specs).map byHand := by
  refine ⟨fun fault => ofSpecs_eq_error, ?_, fun c hc => ?_, ?_⟩
  · have hpairwise : specs.Pairwise (fun a b => a.key ≠ b.key) ↔ (specs.map (·.key)).Nodup :=
      List.pairwise_map.symm
    rw [hpairwise]
    constructor
    · rintro ⟨fault, hfault⟩
      obtain ⟨spec, hspec, -⟩ := ofSpecs_eq_error.mp hfault
      exact hspec.not_nodup
    · intro hshared
      obtain ⟨spec, hspec⟩ := exists_isFirstRepeated hshared
      exact ⟨_, ofSpecs_eq_error.mpr ⟨spec, hspec, rfl⟩⟩
  · rw [← ofSpecs_eq_ok.mp hc]
    exact holds_specs c
  · rw [Handmade.Catalog.ofSpecs_eq_foldlM]
    exact Handmade.Catalog.foldlM_add_ofField [] specs List.nodup_nil

def crossedSpecs : List FieldSpec :=
  (["lot", "bin", "bin", "lot"] : List Text).map fun key => { key, label := key }

theorem ofSpecs_holds_crossed :
    ofSpecs crossedSpecs = .error (.duplicateKey "'bin'") ∧
    Handmade.Catalog.ofSpecs (crossedSpecs.map .ofField) = .error (.duplicateKey "'bin'") ∧
    builtin.Holds builtinSpecs := by
  obtain ⟨hfault, -, -, hbyHand⟩ := ofSpecs_holds crossedSpecs
  have hrefused : ofSpecs crossedSpecs = .error (.duplicateKey "'bin'") :=
    (hfault _).mpr ⟨_, ⟨crossedSpecs.take 2, crossedSpecs.drop 3, rfl, by decide, by decide⟩,
      by decide +kernel⟩
  exact ⟨hrefused, by rw [hbyHand, hrefused]; rfl,
    (ofSpecs_holds builtinSpecs).2.2.1 builtin (ofSpecs_eq_ok.mpr rfl)⟩

end Catalog
end LabelPress
