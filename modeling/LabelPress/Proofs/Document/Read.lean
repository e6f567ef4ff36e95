import LabelPress.Document.Read
import LabelPress.Proofs.Document.Field
import Mathlib.Data.List.ReduceOption

/-!
# How a document is taken in

A document is accepted exactly if it is a mapping whose page and list of elements can be read, and
the list exactly if each of its entries can. An entry that is passed over leaves nothing behind.
-/

namespace LabelPress

namespace Element
variable {read : Value → Except Fault (Option Element)} {skipped : Nat → Note}

def readEntry (read : Value → Except Fault (Option Element)) (skipped : Nat → Note)
    (entry : Nat × Value) : Journaled (Option Element) := do
  match ← (read entry.2 : Except Fault _) with
  | none =>
    Journaled.note (skipped entry.1)
    return none
  | some e => return some e

theorem readAll_eq (vs : List Value) : readAll read skipped vs =
    Journaled.forEach (readEntry read skipped) (numbered 0 vs) >>= fun found =>
      pure found.reduceOption := rfl

theorem outcome_readEntry (entry : Nat × Value) :
    (readEntry read skipped entry).outcome = read entry.2 := by
  simp only [readEntry, Journaled.outcome_bind, Journaled.outcome_lift]
  match read entry.2 with
  | .error fault => rfl
  | .ok none => rfl
  | .ok (some e) => rfl

theorem readEntry_eq_pure {entry : Nat × Value} {e : Element} (h : read entry.2 = .ok (some e)) :
    readEntry read skipped entry = pure (some e) := by
  simp only [readEntry, h]
  rfl

/-- The places of entries do not matter to what holds of each entry. -/
theorem forall₂_numbered {β : Type} {R : Value → β → Prop} {start : Nat} {vs : List Value}
    {bs : List β} :
    List.Forall₂ (fun entry b => R entry.2 b) (numbered start vs) bs ↔ List.Forall₂ R vs bs := by
  induction vs generalizing start bs with
  | nil => simp only [numbered, List.forall₂_nil_left_iff]
  | cons v vs ih => simp only [numbered, List.forall₂_cons_left_iff, ih]

theorem mem_of_mem_numbered {α : Type} {start : Nat} {as : List α} {entry : Nat × α}
    (h : entry ∈ numbered start as) : entry.2 ∈ as := by
  induction as generalizing start with
  | nil => cases h
  | cons a as ih =>
    rcases List.mem_cons.mp h with rfl | hrest
    · exact List.mem_cons_self
    · exact List.mem_cons_of_mem a (ih hrest)

theorem outcome_readAll_eq_ok {vs : List Value} {es : List Element} :
    (readAll read skipped vs).outcome = .ok es ↔
      ∃ found, List.Forall₂ (fun v o => read v = .ok o) vs found ∧ found.reduceOption = es := by
  simp only [readAll_eq, Journaled.outcome_bind_eq_ok, Journaled.outcome_forEach_eq_ok,
    outcome_readEntry, Journaled.outcome_pure, Except.ok.injEq]
  simp only [forall₂_numbered (R := fun v o => read v = .ok o)]

theorem exists_readAll_iff {vs : List Value} :
    (∃ es, (readAll read skipped vs).outcome = .ok es) ↔ ∀ v ∈ vs, ∃ o, read v = .ok o := by
  simp only [outcome_readAll_eq_ok, ← exists_forall₂_iff]
  constructor
  · rintro ⟨_, found, hfound, -⟩
    exact ⟨found, hfound⟩
  · rintro ⟨found, hfound⟩
    exact ⟨_, found, hfound, rfl⟩

theorem outcome_readAll_eq_error {vs : List Value} {fault : Fault}
    (h : (readAll read skipped vs).outcome = .error fault) : ∃ v ∈ vs, read v = .error fault := by
  rw [readAll_eq, Journaled.outcome_bind, bind_eq_error] at h
  rcases h with hread | ⟨found, -, hpure⟩
  · obtain ⟨entry, hentry, hfault⟩ := Journaled.outcome_forEach_eq_error hread
    rw [outcome_readEntry] at hfault
    exact ⟨entry.2, mem_of_mem_numbered hentry, hfault⟩
  · cases hpure

/-- What is read of two values that are read alike is the same also within a list. -/
theorem readAll_replace {v v' : Value} (h : read v = read v') (before after : List Value) :
    readAll read skipped (before ++ v :: after) = readAll read skipped (before ++ v' :: after) := by
  have hforEach : ∀ start,
      Journaled.forEach (readEntry read skipped) (numbered start (before ++ v :: after)) =
        Journaled.forEach (readEntry read skipped) (numbered start (before ++ v' :: after)) := by
    induction before with
    | nil =>
      intro start
      have hentry : readEntry read skipped (start, v) = readEntry read skipped (start, v') := by
        simp only [readEntry, h]
      simp only [List.nil_append, numbered, Journaled.forEach, hentry]
    | cons w before ih =>
      intro start
      simp only [List.cons_append, numbered, Journaled.forEach, ih]
  rw [readAll_eq, readAll_eq, hforEach]

theorem outcome_readAll_cons_eq_ok {v : Value} {vs : List Value} {es : List Element} :
    (readAll read skipped (v :: vs)).outcome = .ok es ↔ ∃ o rest,
      read v = .ok o ∧ (readAll read skipped vs).outcome = .ok rest ∧ o.toList ++ rest = es := by
  have hreduce : ∀ (o : Option Element) (found : List (Option Element)),
      (o :: found).reduceOption = o.toList ++ found.reduceOption := by
    intro o found
    cases o <;> rfl
  simp only [outcome_readAll_eq_ok, List.forall₂_cons_left_iff]
  constructor
  · rintro ⟨_, ⟨o, found, ho, hfound, rfl⟩, rfl⟩
    exact ⟨o, _, ho, ⟨found, hfound, rfl⟩, (hreduce o found).symm⟩
  · rintro ⟨o, _, ho, ⟨found, hfound, rfl⟩, rfl⟩
    exact ⟨_, ⟨o, found, ho, hfound, rfl⟩, hreduce o found⟩

/-- A list of which each entry is an element is read without a note. -/
theorem readAll_eq_pure {vs : List Value} {es : List Element}
    (h : List.Forall₂ (fun v e => read v = .ok (some e)) vs es) :
    readAll read skipped vs = pure es := by
  have hfound : List.Forall₂ (fun v o => ∃ e, read v = .ok (some e) ∧ some e = o) vs
      (es.map some) :=
    List.forall₂_map_right_iff.mpr (h.imp fun _ e he => ⟨e, he, rfl⟩)
  have hentries : Journaled.forEach (readEntry read skipped) (numbered 0 vs) =
      pure (es.map some) := by
    refine Journaled.forEach_eq_pure ((forall₂_numbered.mpr hfound).imp ?_)
    rintro entry _ ⟨e, he, rfl⟩
    exact readEntry_eq_pure he
  rw [readAll_eq, hentries, pure_bind, List.reduceOption, List.filterMap_map]
  exact congrArg pure (List.filterMap_some)

end Element

namespace Design

theorem entriesOf_list (items : List Value) : entriesOf (.list items) = .ok items := by
  cases items <;> rfl

theorem outcome_ofValue_eq_ok {default : Option Page} {v : Value} {d : Design} :
    (ofValue default v).outcome = .ok d ↔ ∃ root items,
      v.head = .mapping root ∧
      Page.ofDocument root default .noPage = .ok d.page ∧
      entriesOf (Entries.getOrNull "elements" root) = .ok items ∧
      (Element.readAll Element.ofValue? .skippedEntry items).outcome = .ok d.elements := by
  simp only [ofValue, Journaled.outcome_bind_eq_ok, Journaled.outcome_lift, Value.mustMap_eq_ok,
    Journaled.outcome_pure, Except.ok.injEq]
  constructor
  · rintro ⟨root, hroot, page, hpage, items, hitems, elements, helements, rfl⟩
    exact ⟨root, items, hroot, hpage, hitems, helements⟩
  · rintro ⟨root, items, hroot, hpage, hitems, helements⟩
    exact ⟨root, hroot, _, hpage, items, hitems, _, helements, rfl⟩

end Design
end LabelPress
