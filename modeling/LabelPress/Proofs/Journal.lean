import LabelPress.Journal
import Mathlib.Data.List.Forall2

/-!
# Computations that succeed

A computation of several steps has a result exactly if every step has one. The statements below take
such computations apart: those that may fail, and those that take notes on the way.
-/

namespace LabelPress
variable {ε ε' α β γ : Type}

theorem bind_eq_ok {x : Except ε α} {f : α → Except ε β} {b : β} :
    x >>= f = .ok b ↔ ∃ a, x = .ok a ∧ f a = .ok b := by
  cases x <;> simp [bind, Except.bind]

theorem bind_eq_error {x : Except ε α} {f : α → Except ε β} {e : ε} :
    x >>= f = .error e ↔ x = .error e ∨ ∃ a, x = .ok a ∧ f a = .error e := by
  cases x <;> simp [bind, Except.bind]

theorem exists_eq_ok {x : Except ε α} (h : x.isOk = true) : ∃ a, x = .ok a := by
  cases x with
  | error e => cases h
  | ok a => exact ⟨a, rfl⟩

theorem pure_eq_ok {a b : α} : (pure a : Except ε α) = .ok b ↔ a = b := by
  simp [pure, Except.pure]

theorem map_eq_ok {x : Except ε α} {f : α → β} {b : β} :
    x.map f = .ok b ↔ ∃ a, x = .ok a ∧ f a = b := by
  cases x <;> simp [Except.map]

/-- What is made of a result without fail does not matter to whether there is one. -/
theorem exists_bind_pure_eq_ok {x : Except ε α} {f : α → β} :
    (∃ b, (x >>= fun a => pure (f a)) = .ok b) ↔ ∃ a, x = .ok a := by
  cases x <;> simp [bind, Except.bind, pure, Except.pure]

/-- A second step that may fail, but not for the result of the first. -/
theorem exists_bind_iff {x : Except ε α} {f : α → Except ε β} {P : Prop}
    (hf : ∀ a, (∃ b, f a = .ok b) ↔ P) : (∃ b, x >>= f = .ok b) ↔ (∃ a, x = .ok a) ∧ P := by
  simp only [bind_eq_ok]
  constructor
  · rintro ⟨b, a, ha, hb⟩
    exact ⟨⟨a, ha⟩, (hf a).mp ⟨b, hb⟩⟩
  · rintro ⟨⟨a, ha⟩, hP⟩
    obtain ⟨b, hb⟩ := (hf a).mpr hP
    exact ⟨b, a, ha, hb⟩

theorem throw_ne_ok {e : ε} {b : α} : (throw e : Except ε α) ≠ .ok b := by
  simp [throw, throwThe, MonadExceptOf.throw]

theorem mapError_eq_ok {x : Except ε α} {f : ε → ε'} {b : α} :
    x.mapError f = .ok b ↔ x = .ok b := by
  cases x <;> simp [Except.mapError]

theorem mapError_eq_error {x : Except ε α} {f : ε → ε'} {e : ε'} :
    x.mapError f = .error e ↔ ∃ d, x = .error d ∧ f d = e := by
  cases x <;> simp [Except.mapError]

/-- A computation with numbers has the same results where other faults can happen too. -/
theorem liftArithmetic_eq_ok {x : Except ArithmeticFault α} {b : α} :
    (liftM x : Except Fault α) = .ok b ↔ x = .ok b := mapError_eq_ok

/-- Partners for all items can be chosen one by one. -/
theorem exists_forall₂_iff {R : α → β → Prop} {as : List α} :
    (∃ bs, List.Forall₂ R as bs) ↔ ∀ a ∈ as, ∃ b, R a b := by
  induction as with
  | nil => simp
  | cons a as ih => simp [List.forall₂_cons_left_iff, ← ih]

theorem mapM_eq_ok {f : α → Except ε β} {as : List α} {bs : List β} :
    as.mapM f = .ok bs ↔ List.Forall₂ (fun a b => f a = .ok b) as bs := by
  induction as generalizing bs with
  | nil => rw [List.mapM_nil, pure_eq_ok, List.forall₂_nil_left_iff, eq_comm]
  | cons a as ih =>
    simp only [List.mapM_cons, bind_eq_ok, pure_eq_ok, ih, List.forall₂_cons_left_iff]
    constructor
    · rintro ⟨b, hb, bs', hbs, rfl⟩
      exact ⟨b, bs', hb, hbs, rfl⟩
    · rintro ⟨b, bs', hb, hbs, rfl⟩
      exact ⟨b, hb, bs', hbs, rfl⟩

/-- Going through a list fails with the fault of an item. -/
theorem mapM_eq_error {f : α → Except ε β} {as : List α} {e : ε} (h : as.mapM f = .error e) :
    ∃ a ∈ as, f a = .error e := by
  induction as with
  | nil => cases h
  | cons a as ih =>
    rw [List.mapM_cons, bind_eq_error] at h
    rcases h with ha | ⟨b, -, h⟩
    · exact ⟨a, List.mem_cons_self, ha⟩
    · rcases bind_eq_error.mp h with has | ⟨bs, -, hpure⟩
      · obtain ⟨a', ha', he⟩ := ih has
        exact ⟨a', List.mem_cons_of_mem a ha', he⟩
      · cases hpure

theorem mapM_eq_some {f : α → Option β} {as : List α} {bs : List β} :
    as.mapM f = some bs ↔ List.Forall₂ (fun a b => f a = some b) as bs := by
  induction as generalizing bs with
  | nil => simp only [List.mapM_nil, Option.pure_def, Option.some.injEq, List.forall₂_nil_left_iff,
      eq_comm]
  | cons a as ih =>
    simp only [List.mapM_cons, Option.bind_eq_bind, Option.bind_eq_some_iff, Option.pure_def,
      Option.some.injEq, ih, List.forall₂_cons_left_iff]
    constructor
    · rintro ⟨b, hb, bs', hbs, rfl⟩
      exact ⟨b, bs', hb, hbs, rfl⟩
    · rintro ⟨b, bs', hb, hbs, rfl⟩
      exact ⟨b, hb, bs', hbs, rfl⟩

inductive Alike (R : α → β → Prop) : Except ε α → Except ε β → Prop
  | ok {a b} (h : R a b) : Alike R (.ok a) (.ok b)
  | error (e) : Alike R (.error e) (.error e)

namespace Alike
variable {δ : Type} {R : α → β → Prop} {S : γ → δ → Prop}

theorem bind {x : Except ε α} {y : Except ε β} {f : α → Except ε γ} {g : β → Except ε δ}
    (h : Alike R x y) (hfg : ∀ a b, R a b → Alike S (f a) (g b)) : Alike S (x >>= f) (y >>= g) := by
  cases h with
  | ok h => exact hfg _ _ h
  | error e => exact .error e

theorem bind_self {x : Except ε α} {f : α → Except ε γ} {g : α → Except ε δ}
    (h : ∀ a, Alike S (f a) (g a)) : Alike S (x >>= f) (x >>= g) := by
  cases x with
  | ok a => exact h a
  | error e => exact .error e

theorem map_self {x : Except ε α} {f : α → γ} {g : α → δ} (h : ∀ a, S (f a) (g a)) :
    Alike S (x.map f) (x.map g) := by
  cases x with
  | ok a => exact .ok (h a)
  | error e => exact .error e

theorem mapError {x : Except ε α} {y : Except ε β} (h : Alike R x y) (f : ε → ε') :
    Alike R (x.mapError f) (y.mapError f) := by
  cases h with
  | ok h => exact .ok h
  | error e => exact .error (f e)

theorem liftArithmetic {x : Except ArithmeticFault α} {y : Except ArithmeticFault β}
    (h : Alike R x y) : Alike R (liftM x : Except Fault α) (liftM y : Except Fault β) :=
  h.mapError Fault.arithmetic

end Alike

namespace Journaled

instance : LawfulMonad Journaled := LawfulMonad.mk' Journaled
  (by
    rintro α ⟨notes, _ | a⟩ <;> simp [Functor.map, Journaled.bind, Journaled.pure])
  (by
    intro α β a f
    simp [pure, bind, Journaled.bind, Journaled.pure])
  (by
    rintro α β γ ⟨notes, _ | a⟩ f g
    · rfl
    · simp only [bind, Journaled.bind]
      cases (f a).outcome <;> simp)

@[simp] theorem outcome_pure (a : α) : (pure a : Journaled α).outcome = .ok a := rfl

@[simp] theorem outcome_lift (x : Except Fault α) : (liftM x : Journaled α).outcome = x := rfl

theorem lift_ok (a : α) : (liftM (.ok a : Except Fault α) : Journaled α) = pure a := rfl

@[simp] theorem outcome_note (n : Note) : (note n).outcome = .ok () := rfl

theorem outcome_ofArithmetic_eq_ok {x : Except ArithmeticFault α} {b : α} :
    (ofArithmetic x).outcome = .ok b ↔ x = .ok b := mapError_eq_ok

theorem outcome_bind (x : Journaled α) (f : α → Journaled β) :
    (x >>= f).outcome = x.outcome >>= fun a => (f a).outcome := by
  obtain ⟨notes, _ | a⟩ := x <;> rfl

theorem outcome_bind_eq_ok {x : Journaled α} {f : α → Journaled β} {b : β} :
    (x >>= f).outcome = .ok b ↔ ∃ a, x.outcome = .ok a ∧ (f a).outcome = .ok b := by
  rw [outcome_bind, bind_eq_ok]

@[simp] theorem notes_pure (a : α) : (pure a : Journaled α).notes = [] := rfl

@[simp] theorem notes_lift (x : Except Fault α) : (liftM x : Journaled α).notes = [] := rfl

/-- The notes of a second step come behind those of the first. -/
theorem notes_bind_of_ok {x : Journaled α} {f : α → Journaled β} {a : α} (h : x.outcome = .ok a) :
    (x >>= f).notes = x.notes ++ (f a).notes := by
  obtain ⟨notes, outcome⟩ := x
  obtain rfl : outcome = .ok a := h
  rfl

structure Alike (R : α → β → Prop) (x : Journaled α) (y : Journaled β) : Prop where
  notes : x.notes = y.notes
  outcome : LabelPress.Alike R x.outcome y.outcome

/-- Going through a list succeeds exactly if it does for each item. -/
theorem outcome_forEach_eq_ok {f : α → Journaled β} {as : List α} {bs : List β} :
    (forEach f as).outcome = .ok bs ↔ List.Forall₂ (fun a b => (f a).outcome = .ok b) as bs := by
  induction as generalizing bs with
  | nil =>
    rw [List.forall₂_nil_left_iff]
    exact ⟨fun h => by cases h; rfl, fun h => by rw [h]; rfl⟩
  | cons a as ih =>
    simp only [forEach, outcome_bind_eq_ok, ih, outcome_pure, Except.ok.injEq,
      List.forall₂_cons_left_iff]
    constructor
    · rintro ⟨b, hb, bs', hbs, rfl⟩
      exact ⟨b, bs', hb, hbs, rfl⟩
    · rintro ⟨b, bs', hb, hbs, rfl⟩
      exact ⟨b, hb, bs', hbs, rfl⟩

/-- Going through a list takes the notes of one item after the other. -/
theorem notes_forEach {f : α → Journaled β} {as : List α} {bs : List β}
    (h : (forEach f as).outcome = .ok bs) :
    (forEach f as).notes = as.flatMap fun a => (f a).notes := by
  induction as generalizing bs with
  | nil => rfl
  | cons a as ih =>
    simp only [forEach, outcome_bind_eq_ok] at h
    obtain ⟨b, hb, bs', hbs, -⟩ := h
    rw [forEach, notes_bind_of_ok hb, notes_bind_of_ok hbs, ih hbs, notes_pure, List.append_nil,
      List.flatMap_cons]

/-- Going through a list fails with the fault of an item. -/
theorem outcome_forEach_eq_error {f : α → Journaled β} {as : List α} {fault : Fault}
    (h : (forEach f as).outcome = .error fault) : ∃ a ∈ as, (f a).outcome = .error fault := by
  induction as with
  | nil => cases h
  | cons a as ih =>
    rw [forEach, outcome_bind, bind_eq_error] at h
    rcases h with ha | ⟨b, -, h⟩
    · exact ⟨a, List.mem_cons_self, ha⟩
    · rw [outcome_bind, bind_eq_error] at h
      rcases h with has | ⟨bs, -, hpure⟩
      · obtain ⟨a', ha', hfault⟩ := ih has
        exact ⟨a', List.mem_cons_of_mem a ha', hfault⟩
      · cases hpure

/-- Going through two lists one after the other adds the results of the second. -/
theorem outcome_forEach_append (f : α → Journaled β) (as as' : List α) :
    (forEach f (as ++ as')).outcome = do
      return (← (forEach f as).outcome) ++ (← (forEach f as').outcome) := by
  induction as with
  | nil => exact (bind_pure (forEach f as').outcome).symm
  | cons a as ih =>
    simp only [List.cons_append, forEach, outcome_bind, ih, outcome_pure, bind_assoc]
    rfl

/-- Going through a list takes no notes if no item does. -/
theorem forEach_eq_pure {f : α → Journaled β} {as : List α} {bs : List β}
    (h : List.Forall₂ (fun a b => f a = pure b) as bs) : forEach f as = pure bs := by
  induction h with
  | nil => rfl
  | cons ha _ ih => simp only [forEach, ha, ih, pure_bind]

theorem forEach_congr {f g : α → Journaled β} {as : List α} (h : ∀ a ∈ as, f a = g a) :
    forEach f as = forEach g as := by
  induction as with
  | nil => rfl
  | cons a as ih =>
    obtain ⟨ha, has⟩ := List.forall_mem_cons.mp h
    simp only [forEach, ha, ih has]

theorem forEach_map (f : β → Journaled γ) (g : α → β) (as : List α) :
    forEach f (as.map g) = forEach (f ∘ g) as := by
  induction as with
  | nil => rfl
  | cons a as ih => simp only [List.map_cons, forEach, ih, Function.comp_apply]

end Journaled
end LabelPress
