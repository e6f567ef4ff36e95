import LabelPress.CommandLine.Program
import LabelPress.Proofs.Journal
import LabelPress.Proofs.Text.Encoding

/-!
# How parts of a run end

A part of a run comes to its end or stops before it, and either way leaves a world behind. Parts one
after the other come to their end exactly if each of them does. Whether a stop counts as a failure
and what of the world no part changes carry over from the parts to the whole.
-/

namespace LabelPress.CommandLine

/-- A part of a run comes to its end from one world in another. -/
def Program.Ends {α : Type} (x : Program α) (w : World) (a : α) (w' : World) : Prop :=
  x.run w = (.ok a, w')

/-- A part of a run stops before its end. -/
def Program.Stops {α : Type} (x : Program α) (w : World) (s : Stop) (w' : World) : Prop :=
  x.run w = (.error s, w')

def Stop.IsFailure : Stop → Prop
  | .exit code => code ≠ 0
  | .escaped _ => True

/-- A part of a run sends no request, and stops only where the run has failed. -/
structure Program.IsLocal {α : Type} (x : Program α) : Prop where
  requests_eq : ∀ w, (x.run w).2.requests = w.requests
  isFailure : ∀ {w s w'}, x.Stops w s w' → s.IsFailure

def World.told [Host] (w : World) (verbose : Bool) (notes : List Note) : World :=
  if verbose then
    let shown := notes.flatMap fun n => Terminal.logged .debug n.message
    { w with err := w.err ++ Program.escapeHalves shown }
  else w

namespace World
variable [Host] (w : World) (verbose : Bool) (notes : List Note)

@[simp] theorem files_told : (w.told verbose notes).files = w.files := by cases verbose <;> rfl

@[simp] theorem out_told : (w.told verbose notes).out = w.out := by cases verbose <;> rfl

@[simp] theorem requests_told : (w.told verbose notes).requests = w.requests := by
  cases verbose <;> rfl

end World

namespace Program
variable {α β : Type} {x : Program α} {f : α → Program β} {w w' : World} {s : Stop} {a : α}

theorem run_bind_of_ends {w₁ : World} (h : x.Ends w a w₁) : (x >>= f).run w = (f a).run w₁ := by
  change ExceptT.bindCont f (x.run w).1 (x.run w).2 = _
  rw [show x.run w = _ from h]
  rfl

theorem stops_bind_of_stops (h : x.Stops w s w') : (x >>= f).Stops w s w' := by
  change ExceptT.bindCont f (x.run w).1 (x.run w).2 = _
  rw [show x.run w = _ from h]
  rfl

theorem ends_or_stops (x : Program α) (w : World) :
    (∃ a w', x.Ends w a w') ∨ ∃ s w', x.Stops w s w' := by
  rcases h : x.run w with ⟨_ | a, w'⟩
  · exact .inr ⟨_, w', h⟩
  · exact .inl ⟨_, w', h⟩

theorem ends_bind {b : β} :
    (x >>= f).Ends w b w' ↔ ∃ a w₁, x.Ends w a w₁ ∧ (f a).Ends w₁ b w' := by
  constructor
  · intro h
    rcases ends_or_stops x w with ⟨a, w₁, hx⟩ | ⟨s, w₁, hx⟩
    · exact ⟨a, w₁, hx, (run_bind_of_ends hx).symm.trans h⟩
    · cases (stops_bind_of_stops hx).symm.trans h
  · rintro ⟨a, w₁, hx, hf⟩
    exact (run_bind_of_ends hx).trans hf

theorem stops_bind :
    (x >>= f).Stops w s w' ↔
      x.Stops w s w' ∨ ∃ a w₁, x.Ends w a w₁ ∧ (f a).Stops w₁ s w' := by
  constructor
  · intro h
    rcases ends_or_stops x w with ⟨a, w₁, hx⟩ | ⟨s₁, w₁, hx⟩
    · exact .inr ⟨a, w₁, hx, (run_bind_of_ends hx).symm.trans h⟩
    · cases (stops_bind_of_stops hx).symm.trans h
      exact .inl hx
  · rintro (hx | ⟨a, w₁, hx, hf⟩)
    · exact stops_bind_of_stops hx
    · exact (run_bind_of_ends hx).trans hf

/-! What the parts do that all others are made of. -/

theorem ends_pure {b : α} : (pure a : Program α).Ends w b w' ↔ b = a ∧ w' = w := by
  constructor
  · intro h
    cases h
    exact ⟨rfl, rfl⟩
  · rintro ⟨rfl, rfl⟩
    rfl

theorem ends_get {w₁ : World} : (get : Program World).Ends w w₁ w' ↔ w₁ = w ∧ w' = w := by
  constructor
  · intro h
    cases h
    exact ⟨rfl, rfl⟩
  · rintro ⟨rfl, rfl⟩
    rfl

theorem ends_modify {change : World → World} {u : Unit} :
    (modify change : Program Unit).Ends w u w' ↔ w' = change w := by
  constructor
  · intro h
    cases h
    rfl
  · rintro rfl
    rfl

theorem not_ends_throw : ¬(throw s : Program α).Ends w a w' := nofun

theorem ends_need {e : Except Fault α} : (need e).Ends w a w' ↔ e = .ok a ∧ w' = w := by
  cases e with
  | ok b =>
    change (pure b : Program α).Ends w a w' ↔ _
    rw [ends_pure, Except.ok.injEq, eq_comm]
  | error fault => exact iff_of_false not_ends_throw fun h => nomatch h.1

theorem ends_printOr {fault : Text.EncodingFault → Fault} {t : Text} {u : Unit} :
    (printOr fault t).Ends w u w' ↔ t.IsWhole ∧ w' = { w with out := w.out ++ t } := by
  simp only [printOr, ends_bind, ends_need, mapError_eq_ok, Text.utf8_check_eq_ok, ends_modify]
  constructor
  · rintro ⟨_, _, ⟨hwhole, rfl⟩, rfl⟩
    exact ⟨hwhole, rfl⟩
  · rintro ⟨hwhole, rfl⟩
    exact ⟨(), w, ⟨hwhole, rfl⟩, rfl⟩

theorem ends_print {t : Text} {u : Unit} :
    (print t).Ends w u w' ↔ t.IsWhole ∧ w' = { w with out := w.out ++ t } := ends_printOr

theorem ends_complain {t : Text} {u : Unit} :
    (complain t).Ends w u w' ↔ w' = { w with err := w.err ++ escapeHalves t } := ends_modify

theorem not_ends_failWith [Host] {t : Text} : ¬(failWith t : Program α).Ends w a w' := by
  simp only [failWith, ends_bind, not_ends_throw, and_false, exists_false, not_false_iff]

theorem stops_refuse {u : Usage} {fault : UsageFault} :
    (refuse u fault : Program α).Stops w (.exit 2)
      { w with err := w.err ++ escapeHalves (u.refusal fault) } := rfl

theorem not_ends_refuse {u : Usage} {fault : UsageFault} :
    ¬(refuse u fault : Program α).Ends w a w' := nofun

theorem not_ends_answer {t : Text} : ¬(answer t : Program α).Ends w a w' := by
  simp only [answer, ends_bind, not_ends_throw, and_false, exists_false, not_false_iff]

theorem ends_needWords {u : Usage} {e : Except UsageFault α} :
    (needWords u e).Ends w a w' ↔ e = .ok a ∧ w' = w := by
  cases e with
  | ok b =>
    change (pure b : Program α).Ends w a w' ↔ _
    rw [ends_pure, Except.ok.injEq, eq_comm]
  | error fault => exact iff_of_false not_ends_refuse fun h => nomatch h.1

theorem ends_journaled [Host] {verbose : Bool} {x : Journaled α} {e : Except Fault α} :
    (journaled verbose x).Ends w e w' ↔ e = x.outcome ∧ w' = w.told verbose x.notes := by
  cases verbose with
  | true =>
    change (complain _ >>= fun _ => pure x.outcome).Ends w e w' ↔ _
    simp only [ends_bind, ends_complain, ends_pure, exists_const, exists_eq_left, World.told,
      if_true]
  | false =>
    change (pure x.outcome : Program _).Ends w e w' ↔ _
    rw [ends_pure]
    rfl

theorem ends_needJournaled [Host] {verbose : Bool} {x : Journaled α} :
    (needJournaled verbose x).Ends w a w' ↔ x.outcome = .ok a ∧ w' = w.told verbose x.notes := by
  simp only [needJournaled, ends_bind, ends_journaled, ends_need]
  constructor
  · rintro ⟨_, _, ⟨rfl, rfl⟩, hok, rfl⟩
    exact ⟨hok, rfl⟩
  · rintro ⟨hok, rfl⟩
    exact ⟨_, _, ⟨rfl, rfl⟩, hok, rfl⟩

theorem stops_needJournaled [Host] {verbose : Bool} {x : Journaled α} {fault : Fault}
    (h : x.outcome = .error fault) :
    (needJournaled verbose x).Stops w (.escaped fault) (w.told verbose x.notes) := by
  have hnotes : (journaled verbose x).Ends w x.outcome (w.told verbose x.notes) :=
    ends_journaled.mpr ⟨rfl, rfl⟩
  rw [h] at hnotes
  exact run_bind_of_ends hnotes

/-! Parts that send nothing and give up only in failure. -/

namespace IsLocal

theorem bind_of_ends (hx : x.IsLocal) (hf : ∀ {w a w'}, x.Ends w a w' → (f a).IsLocal) :
    (x >>= f).IsLocal where
  requests_eq w := by
    rcases ends_or_stops x w with ⟨a, w₁, hends⟩ | ⟨s, w₁, hstops⟩
    · rw [run_bind_of_ends hends, (hf hends).requests_eq w₁, ← hx.requests_eq w,
        show x.run w = _ from hends]
    · rw [show (x >>= f).run w = _ from stops_bind_of_stops hstops, ← hx.requests_eq w,
        show x.run w = _ from hstops]
  isFailure h := by
    rcases stops_bind.mp h with hstops | ⟨a, w₁, hends, hstops⟩
    · exact hx.isFailure hstops
    · exact (hf hends).isFailure hstops

theorem bind (hx : x.IsLocal) (hf : ∀ a, (f a).IsLocal) : (x >>= f).IsLocal :=
  hx.bind_of_ends fun {_ a _} _ => hf a

/-- What would come behind a part that never comes to its end does not matter. -/
theorem bind_of_not_ends (hx : x.IsLocal) (hnot : ∀ {w a w'}, ¬x.Ends w a w')
    (f : α → Program β) : (x >>= f).IsLocal :=
  hx.bind_of_ends fun h => absurd h hnot

end IsLocal

theorem isLocal_pure (a : α) : (pure a : Program α).IsLocal := ⟨fun _ => rfl, nofun⟩

theorem isLocal_get : (get : Program World).IsLocal := ⟨fun _ => rfl, nofun⟩

theorem isLocal_modify {change : World → World} (h : ∀ w, (change w).requests = w.requests) :
    (modify change : Program Unit).IsLocal := ⟨h, nofun⟩

theorem isLocal_throw (h : s.IsFailure) : (throw s : Program α).IsLocal where
  requests_eq _ := rfl
  isFailure hstops := by
    cases hstops
    exact h

theorem isLocal_escape (fault : Fault) : (escape fault : Program α).IsLocal :=
  isLocal_throw trivial

theorem isLocal_need (e : Except Fault α) : (need e).IsLocal := by
  cases e with
  | ok a => exact isLocal_pure a
  | error fault => exact isLocal_escape fault

theorem isLocal_complain (t : Text) : (complain t).IsLocal := isLocal_modify fun _ => rfl

theorem isLocal_printOr (fault : Text.EncodingFault → Fault) (t : Text) :
    (printOr fault t).IsLocal :=
  .bind (isLocal_need _) fun _ => isLocal_modify fun _ => rfl

theorem isLocal_failWith [Host] (t : Text) : (failWith t : Program α).IsLocal :=
  .bind (isLocal_need _) fun _ => .bind (isLocal_complain _) fun _ => isLocal_throw Nat.one_ne_zero

theorem isLocal_refuse (u : Usage) (fault : UsageFault) : (refuse u fault : Program α).IsLocal :=
  .bind (isLocal_complain _) fun _ => isLocal_throw (by decide : (2 : Nat) ≠ 0)

theorem isLocal_needWords (u : Usage) (e : Except UsageFault α) : (needWords u e).IsLocal := by
  cases e with
  | ok a => exact isLocal_pure a
  | error fault => exact isLocal_refuse u fault

theorem isLocal_journaled [Host] (verbose : Bool) (x : Journaled α) :
    (journaled verbose x).IsLocal := by
  cases verbose with
  | true => exact .bind (isLocal_complain _) fun _ => isLocal_pure _
  | false => exact isLocal_pure _

theorem isLocal_needJournaled [Host] (verbose : Bool) (x : Journaled α) :
    (needJournaled verbose x).IsLocal :=
  .bind (isLocal_journaled verbose x) isLocal_need

end Program
end LabelPress.CommandLine
