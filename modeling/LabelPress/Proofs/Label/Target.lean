import LabelPress.Label.Target
import LabelPress.Proofs.Label.Commands

/-!
# The parts of a label

A label is compiled exactly if its page and its copies can be written and each of its elements can
be encoded. Its commands are then those of the elements, in order, between those of the frame.
-/

namespace LabelPress

namespace Frame

theorem writable_eq_ok {n : Nat} {u : Unit} : writable n = .ok u ↔ hasIntegerText n = true := by
  unfold writable
  split <;> simp_all

def openingCommands (page : Page) (home : Bool) : List Command :=
  [.startFormat, .encodeUtf8, .printWidth page.width, .labelLength page.height] ++
    if home then [.labelHome] else []

def closingCommands (copies : Nat) : List Command :=
  if copies = 1 then [.endFormat] else [.quantity copies, .endFormat]

theorem opening_eq_ok {page : Page} {home : Bool} {cs : List Command} :
    opening page home = .ok cs ↔ hasIntegerText page.width = true ∧
      hasIntegerText page.height = true ∧ cs = openingCommands page home := by
  simp only [opening, bind_eq_ok, pure_eq_ok, writable_eq_ok, exists_const, openingCommands,
    eq_comm (a := cs)]

theorem closing_eq_ok {copies : Nat} {cs : List Command} :
    closing copies = .ok cs ↔ (copies = 1 ∨ hasIntegerText copies = true) ∧
      cs = closingCommands copies := by
  unfold closing closingCommands
  by_cases h : copies = 1
  · rw [if_pos h, if_pos h, pure_eq_ok, eq_comm]
    exact (and_iff_right (Or.inl h)).symm
  · simp only [if_neg h, bind_eq_ok, pure_eq_ok, writable_eq_ok, exists_const, or_iff_right h,
      eq_comm (a := cs)]

end Frame

theorem Element.commands_eq_ok {e : Element} {bindings : Entries} {catalog : Option Catalog}
    {scale : Number} {cs : List Command} :
    (e.commands bindings catalog scale).outcome = .ok cs ↔
      match e with
      | .text t => t.commands bindings catalog scale = .ok cs
      | .rectangle r => r.commands = .ok cs
      | .line l => l.commands = .ok cs
      | .circle c => c.commands = .ok cs
      | .media m => (m.commands bindings catalog).outcome = .ok cs := by
  cases e with
  | text t => rfl
  | rectangle r => exact Journaled.outcome_ofArithmetic_eq_ok
  | line l => exact Journaled.outcome_ofArithmetic_eq_ok
  | circle c => exact Journaled.outcome_ofArithmetic_eq_ok
  | media m => rfl

namespace Target
variable {t : Target} {bindings : Entries}

theorem encode_eq_ok {e : Element} {cs : List Command} :
    (t.encode bindings e).outcome = .ok cs ↔
      e.isGuide t.guideColor = true ∧ cs = [] ∨
      e.isGuide t.guideColor = false ∧
        (e.commands bindings t.catalog t.fontScale).outcome = .ok cs := by
  unfold encode
  cases e.isGuide t.guideColor with
  | true =>
    simp only [if_true, Journaled.outcome_bind_eq_ok, Journaled.outcome_note,
      Journaled.outcome_pure]
    simp [eq_comm]
  | false => simp

theorem compile_eq_ok {d : Design} {label : Label} :
    (t.compile bindings d).outcome = .ok label ↔ ∃ parts,
      hasIntegerText d.page.width = true ∧ hasIntegerText d.page.height = true ∧
      List.Forall₂ (fun e part => (t.encode bindings e).outcome = .ok part) d.elements parts ∧
      (t.copies = 1 ∨ hasIntegerText t.copies = true) ∧
      label = {
        page := d.page
        commands := Frame.openingCommands d.page t.labelHome ++ parts.flatten ++
          Frame.closingCommands t.copies
        elementCount := d.elements.length
        skippedCount := Label.emptyCount parts
        copies := t.copies } := by
  simp only [compile, assemble, Journaled.outcome_bind_eq_ok, Journaled.outcome_lift,
    Journaled.outcome_forEach_eq_ok, Journaled.outcome_pure, Except.ok.injEq,
    Frame.opening_eq_ok, Frame.closing_eq_ok]
  constructor
  · rintro ⟨_, ⟨hw, hh, rfl⟩, parts, hparts, _, ⟨hc, rfl⟩, rfl⟩
    exact ⟨parts, hw, hh, hparts, hc, rfl⟩
  · rintro ⟨parts, hw, hh, hparts, hc, rfl⟩
    exact ⟨_, ⟨hw, hh, rfl⟩, parts, hparts, _, ⟨hc, rfl⟩, rfl⟩

end Target
end LabelPress
