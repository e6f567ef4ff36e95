import LabelPress.Text.Basic
import Mathlib.Data.List.Basic
import Mathlib.Data.List.Forall2

/-!
# Joined texts

Texts with a separator between any two of them: what they start and end with, how two rows of them
are put together, and what carries over from the texts to the whole.
-/

namespace LabelPress.Text

/-- What holds of no text, and of two texts one behind the other if it holds of both, holds of
joined texts too. -/
theorem join_of_append {α : Type} {P : List α → Text → Prop} (hnil : P [] [])
    (happend : ∀ {xs ys : List α} {t u : Text}, P xs t → P ys u → P (xs ++ ys) (t ++ u))
    {separator : Text} (hs : P [] separator) {xss : List (List α)} {ts : List Text}
    (h : List.Forall₂ P xss ts) : P xss.flatten (join separator ts) := by
  induction h with
  | nil => exact hnil
  | @cons xs t xss ts ht hts ih =>
    cases hts with
    | nil => simpa [join] using ht
    | cons hu hus =>
      have htail := happend (happend ht hs) ih
      simpa only [join, List.intercalate_cons_cons, List.append_nil,
        List.flatten_cons] using htail

theorem join_cons (separator t : Text) (ts : List Text) :
    join separator (t :: ts) = t ++ ts.flatMap (separator ++ ·) := by
  induction ts generalizing t with
  | nil => simp [join]
  | cons u ts ih =>
    have hjoin : join separator (t :: u :: ts) = t ++ (separator ++ join separator (u :: ts)) := by
      rw [join, List.intercalate_cons_cons, List.append_assoc, join]
    rw [hjoin, ih, List.flatMap_cons, List.append_assoc]

theorem join_append (separator : Text) {ts us : List Text} (hts : ts ≠ []) (hus : us ≠ []) :
    join separator (ts ++ us) = join separator ts ++ separator ++ join separator us := by
  cases ts with
  | nil => exact absurd rfl hts
  | cons t ts =>
    cases us with
    | nil => exact absurd rfl hus
    | cons u us =>
      rw [List.cons_append, join_cons, join_cons, join_cons, List.flatMap_append, List.flatMap_cons]
      simp only [List.append_assoc]

theorem prefix_join_cons (separator t : Text) (ts : List Text) :
    t <+: join separator (t :: ts) := by
  rw [join_cons]
  exact List.prefix_append _ _

theorem suffix_join_concat (separator : Text) (ts : List Text) (t : Text) :
    t <:+ join separator (ts ++ [t]) := by
  have hsingle : join separator [t] = t := List.intercalate_singleton
  cases ts with
  | nil => exact ⟨[], hsingle.symm⟩
  | cons u ts =>
    rw [join_append separator (List.cons_ne_nil u ts) (List.cons_ne_nil t []), hsingle]
    exact List.suffix_append _ _

end LabelPress.Text
