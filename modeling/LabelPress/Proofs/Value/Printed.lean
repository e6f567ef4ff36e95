import LabelPress.Proofs.Calendar.Iso
import LabelPress.Proofs.Field.Binding
import LabelPress.Proofs.Journal

/-!
# Values that print something

Only the empty text prints as nothing: numbers have digits, and whatever has parts stands between
marks. So a value that a key is given is never printed as the empty text.
-/

namespace LabelPress

def PrintsSome (x : Except ArithmeticFault Text) : Prop := ∀ s, x = .ok s → s ≠ []

namespace PrintsSome
variable {α : Type}

theorem ok {s : Text} (h : s ≠ []) : PrintsSome (.ok s) := by
  rintro _ ⟨⟩
  exact h

theorem bind {x : Except ArithmeticFault α} {f : α → Except ArithmeticFault Text}
    (hf : ∀ a, PrintsSome (f a)) : PrintsSome (x >>= f) := by
  intro s h
  obtain ⟨a, -, ha⟩ := bind_eq_ok.mp h
  exact hf a s ha

end PrintsSome

namespace Binary64

theorem decimalText_ne_nil (style : Spelling) (ds : List Char) (point : Int) :
    decimalText style ds point ≠ [] := by
  simp only [decimalText]
  split_ifs <;> simp

theorem toList_text_ne_nil (x : Binary64) : (x.text .plain).toList ≠ [] := by
  cases x with
  | nan p => exact (by decide : "nan".toList ≠ [])
  | infinity negative => cases negative <;> decide
  | finite negative m e h =>
    rw [text, String.toList_ofList]
    split
    · exact List.cons_ne_nil _ _
    · exact decimalText_ne_nil _ _ _

end Binary64

theorem toList_toString_int_ne_nil (n : Int) : (toString n).toList ≠ [] := by
  cases n with
  | ofNat n => simp [toString, Int.repr, Nat.repr, Nat.toDigits_ne_nil]
  | negSucc n => simp [toString, Int.repr]

theorem Number.text_printsSome (n : Number) : PrintsSome (n.text.map .ofString) := by
  cases n with
  | int n =>
    rw [text, integerText]
    split
    · exact .ok (mt List.map_eq_nil_iff.mp (toList_toString_int_ne_nil n))
    · exact fun s h => nomatch h
  | real x => exact .ok (mt List.map_eq_nil_iff.mp x.toList_text_ne_nil)

theorem Scalar.printed_printsSome {s : Scalar} (h : s ≠ .text []) : PrintsSome s.printed := by
  cases s with
  | null => exact .ok (List.cons_ne_nil _ _)
  | bool b => cases b <;> exact .ok (List.cons_ne_nil _ _)
  | number n => exact n.text_printsSome
  | text s => exact .ok fun hs => h (congrArg Scalar.text hs)
  | date d => exact .ok (mt List.map_eq_nil_iff.mp d.isoChars_ne_nil)
  | dateTime t => exact .ok (mt List.map_eq_nil_iff.mp (t.isoChars_ne_nil ' '))
  | time t => exact .ok (mt List.map_eq_nil_iff.mp t.isoChars_ne_nil)
  | bytes b => exact .ok (List.cons_ne_nil _ _)

theorem Scalar.shown_printsSome (s : Scalar) : PrintsSome s.shown := by
  cases s with
  | text s => exact .ok (List.cons_ne_nil _ _)
  | date d => exact .ok (List.cons_ne_nil _ _)
  | dateTime t => exact .ok (List.cons_ne_nil _ _)
  | time t => exact .ok (List.cons_ne_nil _ _)
  | null => exact printed_printsSome (s := .null) nofun
  | bool b => exact printed_printsSome (s := .bool b) nofun
  | number n => exact n.text_printsSome
  | bytes b => exact printed_printsSome (s := .bytes b) nofun

theorem Value.shown_printsSome : ∀ v : Value, PrintsSome v.shown
  | .scalar s => s.shown_printsSome
  | .list _ => .bind fun _ => .ok (List.cons_ne_nil _ _)
  | .mapping _ => .bind fun _ => .ok (List.cons_ne_nil _ _)
  | .set members => by
    rw [shown, shownSet]
    split
    · exact .ok (List.cons_ne_nil _ _)
    · exact .bind fun _ => .ok (List.cons_ne_nil _ _)
  | .pair _ _ => .bind fun _ => .bind fun _ => .ok (List.cons_ne_nil _ _)
  | .loop _ body => Value.shown_printsSome body
  | .again _ .list => .ok (List.cons_ne_nil _ _)
  | .again _ .mapping => .ok (List.cons_ne_nil _ _)

theorem Value.printed_printsSome {v : Value} (h : v.isGiven = true) : PrintsSome v.printed := by
  cases v with
  | scalar s =>
    refine Scalar.printed_printsSome ?_
    rintro rfl
    cases h
  | _ => exact Value.shown_printsSome _

end LabelPress
