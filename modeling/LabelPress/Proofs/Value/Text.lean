import LabelPress.Value.Display
import LabelPress.Proofs.Journal

/-!
# Values that have a text

Only an integer can lack a text, by having too many digits. So a value can be shown and printed if
all integers in it have a text, and there is no other reason why it could not be.
-/

namespace LabelPress
variable {α β : Type}

def Scalar.hasText : Scalar → Bool
  | .number (.int n) => hasIntegerText n
  | _ => true

mutual

def Value.hasText : Value → Bool
  | .scalar s => s.hasText
  | .list items => Value.haveText items
  | .mapping entries => Entries.hasText entries
  | .set members => members.all Scalar.hasText
  | .pair first second => first.hasText && second.hasText
  | .loop _ body => body.hasText
  | .again _ _ => true

def Value.haveText : List Value → Bool
  | [] => true
  | v :: rest => v.hasText && Value.haveText rest

def Entries.hasText : List (Scalar × Value) → Bool
  | [] => true
  | (k, v) :: rest => k.hasText && v.hasText && Entries.hasText rest

end

theorem Value.hasText_int (n : Int) : (Value.number (.int n)).hasText = hasIntegerText n := by
  simp only [Value.hasText, Scalar.hasText]

/-- A text is missing for want of digits only, and only where there is an integer without text. -/
def FailsForDigits (x : Except ArithmeticFault α) (hasText : Bool) : Prop :=
  ∀ fault, x = .error fault → fault = .tooManyDigits ∧ hasText = false

namespace FailsForDigits

theorem pure {a : α} {b : Bool} : FailsForDigits (.ok a) b := fun _ h => nomatch h

theorem bind {x : Except ArithmeticFault α} {f : α → Except ArithmeticFault β} {b c : Bool}
    (hx : FailsForDigits x b) (hf : ∀ a, FailsForDigits (f a) c) :
    FailsForDigits (x >>= f) (b && c) := by
  intro fault h
  rcases bind_eq_error.mp h with hfault | ⟨a, -, hfault⟩
  · obtain ⟨rfl, rfl⟩ := hx fault hfault
    exact ⟨rfl, rfl⟩
  · obtain ⟨rfl, rfl⟩ := hf a fault hfault
    exact ⟨rfl, Bool.and_false b⟩

theorem map {x : Except ArithmeticFault α} {f : α → β} {b : Bool} (hx : FailsForDigits x b) :
    FailsForDigits (x.map f) b := by
  intro fault h
  cases x with
  | error e => exact hx fault (by simpa [Except.map] using h)
  | ok a => cases h

end FailsForDigits

theorem integerText_fails (n : Int) : FailsForDigits (integerText n) (hasIntegerText n) := by
  intro fault h
  unfold integerText at h
  split at h
  · exact nomatch h
  · next hn => exact ⟨(Except.error.inj h).symm, Bool.eq_false_iff.mpr hn⟩

theorem Scalar.printed_fails (s : Scalar) : FailsForDigits s.printed s.hasText := by
  cases s with
  | number n =>
    cases n with
    | int n =>
      simp only [Scalar.printed, Number.text, Scalar.hasText]
      exact (integerText_fails n).map
    | real x => exact .pure
  | _ => exact .pure

theorem Scalar.shown_fails (s : Scalar) : FailsForDigits s.shown s.hasText := by
  cases s with
  | number n => exact Scalar.printed_fails (.number n)
  | _ => exact .pure

theorem mapM_shown_fails (members : List Scalar) :
    FailsForDigits (members.mapM Scalar.shown) (members.all Scalar.hasText) := by
  induction members with
  | nil => exact .pure
  | cons s members ih =>
    rw [List.mapM_cons, List.all_cons]
    exact s.shown_fails.bind fun head => ih.map

theorem shownSet_fails (members : List Scalar) :
    FailsForDigits (shownSet members) (members.all Scalar.hasText) := by
  unfold shownSet
  split
  · exact .pure
  · exact (mapM_shown_fails members).map

mutual

theorem Value.shown_fails : ∀ v : Value, FailsForDigits v.shown v.hasText
  | .scalar s => s.shown_fails
  | .list items => (Value.shownItems_fails items).map
  | .mapping entries => (Value.shownEntries_fails entries).map
  | .set members => shownSet_fails members
  | .pair first second =>
    (Value.shown_fails first).bind fun _ => (Value.shown_fails second).map
  | .loop _ body => Value.shown_fails body
  | .again _ .list => .pure
  | .again _ .mapping => .pure

theorem Value.shownItems_fails :
    ∀ items : List Value, FailsForDigits (shownItems items) (haveText items)
  | [] => .pure
  | v :: rest => (Value.shown_fails v).bind fun _ => (Value.shownItems_fails rest).map

theorem Value.shownEntries_fails : ∀ entries : List (Scalar × Value),
    FailsForDigits (shownEntries entries) (Entries.hasText entries)
  | [] => .pure
  | (k, v) :: rest => by
    rw [Entries.hasText, Bool.and_assoc]
    exact k.shown_fails.bind fun _ =>
      (Value.shown_fails v).bind fun _ => (Value.shownEntries_fails rest).map

end

theorem Value.printed_fails (v : Value) : FailsForDigits v.printed v.hasText := by
  cases v with
  | scalar s => exact s.printed_fails
  | _ => exact Value.shown_fails _

namespace Value

mutual

theorem hasText_within (labels : List Nat) :
    ∀ v : Value, v.hasText = true → (v.within labels).hasText = true
  | .scalar _, h | .set _, h | .again _ _, h => h
  | .list items, h => haveText_withinItems labels items h
  | .mapping entries, h => hasText_withinEntries labels entries h
  | .pair first second, h => by
    rw [hasText, Bool.and_eq_true] at h
    rw [within, hasText, hasText_within labels first h.1, hasText_within labels second h.2]
    rfl
  | .loop label body, h => by
    rw [within]
    split
    · rfl
    · exact hasText_within labels body h

theorem haveText_withinItems (labels : List Nat) : ∀ items : List Value,
    haveText items = true → haveText (withinItems labels items) = true
  | [], h => h
  | v :: rest, h => by
    rw [haveText, Bool.and_eq_true] at h
    rw [withinItems, haveText, hasText_within labels v h.1, haveText_withinItems labels rest h.2]
    rfl

theorem hasText_withinEntries (labels : List Nat) : ∀ entries : List (Scalar × Value),
    Entries.hasText entries = true → Entries.hasText (withinEntries labels entries) = true
  | [], h => h
  | (k, v) :: rest, h => by
    rw [Entries.hasText, Bool.and_eq_true, Bool.and_eq_true] at h
    rw [withinEntries, Entries.hasText, h.1.1, hasText_within labels v h.1.2,
      hasText_withinEntries labels rest h.2]
    rfl

end

mutual

theorem hasText_detached {whole : Value} (hwhole : whole.hasText = true) (label : Nat) :
    ∀ (labels : List Nat) (v : Value), v.hasText = true →
      (detached whole label labels v).hasText = true
  | _, .scalar _, h | _, .set _, h => h
  | labels, .list items, h => haveText_detachedItems hwhole label labels items h
  | labels, .mapping entries, h => hasText_detachedEntries hwhole label labels entries h
  | labels, .pair first second, h => by
    rw [hasText, Bool.and_eq_true] at h
    rw [detached, hasText, hasText_detached hwhole label labels first h.1,
      hasText_detached hwhole label labels second h.2]
    rfl
  | labels, .loop inner body, h => hasText_detached hwhole label (inner :: labels) body h
  | labels, .again other shape, h => by
    rw [detached]
    split
    · exact hasText_within labels whole hwhole
    · rfl

theorem haveText_detachedItems {whole : Value} (hwhole : whole.hasText = true) (label : Nat) :
    ∀ (labels : List Nat) (items : List Value), haveText items = true →
      haveText (detachedItems whole label labels items) = true
  | _, [], h => h
  | labels, v :: rest, h => by
    rw [haveText, Bool.and_eq_true] at h
    rw [detachedItems, haveText, hasText_detached hwhole label labels v h.1,
      haveText_detachedItems hwhole label labels rest h.2]
    rfl

theorem hasText_detachedEntries {whole : Value} (hwhole : whole.hasText = true) (label : Nat) :
    ∀ (labels : List Nat) (entries : List (Scalar × Value)), Entries.hasText entries = true →
      Entries.hasText (detachedEntries whole label labels entries) = true
  | _, [], h => h
  | labels, (k, v) :: rest, h => by
    rw [Entries.hasText, Bool.and_eq_true, Bool.and_eq_true] at h
    rw [detachedEntries, Entries.hasText, h.1.1, hasText_detached hwhole label labels v h.1.2,
      hasText_detachedEntries hwhole label labels rest h.2]
    rfl

end

theorem hasText_head {v : Value} (h : v.hasText = true) : v.head.hasText = true := by
  cases v with
  | loop label body => exact hasText_detached h label [] body h
  | _ => exact h

theorem haveText_iff {items : List Value} :
    haveText items = true ↔ ∀ v ∈ items, v.hasText = true := by
  induction items with
  | nil => simp [haveText]
  | cons v items ih => simp [haveText, ih]

end Value

end LabelPress
