import LabelPress.Proofs.Json.Text

/-!
# Integers that are not read

The reader stops at an integer of more than 4300 digits. Nothing else in a JSON text that is well
formed keeps it from being read, so a text without so long a row of digits is read or malformed.
-/

namespace LabelPress
namespace Json
variable {α β : Type} {s t rest : Text} {n : Nat}

/-- A text has a row of `n` digits, which are too many for an integer. -/
def HasLongRow (t : Text) (n : Nat) : Prop :=
  ∃ ds, ds <:+: t ∧ (∀ c ∈ ds, isDigit c = true) ∧ ds.length = n ∧ digitLimit < n

/-- What is read stands at the start of `t`, and so many digits that it is not read stand in `t`. -/
structure Takes (t : Text) (x : Except Stop (α × Text)) : Prop where
  rest : ∀ a rest, x = .ok (a, rest) → rest <:+ t
  digits : ∀ n, x = .error (.digits n) → HasLongRow t n

namespace Takes
variable {x : Except Stop (α × Text)} {a : α}

theorem ok (h : rest <:+ t) : Takes t (.ok (a, rest)) where
  rest := by
    rintro _ _ ⟨⟩
    exact h
  digits := nofun

theorem fault (fault : JsonFault) (remaining : Nat) :
    Takes t (.error (.fault fault remaining) : Except Stop (α × Text)) := ⟨nofun, nofun⟩

theorem tooLong (h : HasLongRow t n) : Takes t (.error (.digits n) : Except Stop (α × Text)) where
  rest := nofun
  digits := by
    rintro _ ⟨⟩
    exact h

theorem of_suffix (h : Takes s x) (hs : s <:+ t) : Takes t x where
  rest a rest hx := (h.rest a rest hx).trans hs
  digits n hx := by
    obtain ⟨ds, hds, hdigits⟩ := h.digits n hx
    exact ⟨ds, hds.trans hs.isInfix, hdigits⟩

theorem bind (h : Takes s x) (hs : s <:+ t) {f : α × Text → Except Stop (β × Text)}
    (hf : ∀ a rest, rest <:+ t → Takes t (f (a, rest))) : Takes t (x >>= f) := by
  cases x with
  | ok r => exact hf r.1 r.2 ((h.rest r.1 r.2 rfl).trans hs)
  | error stop =>
    exact ⟨nofun, fun n hn => (h.of_suffix hs).digits n (congrArg _ (Except.error.inj hn))⟩

theorem map (h : Takes t x) {f : α → β} :
    Takes t (x.map fun r => (f r.1, r.2) : Except Stop (β × Text)) := by
  cases x with
  | ok r => exact .ok (h.rest r.1 r.2 rfl)
  | error stop => exact ⟨nofun, fun n hn => h.digits n (congrArg _ (Except.error.inj hn))⟩

end Takes

/-! ## Numbers -/

theorem skip_suffix (t : Text) : skip t <:+ t := List.dropWhile_suffix _

theorem suffix_of_skip {c : CodePoint} {after : Text} (hskip : skip rest = c :: after)
    (hrest : rest <:+ t) : after <:+ t := by
  have hblanks := (skip_suffix rest).trans hrest
  rw [hskip] at hblanks
  exact (List.suffix_cons _ _).trans hblanks

theorem spanDigits_suffix (t : Text) : (spanDigits t).2 <:+ t := List.dropWhile_suffix _

theorem fraction_suffix (t : Text) : (fraction t).2 <:+ t := by
  unfold fraction
  split
  · dsimp only
    split
    · exact List.suffix_refl _
    · exact (spanDigits_suffix _).trans (List.suffix_cons _ _)
  · exact List.suffix_refl _

theorem exponent_suffix (t : Text) : (exponent t).2 <:+ t := by
  unfold exponent
  split
  · exact List.suffix_refl _
  · next e rest =>
    split
    · split
      next negative digits hsign =>
        have hdigits : digits <:+ rest := by
          split at hsign
          · cases hsign
            exact List.suffix_cons _ _
          · cases hsign
            exact List.suffix_cons _ _
          · cases hsign
            exact List.suffix_refl _
        dsimp only
        split
        · exact List.suffix_refl _
        · exact (spanDigits_suffix digits).trans (hdigits.trans (List.suffix_cons _ _))
    · exact List.suffix_refl _

/-- The digits of a whole part and what follows them are the text. -/
theorem wholeDigits_fst_append (t : Text) : (wholeDigits t).1 ++ (wholeDigits t).2 = t := by
  unfold wholeDigits
  split
  · rfl
  · exact List.takeWhile_append_dropWhile

theorem assemble_takes {negative : Bool} {ds fs : Text} {exponent : Option Int}
    (hds : ds <:+: t) (hdigits : ∀ c ∈ ds, isDigit c = true) (hrest : rest <:+ t) :
    Takes t ((assemble negative ds fs exponent).map (·, rest)) := by
  unfold assemble
  split
  · split
    · next hlimit => exact .tooLong ⟨ds, hds, hdigits, rfl, hlimit⟩
    · exact .ok hrest
  · exact .ok hrest

theorem number_takes (t : Text) : Takes t (number t) := by
  have hunsigned : ∀ {negative : Bool} {u : Text}, u <:+ t → Takes t
      (if (wholeDigits u).1.isEmpty then stopAt .value t
        else (assemble negative (wholeDigits u).1 (fraction (wholeDigits u).2).1
          (exponent (fraction (wholeDigits u).2).2).1).map
            (·, (exponent (fraction (wholeDigits u).2).2).2)) := by
    intro negative u hu
    have hwhole := wholeDigits_fst_append u
    split
    · exact .fault _ _
    · refine assemble_takes ?_ (fun c hc => isDigit_of_mem_wholeDigits hc) ?_
      · exact List.IsInfix.trans ⟨[], (wholeDigits u).2, hwhole⟩ hu.isInfix
      · exact (exponent_suffix _).trans ((fraction_suffix _).trans (.trans ⟨_, hwhole⟩ hu))
  unfold number
  dsimp only
  split
  · exact hunsigned (List.suffix_cons _ _)
  · exact hunsigned (List.suffix_refl _)

/-! ## Values -/

theorem textBody_takes (start : Nat) (t : Text) : Takes t (textBody start t) := by
  induction t using textBody.induct with
  | case1 => exact .fault _ _
  | case2 rest => exact .ok (List.suffix_cons _ _)
  | case3 => exact .fault _ _
  | case4 a b c d x rest hhex =>
    rw [textBody, hhex]
    exact .fault _ _
  | case5 a b c d x rest n hhex ih =>
    rw [textBody, hhex]
    exact ih.bind ((List.suffix_append [_, _, _, _, _, _] _)) fun _ _ hrest => .ok hrest
  | case6 rest hshort =>
    rw [textBody]
    · exact .fault _ _
    · exact hshort
  | case7 c rest hlong hcode hescape =>
    rw [textBody, hescape]
    · exact .fault _ _
    · exact hlong
    · exact hcode
  | case8 c rest hlong hcode e hescape ih =>
    rw [textBody, hescape]
    · exact ih.bind (List.suffix_append [_, _] _) fun _ _ hrest => .ok hrest
    · exact hlong
    · exact hcode
  | case9 c rest hquote hlast hlong hcode hescape hcontrol =>
    rw [textBody, if_pos hcontrol]
    · exact .fault _ _
    · exact hquote
    · exact hlast
    · exact hlong
    · exact hcode
    · exact hescape
  | case10 c rest hquote hlast hlong hcode hescape hcontrol ih =>
    rw [textBody, if_neg hcontrol]
    · exact ih.bind (List.suffix_cons _ _) fun _ _ hrest => .ok hrest
    · exact hquote
    · exact hlast
    · exact hlong
    · exact hcode
    · exact hescape

theorem word?_suffix {found : Value × Text} (h : word? t = some found) : found.2 <:+ t := by
  obtain ⟨_, -, rfl⟩ := Option.map_eq_some_iff.mp h
  exact List.drop_suffix _ _

/-- Each part of the reader takes what it reads from the start of the text. -/
structure ReaderTakes (fuel : Nat) : Prop where
  value : ∀ t, Takes t (value fuel t)
  items : ∀ t, Takes t (items fuel t)
  members : ∀ t, Takes t (members fuel t)

theorem readerTakes (fuel : Nat) : ReaderTakes fuel := by
  induction fuel with
  | zero => exact ⟨fun _ => .fault _ _, fun _ => .fault _ _, fun _ => .fault _ _⟩
  | succ fuel ih =>
    constructor
    case value =>
      intro t
      unfold Json.value
      split
      · next rest =>
        exact (textBody_takes _ rest).bind (List.suffix_cons _ _) fun _ _ hrest => .ok hrest
      · next rest =>
        have hrest := List.suffix_cons (.char '[') rest
        split
        · next after hskip => exact .ok (suffix_of_skip hskip hrest)
        · exact (ih.items _).bind ((skip_suffix rest).trans hrest) fun _ _ hbehind => .ok hbehind
      · next rest =>
        have hrest := List.suffix_cons (.char '\x7b') rest
        split
        · next after hskip => exact .ok (suffix_of_skip hskip hrest)
        · exact (ih.members _).bind ((skip_suffix rest).trans hrest) fun _ _ hbehind => .ok hbehind
      · split
        · next found hfound => exact .ok (word?_suffix hfound)
        · exact (number_takes _).map
    case items =>
      intro t
      unfold Json.items
      refine (ih.value t).bind (List.suffix_refl t) fun v rest hrest => ?_
      dsimp only
      split
      · next after hskip => exact .ok (suffix_of_skip hskip hrest)
      · next after hskip =>
        have hafter := suffix_of_skip hskip hrest
        exact (ih.items _).bind ((skip_suffix after).trans hafter) fun _ _ hbehind => .ok hbehind
      · exact .fault _ _
    case members =>
      intro t
      unfold Json.members
      split
      · next rest =>
        refine (textBody_takes _ rest).bind (List.suffix_cons _ _) fun k rest hrest => ?_
        dsimp only
        split
        · next after hskip =>
          have hafter := suffix_of_skip hskip hrest
          refine (ih.value _).bind ((skip_suffix after).trans hafter) fun v rest hrest => ?_
          dsimp only
          split
          · next after hskip => exact .ok (suffix_of_skip hskip hrest)
          · next after hskip =>
            have hafter := suffix_of_skip hskip hrest
            exact (ih.members _).bind ((skip_suffix after).trans hafter)
              fun _ _ hbehind => .ok hbehind
          · exact .fault _ _
        · exact .fault _ _
      · exact .fault _ _

theorem document_eq_digits (h : document t = .error (.digits n)) : HasLongRow t n := by
  have hvalue := (readerTakes (2 * t.length + 2)).value (skip t) |>.of_suffix (skip_suffix t)
  unfold document at h
  split at h
  · cases h
  · rcases bind_eq_error.mp h with hread | ⟨r, -, hextra⟩
    · exact hvalue.digits n hread
    · dsimp only at hextra
      split at hextra
      · cases hextra
      · cases hextra

/-- What is no fault of its syntax in a JSON text is an integer of too many digits. -/
theorem exists_longRow_of_parse {fault : Fault} (h : parse t = .error (.content fault)) :
    ∃ n, HasLongRow t n ∧ fault = .arithmetic (.tooManyDigitsRead n) := by
  obtain ⟨stop, hstop, hfault⟩ := mapError_eq_error.mp h
  cases stop with
  | fault _ _ => cases hfault
  | digits n =>
    cases hfault
    exact ⟨n, document_eq_digits hstop, rfl⟩

theorem parse_ne_content (h : ∀ n, ¬HasLongRow t n) (fault : Fault) :
    parse t ≠ .error (.content fault) := by
  intro hparse
  obtain ⟨n, hrow, -⟩ := exists_longRow_of_parse hparse
  exact h n hrow

end Json
end LabelPress
