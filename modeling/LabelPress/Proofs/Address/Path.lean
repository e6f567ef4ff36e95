import LabelPress.Address.Basic
import LabelPress.Proofs.Text.Join
import Mathlib.Data.List.TakeWhile

/-!
# Addresses that are read as they are written

The steps of a path of letters, digits and signs without a meaning need no percent signs, and none of
them leads anywhere else unless it is made of points alone. An address of a scheme, a host and such
a path is read as these three, and its text is the one that was read.
-/

namespace LabelPress.Address
variable {c : CodePoint} {t scheme host : Text} {steps : List Text}

/-! ## Characters that stand for themselves -/

def isOwn (c : CodePoint) : Bool := c.char?.any isUnreserved

theorem toNat_lt_of_isUnreserved {c : Char} (h : isUnreserved c = true) : c.toNat < 128 := by
  have hle : ∀ d : Char, c.val ≤ d.val → c.toNat ≤ d.toNat := fun _ hd =>
    UInt32.le_iff_toNat_le.mp hd
  have hcases : (((decide (c.val ≥ 'A'.val ∧ c.val ≤ 'Z'.val) ||
      (decide (c.val ≥ 'a'.val) && decide (c.val ≤ 'z'.val))) ||
      (decide (c.val ≥ '0'.val) && decide (c.val ≤ '9'.val))) ||
      "-._~".toList.contains c) = true := h
  simp only [Bool.or_eq_true, Bool.and_eq_true, decide_eq_true_eq, List.contains_iff_mem] at hcases
  rcases hcases with ((⟨-, hupper⟩ | ⟨-, hlower⟩) | ⟨-, hdigit⟩) | hsign
  · exact (hle 'Z' hupper).trans_lt (by decide)
  · exact (hle 'z' hlower).trans_lt (by decide)
  · exact (hle '9' hdigit).trans_lt (by decide)
  · have hsigns : "-._~".toList = ['-', '.', '_', '~'] := by decide
    simp only [hsigns, List.mem_cons, List.not_mem_nil, or_false] at hsign
    rcases hsign with rfl | rfl | rfl | rfl <;> decide

theorem toNat_lt_of_isOwn (h : isOwn c = true) : c.toNat < 128 := by
  cases c with
  | half _ => cases h
  | char d => exact toNat_lt_of_isUnreserved h

def marks : List CodePoint := ['/', '?', '#', ':', '@', '[', ']']

theorem isOwn_spec (h : isOwn c = true) :
    (∃ d, c = .char d ∧ inPath d = true) ∧ isControl c = false ∧ c ∉ marks := by
  cases c with
  | half _ => cases h
  | char d =>
    have htable : ∀ n < 128, isUnreserved (Char.ofNat n) = true →
        inPath (Char.ofNat n) = true ∧ isControl (.char (Char.ofNat n)) = false ∧
          .char (Char.ofNat n) ∉ marks := by
      decide +kernel
    have hd := htable d.toNat (toNat_lt_of_isUnreserved h)
    rw [Char.ofNat_toNat] at hd
    obtain ⟨hpath, hcontrol, hmark⟩ := hd h
    exact ⟨⟨d, rfl, hpath⟩, hcontrol, hmark⟩

theorem isOwn_of_digit {c : Char} (h : Text.isAsciiDigit c = true) : isOwn (.char c) = true := by
  have hdigit : c.isDigit = true := h
  change ((c.isAlpha || c.isDigit) || _) = true
  rw [hdigit, Bool.or_true, Bool.true_or]

theorem quoted_of_safe {safe : Char → Bool} (h : ∀ c ∈ t, ∃ d, c = .char d ∧ safe d = true) :
    quoted safe t = .ok t := by
  have hpoints : t.mapM (quotedPoint safe) = .ok (t.map fun c => [c]) := by
    induction t with
    | nil => rfl
    | cons c t ih =>
      obtain ⟨⟨d, rfl, hd⟩, ht⟩ := List.forall_mem_cons.mp h
      rw [List.mapM_cons, ih ht, quotedPoint, if_pos hd]
      rfl
  rw [quoted, hpoints]
  exact congrArg Except.ok (List.flatMap_singleton' t)

theorem checkText_eq_ok (hlength : t.length ≤ sizeLimit) (h : ∀ c ∈ t, isControl c = false) :
    checkText t = .ok () := by
  have hall : t.takeWhile (fun c => !isControl c) = t :=
    List.takeWhile_eq_self_iff.mpr fun c hc => by rw [h c hc]; rfl
  simp only [checkText, hall, List.drop_length, if_neg (not_lt.mpr hlength)]

/-! ## Paths -/

def pathOf (steps : List Text) : Text := steps.flatMap fun step => "/" ++ step

/-- A step that needs no percent signs, and that does not stay or lead back. -/
structure IsPlainStep (step : Text) : Prop where
  own : ∀ c ∈ step, isOwn c = true
  moves : step ≠ "." ∧ step ≠ ".."

/-- A character other than the point tells a step from those that stay or lead back. -/
theorem IsPlainStep.of_mem {step : Text} (hown : ∀ c ∈ step, isOwn c = true) (hmem : c ∈ step)
    (hc : c ≠ .char '.') : IsPlainStep step := by
  have hpoints : ∀ points ∈ ([".", ".."] : List Text), ∀ d ∈ points, d = .char '.' := by decide
  refine ⟨hown, ?_, ?_⟩
  · rintro rfl
    exact hc (hpoints _ (by decide) c hmem)
  · rintro rfl
    exact hc (hpoints _ (by decide) c hmem)

theorem dropDots_of_moves (h : ∀ step ∈ steps, step ≠ "." ∧ step ≠ "..") (done : List Text) :
    dropDots done steps = done.reverse ++ steps := by
  induction steps generalizing done with
  | nil => rw [dropDots, List.append_nil]
  | cons step steps ih =>
    obtain ⟨⟨hstay, hback⟩, hsteps⟩ := List.forall_mem_cons.mp h
    rw [dropDots, if_neg hstay, if_neg hback, ih hsteps, List.reverse_cons, List.append_assoc,
      List.singleton_append]

theorem mem_pathOf (h : c ∈ pathOf steps) : c = .char '/' ∨ ∃ step ∈ steps, c ∈ step := by
  obtain ⟨step, hstep, hmem⟩ := List.mem_flatMap.mp h
  rcases List.mem_append.mp hmem with hslash | hin
  · exact .inl (List.mem_singleton.mp hslash)
  · exact .inr ⟨step, hstep, hin⟩

theorem straight_pathOf (h : ∀ step ∈ steps, IsPlainStep step) :
    straight (pathOf steps) = pathOf steps := by
  have hjoin : Text.join "/" ([] :: steps) = pathOf steps := Text.join_cons "/" [] steps
  have hslash : ∀ step ∈ [] :: steps, CodePoint.char '/' ∉ step := by
    refine List.forall_mem_cons.mpr ⟨List.not_mem_nil, fun step hstep hmem => ?_⟩
    exact (isOwn_spec ((h step hstep).own _ hmem)).2.2 (by decide)
  have hsplit : (pathOf steps).splitOn (.char '/') = [] :: steps := by
    rw [← hjoin]
    exact List.splitOn_intercalate _ hslash (List.cons_ne_nil _ _)
  have hmoves : ∀ step ∈ [] :: steps, step ≠ "." ∧ step ≠ ".." :=
    List.forall_mem_cons.mpr ⟨by decide, fun step hstep => (h step hstep).moves⟩
  rw [straight, hsplit, dropDots_of_moves hmoves]
  exact hjoin

/-! ## Parts of an address -/

theorem splitAtFirst_of_not_mem (h : c ∉ t) : splitAtFirst c t = (t, none) := by
  have hall : ∀ d ∈ t, (d != c) = true := fun d hd => bne_iff_ne.mpr fun heq => h (heq ▸ hd)
  rw [splitAtFirst, List.dropWhile_eq_nil_iff.mpr hall]

structure IsPlace (scheme host : Text) : Prop where
  scheme_head : (scheme.head?.any fun c => c.char?.any Char.isAlpha) = true
  scheme_chars : ∀ c ∈ scheme, c.char?.any inScheme = true ∧ isOwn c = true
  scheme_lower : Text.lower scheme = scheme
  host_ne_nil : host ≠ []
  host_own : ∀ c ∈ host, isOwn c = true
  hostOf : hostOf host = .ok host

def placedText (scheme host : Text) (steps : List Text) : Text :=
  scheme ++ "://" ++ host ++ pathOf steps

namespace IsPlace
variable (hplace : IsPlace scheme host)
include hplace

theorem scheme_ne_nil : scheme ≠ [] := by
  rintro rfl
  exact absurd hplace.scheme_head (by decide)

theorem splitScheme_append (rest : Text) :
    splitScheme (scheme ++ .char ':' :: rest) = (scheme, rest) := by
  have hchars : ∀ c ∈ scheme, (c.char?.any inScheme) = true := fun c hc =>
    (hplace.scheme_chars c hc).1
  have hword : (scheme ++ .char ':' :: rest).takeWhile (·.char?.any inScheme) = scheme := by
    rw [List.takeWhile_append_of_pos hchars, List.takeWhile_cons_of_neg (by decide),
      List.append_nil]
  simp only [splitScheme, List.head?_append_of_ne_nil _ hplace.scheme_ne_nil, hplace.scheme_head,
    if_true, hword, List.drop_left]

theorem not_mem_host {c : CodePoint} (hc : c ∈ marks) : c ∉ host := fun hmem =>
  (isOwn_spec (hplace.host_own c hmem)).2.2 hc

theorem splitUser_host : splitUser host = ([], host) := by
  have hat : host.contains (.char '@') = false :=
    Bool.eq_false_iff.mpr fun h => hplace.not_mem_host (by decide) (List.contains_iff_mem.mp h)
  rw [splitUser, hat]
  rfl

theorem splitPort_host : splitPort host = (host, []) := by
  have hbracket : host.head? ≠ some (.char '[') := fun h =>
    hplace.not_mem_host (by decide) (List.mem_of_mem_head? h)
  have hall : host.takeWhile (· != .char ':') = host :=
    List.takeWhile_eq_self_iff.mpr fun c hc => bne_iff_ne.mpr fun heq =>
      hplace.not_mem_host (by decide) (heq ▸ hc)
  simp only [splitPort, hbracket, decide_false, Bool.false_and, Bool.false_eq_true, if_false, hall,
    List.drop_length]

theorem mem_placedText (hsteps : ∀ step ∈ steps, IsPlainStep step) {c : CodePoint}
    (hc : c ∈ placedText scheme host steps) :
    isOwn c = true ∨ c = .char ':' ∨ c = .char '/' := by
  simp only [placedText, List.mem_append] at hc
  rcases hc with ((hscheme | hparting) | hhost) | hpath
  · exact .inl (hplace.scheme_chars c hscheme).2
  · exact .inr ((by decide : ∀ c ∈ Text.ofString "://", c = .char ':' ∨ c = .char '/') c hparting)
  · exact .inl (hplace.host_own c hhost)
  · rcases mem_pathOf hpath with hslash | ⟨step, hstep, hmem⟩
    · exact .inr (.inr hslash)
    · exact .inl ((hsteps step hstep).own c hmem)

theorem parts_ofText (hsteps : ∀ step ∈ steps, IsPlainStep step) :
    Parts.ofText (placedText scheme host steps) = ⟨scheme, host, pathOf steps, none, none⟩ := by
  have hform : placedText scheme host steps =
      scheme ++ .char ':' :: .char '/' :: .char '/' :: (host ++ pathOf steps) := by
    rw [placedText, List.append_assoc, List.append_assoc]
    rfl
  have hmarks : ∀ mark ∈ ([.char '#', .char '?'] : List CodePoint),
      mark ∉ .char '/' :: .char '/' :: (host ++ pathOf steps) := by
    intro mark hmark hmem
    have hall : mark ∈ placedText scheme host steps := by
      rw [hform]
      exact List.mem_append_right _ (List.mem_cons_of_mem _ hmem)
    have hknown : mark ∈ marks ∧ mark ≠ .char ':' ∧ mark ≠ .char '/' :=
      (by decide : ∀ mark ∈ ([.char '#', .char '?'] : List CodePoint),
        mark ∈ marks ∧ mark ≠ .char ':' ∧ mark ≠ .char '/') mark hmark
    rcases hplace.mem_placedText hsteps hall with hown | hcolon | hslash
    · exact (isOwn_spec hown).2.2 hknown.1
    · exact hknown.2.1 hcolon
    · exact hknown.2.2 hslash
  have hhost : ∀ c ∈ host, (c != .char '/') = true := fun c hc =>
    bne_iff_ne.mpr fun heq => hplace.not_mem_host (by decide) (heq ▸ hc)
  have hauthority : (host ++ pathOf steps).takeWhile (· != .char '/') = host := by
    have hpath : (pathOf steps).takeWhile (· != .char '/') = [] := by cases steps <;> rfl
    rw [List.takeWhile_append_of_pos hhost, hpath, List.append_nil]
  simp only [Parts.ofText, hform, hplace.splitScheme_append,
    splitAtFirst_of_not_mem (hmarks _ List.mem_cons_self),
    splitAtFirst_of_not_mem (hmarks _ (List.mem_cons_of_mem _ List.mem_cons_self)), hauthority,
    List.drop_left]

theorem ofText_placedText (hsteps : ∀ step ∈ steps, IsPlainStep step)
    (hlength : (placedText scheme host steps).length ≤ sizeLimit) :
    ofText (placedText scheme host steps) = .ok { scheme, host, path := pathOf steps } := by
  have hcontrol : ∀ c ∈ placedText scheme host steps, isControl c = false := by
    intro c hc
    rcases hplace.mem_placedText hsteps hc with hown | rfl | rfl
    · exact (isOwn_spec hown).2.1
    · rfl
    · rfl
  have hpath : quoted inPath (pathOf steps) = .ok (pathOf steps) := by
    refine quoted_of_safe fun c hc => ?_
    rcases mem_pathOf hc with rfl | ⟨step, hstep, hmem⟩
    · exact ⟨'/', rfl, by decide⟩
    · exact (isOwn_spec ((hsteps step hstep).own c hmem)).1
  have huser : quoted inUser [] = .ok [] := rfl
  have hport : portOf scheme [] = .ok none := rfl
  have hscheme : scheme.isEmpty = false := List.isEmpty_eq_false_iff.mpr hplace.scheme_ne_nil
  rw [ofText, checkText_eq_ok hlength hcontrol, hplace.parts_ofText hsteps]
  simp only [hplace.splitUser_host, hplace.splitPort_host, huser, hplace.hostOf, hport, hscheme,
    straight_pathOf hsteps, hplace.scheme_lower, Bool.not_false, Bool.true_or, Bool.not_true,
    Bool.false_eq_true, if_false, if_true, hpath]
  rfl

theorem place_placed (path : Text) : ({ scheme, host, path } : Address).place = host := by
  have hcolon : host.contains (.char ':') = false :=
    Bool.eq_false_iff.mpr fun h => hplace.not_mem_host (by decide) (List.contains_iff_mem.mp h)
  simp only [place, hcolon, Bool.false_eq_true, if_false, List.append_nil]

theorem text_placed (steps : List Text) :
    ({ scheme, host, path := pathOf steps } : Address).text = placedText scheme host steps := by
  have hscheme : scheme.isEmpty = false := List.isEmpty_eq_false_iff.mpr hplace.scheme_ne_nil
  have hhost : host.isEmpty = false := List.isEmpty_eq_false_iff.mpr hplace.host_ne_nil
  simp only [text, authority, hplace.place_placed, hscheme, hhost, List.isEmpty_nil, if_true,
    Bool.false_eq_true, if_false, behind, placedText, List.append_nil, List.append_assoc]
  rfl

theorem target_placed (path : Text) :
    ({ scheme, host, path } : Address).target = { scheme, host, path } := by
  have hscheme : scheme.isEmpty = false := List.isEmpty_eq_false_iff.mpr hplace.scheme_ne_nil
  have hhost : host.isEmpty = false := List.isEmpty_eq_false_iff.mpr hplace.host_ne_nil
  simp only [target, isAbsolute, hscheme, hhost, Bool.not_false, Bool.and_self, if_true]

end IsPlace

end LabelPress.Address
