import LabelPress.Proofs.Command.Operands
import LabelPress.Proofs.Label.Skeleton

/-!
# The operands of a label are in range

Whatever numbers an element holds, the operands of its commands are whole numbers within what the
commands take: places and sizes that are not negative, strokes and bars of at least one dot, even
diameters, diagonals that are neither flat nor upright, and magnifications from one to ten.
-/

namespace LabelPress

def Reading.place (x y : Nat) : Reading := ⟨"FO", [toString x, toString y]⟩

/-- What a printer reads for an element that is no guide, fields left out. -/
inductive Element.IsReadAs : Element → List Reading → Prop
  | text {t : TextField} (x y : Nat) (o : Orientation) (size : Int) :
    IsReadAs (.text t)
      [.place x y, ⟨"A0", [o.letter.toString, toString size, toString size]⟩]
  | rectangle {r : Rectangle} (x y width height t : Nat) (thick : 1 ≤ t) :
    IsReadAs (.rectangle r) [.place x y, ⟨"GB", [toString width, toString height, toString t] ++
      if r.isFilled then ["B"] else []⟩]
  | horizontal {l : Line} (x y length t : Nat) (thick : 1 ≤ t)
      (level : l.start.y.roundHalfUp = l.finish.y.roundHalfUp) :
    IsReadAs (.line l) [.place x y, ⟨"GB", [toString length, toString t, toString t]⟩]
  | vertical {l : Line} (x y length t : Nat) (thick : 1 ≤ t)
      (upright : l.start.x.roundHalfUp = l.finish.x.roundHalfUp) :
    IsReadAs (.line l) [.place x y, ⟨"GB", [toString t, toString length, toString t]⟩]
  | diagonal {l : Line} (x y : Nat) (dx dy : Int) (t : Nat) (thick : 1 ≤ t) (across : dx ≠ 0)
      (along : dy ≠ 0) (slanted : l.sharesCoordinate = false) :
    IsReadAs (.line l)
      [.place x y, ⟨"GD", [toString dx, toString dy, toString t, "", "R"]⟩]
  | circle {c : Circle} (x y diameter t : Nat) (thick : 1 ≤ t) (even : 2 ∣ diameter)
      (round : c.isEllipse = false) :
    IsReadAs (.circle c) [.place x y, ⟨"GC", [toString diameter, toString t]⟩]
  | ellipse {c : Circle} (x y width height t : Nat) (thick : 1 ≤ t) (evenWidth : 2 ∣ width)
      (evenHeight : 2 ∣ height) (oval : c.isEllipse = true) :
    IsReadAs (.circle c)
      [.place x y, ⟨"GE", [toString width, toString height, toString t]⟩]
  | barcode {m : Media} {format : Text} {value : Option Text} {s : Symbology} (x y : Nat)
      (o : Orientation) (height : Nat) (tall : 1 ≤ height)
      (payload : m.payload = .barcode format value)
      (known : Symbology.ofName? (Payload.formatName format) = some s) :
    IsReadAs (.media m)
      [.place x y, ⟨s.command, s.operands o.letter.toString (toString height)⟩]
  | dropped {m : Media} {format : Text} {value : Option Text}
      (payload : m.payload = .barcode format value)
      (unknown : Symbology.ofName? (Payload.formatName format) = none) :
    IsReadAs (.media m) []
  | qr {m : Media} {value : Option Text} (x y magnification : Nat)
      (least : 1 ≤ magnification) (most : magnification ≤ 10) (payload : m.payload = .qr value) :
    IsReadAs (.media m) [.place x y, ⟨"BQ", ["N", "2", toString magnification]⟩]
  | raster {m : Media} {source : Option Text} (x y : Nat) (payload : m.payload = .raster source) :
    IsReadAs (.media m) [.place x y, ⟨"GB", ["100", "100", "2"]⟩, .place (x + 10) (y + 40),
      ⟨"A0", ["N", "20", "20"]⟩]

theorem one_le_of_thickness {strokeWidth : Number} {t : Nat} (h : thickness strokeWidth = .ok t) :
    1 ≤ t := by
  obtain ⟨n, -, hn⟩ := bind_eq_ok.mp h
  rw [← pure_eq_ok.mp hn]
  exact Nat.le_max_left 1 _

namespace Media
variable {m : Media}

theorem one_le_of_barHeight {n : Nat} (h : m.barHeight = .ok n) : 1 ≤ n := by
  obtain ⟨k, -, hk⟩ := bind_eq_ok.mp h
  rw [← pure_eq_ok.mp hk]
  split
  · decide
  · next hne => exact Nat.one_le_iff_ne_zero.mpr hne

theorem magnification_bounds {n : Nat} (h : m.magnification = .ok n) : 1 ≤ n ∧ n ≤ 10 := by
  obtain ⟨_, -, h⟩ := bind_eq_ok.mp h
  obtain ⟨size, -, hsize⟩ := bind_eq_ok.mp h
  rw [← pure_eq_ok.mp hsize]
  omega

end Media

namespace Line
variable {l : Line} {cs : List Command}

theorem isReadAs_of_commands (h : l.commands = .ok cs) :
    (Element.line l).IsReadAs (cs.flatMap Command.readings) := by
  obtain ⟨x₁, y₁, x₂, y₂, t, origin, hx₁, hy₁, hx₂, hy₂, ht, h⟩ := commands_eq_ok.mp h
  have hthick := one_le_of_thickness ht
  have hshares := sharesCoordinate_eq hx₁ hy₁ hx₂ hy₂
  rcases h with ⟨hy, ho, rfl⟩ | ⟨-, hx, ho, rfl⟩ | ⟨hy, hx, ho, rfl⟩
  · obtain ⟨ox, oy, rfl⟩ := exists_of_origin ho
    exact .horizontal ox oy _ t hthick (by rw [hy₁, hy₂, hy])
  · obtain ⟨ox, oy, rfl⟩ := exists_of_origin ho
    exact .vertical ox oy _ t hthick (by rw [hx₁, hx₂, hx])
  · obtain ⟨ox, oy, rfl⟩ := exists_of_origin ho
    have hslanted : l.sharesCoordinate = false := by simp [hshares, hx, hy]
    exact .diagonal ox oy _ _ t hthick (by omega) (by omega) hslanted

end Line

theorem Circle.isReadAs_of_commands {c : Circle} {cs : List Command} (h : c.commands = .ok cs) :
    (Element.circle c).IsReadAs (cs.flatMap Command.readings) := by
  obtain ⟨x, y, t, radius, -, ht, -, h⟩ := commands_eq_ok.mp h
  have hthick := one_le_of_thickness ht
  rcases h with ⟨he, radiusY, -, rfl⟩ | ⟨he, rfl⟩
  · exact .ellipse x y _ _ t hthick (Nat.dvd_mul_left 2 radius) (Nat.dvd_mul_left 2 radiusY) he
  · exact .circle x y _ t hthick (Nat.dvd_mul_left 2 radius) he

theorem Media.isReadAs_of_commands {m : Media} {bindings : Entries} {catalog : Option Catalog}
    {cs : List Command} (h : (m.commands bindings catalog).outcome = .ok cs) :
    (Element.media m).IsReadAs (cs.flatMap Command.readings) := by
  rw [commands_eq_ok] at h
  cases hp : m.payload with
  | barcode format value =>
    cases hs : Symbology.ofName? (Payload.formatName format) with
    | none =>
      simp only [hp, hs] at h
      rw [h]
      exact .dropped hp hs
    | some symbology =>
      simp only [hp, hs] at h
      obtain ⟨x, y, _, height, -, -, hheight, rfl⟩ := barcodeCommands_eq_ok.mp h
      exact .barcode x y m.angle.orientation height (one_le_of_barHeight hheight) hp hs
  | qr value =>
    simp only [hp] at h
    obtain ⟨x, y, _, magnification, -, -, hmagnification, rfl⟩ := qrCommands_eq_ok.mp h
    obtain ⟨hleast, hmost⟩ := magnification_bounds hmagnification
    exact .qr x y magnification hleast hmost hp
  | raster source =>
    simp only [hp] at h
    obtain ⟨x, y, -, rfl⟩ := rasterCommands_eq_ok.mp h
    exact .raster x y hp

theorem Element.isReadAs_of_commands {e : Element} {bindings : Entries} {catalog : Option Catalog}
    {scale : Number} {cs : List Command}
    (h : (e.commands bindings catalog scale).outcome = .ok cs) :
    e.IsReadAs (cs.flatMap Command.readings) := by
  rw [commands_eq_ok] at h
  cases e with
  | text t =>
    obtain ⟨x, y, _, size, -, -, -, rfl⟩ := TextField.commands_eq_ok.mp h
    exact .text x y t.angle.orientation size
  | rectangle r =>
    obtain ⟨x, y, width, height, t, -, -, -, ht, rfl⟩ := Rectangle.commands_eq_ok.mp h
    exact .rectangle x y width height t (one_le_of_thickness ht)
  | line l => exact Line.isReadAs_of_commands h
  | circle c => exact Circle.isReadAs_of_commands h
  | media m => exact Media.isReadAs_of_commands h

/-- What a printer reads for an element: nothing for a guide. -/
def Element.IsReadIn (guideColor : Text) (e : Element) (part : List Reading) : Prop :=
  if e.isGuide guideColor then part = [] else e.IsReadAs part

namespace Frame

def openingReadings (page : Page) (home : Bool) : List Reading :=
  [⟨"XA", [""]⟩, ⟨"CI", ["28"]⟩, ⟨"PW", [toString page.width]⟩, ⟨"LL", [toString page.height]⟩] ++
    if home then [⟨"LH", ["0", "0"]⟩] else []

def closingReadings (copies : Nat) : List Reading :=
  (if 2 ≤ copies then [⟨"PQ", [toString copies]⟩] else []) ++ [⟨"XZ", [""]⟩]

theorem readings_openingCommands (page : Page) (home : Bool) :
    (openingCommands page home).flatMap Command.readings = openingReadings page home := by
  cases home <;> rfl

theorem readings_closingCommands {copies : Nat} (h : 0 < copies) :
    (closingCommands copies).flatMap Command.readings = closingReadings copies := by
  unfold closingCommands closingReadings
  by_cases hone : copies = 1
  · subst hone
    rfl
  · rw [if_neg hone, if_pos (by omega)]
    rfl

end Frame

namespace Target
variable {t : Target} {bindings : Entries}

theorem isReadIn_of_encode {e : Element} {cs : List Command}
    (h : (t.encode bindings e).outcome = .ok cs) :
    e.IsReadIn t.guideColor (cs.flatMap Command.readings) := by
  unfold Element.IsReadIn
  rcases encode_eq_ok.mp h with ⟨hguide, rfl⟩ | ⟨hguide, hcs⟩
  · rw [if_pos hguide]
    rfl
  · rw [if_neg (Bool.eq_false_iff.mp hguide)]
    exact Element.isReadAs_of_commands hcs

/-- What a printer reads in a label, fields left out: the frame with a page of positive size, and
for each element in order its commands with operands in range. -/
theorem readings_compile {d : Design} {label : Label}
    (h : (t.compile bindings d).outcome = .ok label) :
    0 < d.page.width ∧ 0 < d.page.height ∧ ∃ parts,
      readings label.text = Frame.openingReadings d.page t.labelHome ++ parts.flatten ++
        Frame.closingReadings t.copies ∧
      List.Forall₂ (Element.IsReadIn t.guideColor) d.elements parts := by
  obtain ⟨parts, -, -, hparts, -, rfl⟩ := compile_eq_ok.mp h
  refine ⟨d.page.width_pos, d.page.height_pos, parts.map (List.flatMap Command.readings), ?_, ?_⟩
  · have hreads := Command.reads_joined (Frame.openingCommands d.page t.labelHome ++
      parts.flatten ++ Frame.closingCommands t.copies)
    have hflatten : parts.flatten.flatMap Command.readings =
        (parts.map (List.flatMap Command.readings)).flatten := by
      simp only [List.flatMap, List.map_flatten, List.flatten_flatten, List.map_map]
      rfl
    refine hreads.readings_eq.trans ?_
    simp only [List.flatMap_append, Frame.readings_openingCommands,
      Frame.readings_closingCommands t.copies_pos, hflatten]
  · exact List.forall₂_map_right_iff.mpr (hparts.imp fun _ _ => isReadIn_of_encode)

end Target

/-- A label of elements with sizes and places out of all range. -/
def unrulyDesign : Design where
  page := hostileDesign.page
  elements := [
    .text { position := ⟨.int (-5), 20⟩, text := "^GB-1,-1", fontSize := .int (-9), angle := 100 },
    .rectangle { position := ⟨10, 60⟩, width := .int (-3), height := 40, strokeWidth := 0 },
    .line { position := ⟨0, 0⟩, finish := ⟨30, .int (-40)⟩, strokeWidth := .int (-2) },
    .line { position := ⟨0, 0⟩, stroke := some "#F0F0F0" },
    .circle { position := ⟨0, 0⟩, radius := 7, radiusY := some (.int (-7)) },
    .media { position := ⟨0, 0⟩, payload := .barcode "ean8" none, height := .int (-1) },
    .media { position := ⟨0, 0⟩, payload := .qr none, width := 9999 }]

def threefold : Target := { labelHome := true, copies := 3 }

theorem readings_compile_unruly :
    ∃ label, (threefold.compile [] unrulyDesign).outcome = .ok label ∧
      0 < unrulyDesign.page.width ∧ 0 < unrulyDesign.page.height ∧ ∃ parts,
        readings label.text = Frame.openingReadings unrulyDesign.page true ++ parts.flatten ++
          Frame.closingReadings 3 ∧
        List.Forall₂ (Element.IsReadIn threefold.guideColor) unrulyDesign.elements parts := by
  have hok : (threefold.compile [] unrulyDesign).outcome.isOk = true := by decide +kernel
  obtain ⟨label, hlabel⟩ := exists_eq_ok hok
  exact ⟨label, hlabel, Target.readings_compile hlabel⟩

end LabelPress
