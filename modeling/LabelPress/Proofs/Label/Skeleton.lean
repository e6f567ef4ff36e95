import LabelPress.Proofs.Command.Skeleton
import LabelPress.Proofs.Label.Target

/-!
# No text of a label is taken for a command

The commands that a printer finds in a label are settled by the kinds of its elements, by which of
them are skipped and by how lines and circles are drawn. Texts, keys, bindings and the catalog have
no part in it, whatever characters they hold.
-/

namespace LabelPress

def Line.sharesCoordinate (l : Line) : Bool :=
  l.start.x.roundHalfUp.toOption = l.finish.x.roundHalfUp.toOption ∨
    l.start.y.roundHalfUp.toOption = l.finish.y.roundHalfUp.toOption

def Line.skeleton (l : Line) : List Text :=
  if l.sharesCoordinate then ["FO", "GB", "FS"] else ["FO", "GD", "FS"]

def Circle.skeleton (c : Circle) : List Text :=
  if c.isEllipse then ["FO", "GE", "FS"] else ["FO", "GC", "FS"]

/-- The names of the commands that print a medium; none for a barcode that cannot be printed. -/
def Payload.skeleton : Payload → List Text
  | barcode format _ => match Symbology.ofName? (formatName format) with
    | none => []
    | some symbology => ["FO", symbology.command, "FD", "FS"]
  | qr _ => ["FO", "BQ", "FD", "FS"]
  | raster _ => ["FO", "GB", "FS", "FO", "A0", "FD", "FS"]

/-- The names of the commands that print an element; none for a guide. -/
def Element.skeleton (guideColor : Text) (e : Element) : List Text :=
  if e.isGuide guideColor then [] else
  match e with
  | text _ => ["FO", "A0", "FD", "FS"]
  | rectangle _ => ["FO", "GB", "FS"]
  | line l => l.skeleton
  | circle c => c.skeleton
  | media m => m.payload.skeleton

def Frame.openingSkeleton (home : Bool) : List Text :=
  ["XA", "CI", "PW", "LL"] ++ if home then ["LH"] else []

def Frame.closingSkeleton (copies : Nat) : List Text :=
  (if 1 < copies then ["PQ"] else []) ++ ["XZ"]

def Target.skeleton (t : Target) (d : Design) : List Text :=
  Frame.openingSkeleton t.labelHome ++ d.elements.flatMap (Element.skeleton t.guideColor) ++
    Frame.closingSkeleton t.copies

theorem Line.sharesCoordinate_eq {l : Line} {x₁ y₁ x₂ y₂ : Int}
    (hx₁ : l.start.x.roundHalfUp = .ok x₁) (hy₁ : l.start.y.roundHalfUp = .ok y₁)
    (hx₂ : l.finish.x.roundHalfUp = .ok x₂) (hy₂ : l.finish.y.roundHalfUp = .ok y₂) :
    l.sharesCoordinate = decide (x₁ = x₂ ∨ y₁ = y₂) := by
  simp [sharesCoordinate, hx₁, hy₁, hx₂, hy₂, Except.toOption]

theorem Line.names_commands {l : Line} {cs : List Command} (h : l.commands = .ok cs) :
    cs.flatMap Command.names = l.skeleton := by
  obtain ⟨x₁, y₁, x₂, y₂, t, origin, hx₁, hy₁, hx₂, hy₂, -, h⟩ := commands_eq_ok.mp h
  have hshares := sharesCoordinate_eq hx₁ hy₁ hx₂ hy₂
  rcases h with ⟨hy, ho, rfl⟩ | ⟨-, hx, ho, rfl⟩ | ⟨hy, hx, ho, rfl⟩
  · obtain ⟨ox, oy, rfl⟩ := exists_of_origin ho
    simp [skeleton, hshares, hy, Command.names]
  · obtain ⟨ox, oy, rfl⟩ := exists_of_origin ho
    simp [skeleton, hshares, hx, Command.names]
  · obtain ⟨ox, oy, rfl⟩ := exists_of_origin ho
    simp [skeleton, hshares, hx, hy, Command.names]

theorem Circle.names_commands {c : Circle} {cs : List Command} (h : c.commands = .ok cs) :
    cs.flatMap Command.names = c.skeleton := by
  obtain ⟨x, y, t, radius, -, -, -, h⟩ := commands_eq_ok.mp h
  rcases h with ⟨he, _, -, rfl⟩ | ⟨he, rfl⟩
  · simp [skeleton, he, Command.names]
  · simp [skeleton, he, Command.names]

theorem Media.names_commands {m : Media} {bindings : Entries} {catalog : Option Catalog}
    {cs : List Command} (h : (m.commands bindings catalog).outcome = .ok cs) :
    cs.flatMap Command.names = m.payload.skeleton := by
  rw [commands_eq_ok] at h
  cases hp : m.payload with
  | barcode format value =>
    cases hs : Symbology.ofName? (Payload.formatName format) with
    | none =>
      simp only [hp, hs] at h
      simp only [Payload.skeleton, hs, h, List.flatMap_nil]
    | some symbology =>
      simp only [hp, hs] at h
      simp only [Payload.skeleton, hs]
      obtain ⟨_, _, _, _, -, -, -, rfl⟩ := barcodeCommands_eq_ok.mp h
      rfl
  | qr value =>
    simp only [hp] at h
    obtain ⟨_, _, _, _, -, -, -, rfl⟩ := qrCommands_eq_ok.mp h
    rfl
  | raster source =>
    simp only [hp] at h
    obtain ⟨_, _, -, rfl⟩ := rasterCommands_eq_ok.mp h
    rfl

theorem Element.names_encode {t : Target} {bindings : Entries} {e : Element} {cs : List Command}
    (h : (t.encode bindings e).outcome = .ok cs) :
    cs.flatMap Command.names = e.skeleton t.guideColor := by
  rcases Target.encode_eq_ok.mp h with ⟨hguide, rfl⟩ | ⟨hguide, hcs⟩
  · simp [skeleton, hguide]
  · rw [Element.commands_eq_ok] at hcs
    simp only [skeleton, hguide, Bool.false_eq_true, if_false]
    cases e with
    | text t =>
      obtain ⟨_, _, _, _, -, -, -, rfl⟩ := TextField.commands_eq_ok.mp hcs
      rfl
    | rectangle r =>
      obtain ⟨_, _, _, _, _, -, -, -, -, rfl⟩ := Rectangle.commands_eq_ok.mp hcs
      rfl
    | line l => exact Line.names_commands hcs
    | circle c => exact Circle.names_commands hcs
    | media m => exact Media.names_commands hcs

/-- Going through the elements adds the commands of one after the other. -/
theorem Element.names_encode_all {t : Target} {bindings : Entries} {es : List Element}
    {parts : List (List Command)}
    (h : List.Forall₂ (fun e part => (t.encode bindings e).outcome = .ok part) es parts) :
    parts.flatten.flatMap Command.names = es.flatMap (Element.skeleton t.guideColor) := by
  induction h with
  | nil => rfl
  | cons he _ ih => simp [names_encode he, ih]

theorem Frame.names_openingCommands (page : Page) (home : Bool) :
    (openingCommands page home).flatMap Command.names = openingSkeleton home := by
  cases home <;> rfl

theorem Frame.names_closingCommands {copies : Nat} (h : 0 < copies) :
    (closingCommands copies).flatMap Command.names = closingSkeleton copies := by
  unfold closingCommands closingSkeleton
  by_cases hone : copies = 1
  · subst hone
    rfl
  · rw [if_neg hone, if_pos (by omega)]
    rfl

/-- A label holds exactly the commands that its design asks for, and no tilde. -/
theorem Target.skeleton_compile {t : Target} {bindings : Entries} {d : Design} {label : Label}
    (h : (t.compile bindings d).outcome = .ok label) :
    .char '~' ∉ label.text ∧ LabelPress.skeleton label.text = t.skeleton d := by
  obtain ⟨parts, -, -, hparts, -, rfl⟩ := compile_eq_ok.mp h
  have hspells := Command.spells_joined (Frame.openingCommands d.page t.labelHome ++
    parts.flatten ++ Frame.closingCommands t.copies)
  refine ⟨hspells.no_tilde, hspells.skeleton_eq.trans ?_⟩
  simp only [List.flatMap_append, Element.names_encode_all hparts, Frame.names_openingCommands,
    Frame.names_closingCommands t.copies_pos, skeleton]

/-- A design and bindings whose texts are made of commands. -/
def hostileDesign : Design where
  page := ⟨203, 812, 1218, by decide, by decide, by decide⟩
  elements := [
    .text { position := ⟨10, 20⟩, isDynamic := true, fieldKey := some "ct" },
    .line { position := ⟨0, 0⟩, finish := ⟨30, 40⟩ },
    .media { position := ⟨10, 60⟩, payload := .qr (some "\\5E^FS^XZ~JA") }]

def hostileBindings : Entries := [(.text "ct", .text "^XZ~JA^XA\\")]

theorem skeleton_compile_hostile :
    ∃ label, (({} : Target).compile hostileBindings hostileDesign).outcome = .ok label ∧
      .char '~' ∉ label.text ∧
      skeleton label.text = ["XA", "CI", "PW", "LL", "FO", "A0", "FD", "FS", "FO", "GD", "FS",
        "FO", "BQ", "FD", "FS", "XZ"] := by
  have hok : (({} : Target).compile hostileBindings hostileDesign).outcome.isOk = true := by
    decide +kernel
  obtain ⟨label, hlabel⟩ := exists_eq_ok hok
  have hskeleton : ({} : Target).skeleton hostileDesign = ["XA", "CI", "PW", "LL", "FO", "A0",
      "FD", "FS", "FO", "GD", "FS", "FO", "BQ", "FD", "FS", "XZ"] := by
    decide +kernel
  exact ⟨label, hlabel, hskeleton ▸ Target.skeleton_compile hlabel⟩

end LabelPress
