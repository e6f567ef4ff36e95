import LabelPress.Canvas.Object
import LabelPress.Proofs.Document.Faults

/-!
# Objects that can be converted

An object of a canvas is converted if its texts can be told and its sizes can be scaled. A value
that is no number gives way to a default where a number is expected, but for the coordinates in a
list of four: there it ends the conversion.
-/

namespace LabelPress
namespace Canvas
variable {entries : Entries} {name : Text}

/-! ## Fields -/

def Tells (entries : Entries) (name : Text) : Prop :=
  ∃ t, (entries.getOrNull name).printed = .ok t

theorem exists_text?_iff : (∃ s, text? name entries = .ok s) ↔ Tells entries name := by
  unfold text? Tells
  split
  · next hnull =>
    rw [hnull]
    exact iff_of_true ⟨none, rfl⟩ ⟨_, rfl⟩
  · cases (entries.getOrNull name).printed with
    | ok t => exact iff_of_true ⟨some t, rfl⟩ ⟨t, rfl⟩
    | error fault => exact iff_of_false nofun nofun

structure Size where
  name : Text
  default : Number
  scale : Text

def Size.Fits (entries : Entries) (size : Size) : Prop :=
  (number size.name size.default entries).Multiplies (number size.scale 1 entries)

inductive IsCoordinate : Value → Prop
  | bool (b : Bool) : IsCoordinate (.bool b)
  | number {n : Number} (h : n.HasReal) : IsCoordinate (.number n)
  | numeral {s : Text} {x : Binary64} (h : Binary64.ofNumeral? s = some x) : IsCoordinate (.text s)
  | bytes {b : List UInt8} {x : Binary64} (hascii : b.all (· < 0x80) = true)
      (h : Binary64.ofNumeral? (String.ofList (b.map fun byte => Char.ofNat byte.toNat)) = some x) :
      IsCoordinate (.scalar (.bytes b))

theorem real_of_coordinate {v : Value} {n : Number} (h : coordinate v = .ok n) :
    ∃ x, n = .real x := by
  unfold coordinate at h
  split at h
  · cases h
    exact ⟨_, rfl⟩
  · obtain ⟨x, -, hx⟩ := bind_eq_ok.mp h
    exact ⟨x, (pure_eq_ok.mp hx).symm⟩
  · split at h
    · next x _ => exact ⟨x, (pure_eq_ok.mp h).symm⟩
    · exact absurd h throw_ne_ok
  · dsimp only at h
    split at h
    · next x _ => exact ⟨x, (pure_eq_ok.mp h).symm⟩
    · obtain ⟨_, -, hthrow⟩ := bind_eq_ok.mp h
      exact absurd hthrow throw_ne_ok
  · exact absurd h throw_ne_ok

theorem exists_coordinate_iff {v : Value} : (∃ n, coordinate v = .ok n) ↔ IsCoordinate v := by
  constructor
  · rintro ⟨n, h⟩
    unfold coordinate at h
    split at h
    · exact .bool _
    · obtain ⟨x, hx, -⟩ := bind_eq_ok.mp h
      exact .number (Number.exists_toReal_iff.mp ⟨x, liftArithmetic_eq_ok.mp hx⟩)
    · split at h
      · next hnumeral => exact .numeral hnumeral
      · exact absurd h throw_ne_ok
    · dsimp only at h
      split at h
      · next b x hnumeral =>
        split at hnumeral
        · next hascii => exact .bytes hascii hnumeral
        · cases hnumeral
      · obtain ⟨_, -, hthrow⟩ := bind_eq_ok.mp h
        exact absurd hthrow throw_ne_ok
    · exact absurd h throw_ne_ok
  · intro h
    cases h with
    | bool b => exact ⟨_, rfl⟩
    | @number n h =>
      obtain ⟨x, hx⟩ := Number.exists_toReal_iff.mpr h
      exact ⟨.real x, bind_eq_ok.mpr ⟨x, liftArithmetic_eq_ok.mpr hx, rfl⟩⟩
    | @numeral s x h =>
      refine ⟨.real x, ?_⟩
      simp only [coordinate, h]
      rfl
    | @bytes b x hascii h =>
      refine ⟨.real x, ?_⟩
      simp only [coordinate, hascii, if_true, h]
      rfl

/-! ## Lines -/

def ends : List Size :=
  [⟨"x1", 0, "scaleX"⟩, ⟨"y1", 0, "scaleY"⟩, ⟨"x2", 0, "scaleX"⟩, ⟨"y2", 0, "scaleY"⟩]

def hasEnds (entries : Entries) : Bool := ["x1", "y1", "x2", "y2"].all fun name => entries.has name

structure EndsFit (entries : Entries) : Prop where
  points : ∀ a b c d, (entries.getOrNull "points").head = .list [a, b, c, d] →
    (∀ v ∈ [a, b, c, d], IsCoordinate v) ∧
      (number "scaleX" 1 entries).HasReal ∧ (number "scaleY" 1 entries).HasReal
  fields : (∀ a b c d, (entries.getOrNull "points").head ≠ .list [a, b, c, d]) →
    hasEnds entries = true → ∀ size ∈ ends, size.Fits entries

theorem exists_scaled_iff {f : Frame} {p : Point} :
    (∃ q, f.scaled p = .ok q) ↔ p.x.Multiplies f.scaleX ∧ p.y.Multiplies f.scaleY := by
  simp only [Frame.scaled, ← Number.exists_mul_iff, bind_eq_ok, pure_eq_ok]
  constructor
  · rintro ⟨_, x, hx, y, hy, -⟩
    exact ⟨⟨x, hx⟩, y, hy⟩
  · rintro ⟨⟨x, hx⟩, y, hy⟩
    exact ⟨_, x, hx, y, hy, rfl⟩

/-- The ends of a line, read and scaled. -/
theorem exists_line_iff {f : Frame} : (∃ l, f.line entries = .ok l) ↔
    ∃ start finish, lineEnds entries = .ok (start, finish) ∧
      (start.x.Multiplies f.scaleX ∧ start.y.Multiplies f.scaleY) ∧
        finish.x.Multiplies f.scaleX ∧ finish.y.Multiplies f.scaleY := by
  simp only [Frame.line, bind_eq_ok, pure_eq_ok, liftArithmetic_eq_ok, ← exists_scaled_iff,
    Prod.exists]
  constructor
  · rintro ⟨_, start, finish, hends, p, hp, q, hq, -⟩
    exact ⟨start, finish, hends, ⟨p, hp⟩, q, hq⟩
  · rintro ⟨start, finish, hends, ⟨p, hp⟩, q, hq⟩
    exact ⟨_, start, finish, hends, p, hp, q, hq, rfl⟩

theorem exists_ends_iff : (∃ start finish, lineEnds entries = .ok (start, finish) ∧
      (start.x.Multiplies (number "scaleX" 1 entries) ∧
        start.y.Multiplies (number "scaleY" 1 entries)) ∧
      finish.x.Multiplies (number "scaleX" 1 entries) ∧
        finish.y.Multiplies (number "scaleY" 1 entries)) ↔ EndsFit entries := by
  unfold lineEnds
  split
  · next a b c d hpoints =>
    have hfit : EndsFit entries ↔ (∀ v ∈ [a, b, c, d], IsCoordinate v) ∧
        (number "scaleX" 1 entries).HasReal ∧ (number "scaleY" 1 entries).HasReal := by
      constructor
      · intro h
        exact h.points a b c d hpoints
      · intro h
        refine ⟨fun a' b' c' d' hpoints' => ?_, fun hno => absurd hpoints (hno a b c d)⟩
        rw [hpoints] at hpoints'
        cases hpoints'
        exact h
    simp only [hfit, List.forall_mem_cons, ← exists_coordinate_iff, bind_eq_ok, pure_eq_ok]
    constructor
    · rintro ⟨_, _, ⟨x₁, hx₁, y₁, hy₁, x₂, hx₂, y₂, hy₂, heq⟩, ⟨hsx, hsy⟩, -⟩
      cases heq
      obtain ⟨x, rfl⟩ := real_of_coordinate hx₁
      obtain ⟨y, rfl⟩ := real_of_coordinate hy₁
      refine ⟨⟨⟨_, hx₁⟩, ⟨_, hy₁⟩, ⟨_, hx₂⟩, ⟨_, hy₂⟩, nofun⟩, ?_, ?_⟩
      · exact Number.multiplies_real.mp hsx
      · exact Number.multiplies_real.mp hsy
    · rintro ⟨⟨⟨x₁, hx₁⟩, ⟨y₁, hy₁⟩, ⟨x₂, hx₂⟩, ⟨y₂, hy₂⟩, -⟩, hsx, hsy⟩
      refine ⟨_, _, ⟨x₁, hx₁, y₁, hy₁, x₂, hx₂, y₂, hy₂, rfl⟩, ?_⟩
      obtain ⟨x₁, rfl⟩ := real_of_coordinate hx₁
      obtain ⟨y₁, rfl⟩ := real_of_coordinate hy₁
      obtain ⟨x₂, rfl⟩ := real_of_coordinate hx₂
      obtain ⟨y₂, rfl⟩ := real_of_coordinate hy₂
      simp only [Number.multiplies_real]
      exact ⟨⟨hsx, hsy⟩, hsx, hsy⟩
  · next hpoints =>
    have hfit : EndsFit entries ↔ (hasEnds entries = true → ∀ size ∈ ends, size.Fits entries) := by
      constructor
      · intro h
        exact h.fields hpoints
      · intro h
        exact ⟨fun a b c d heq => absurd heq (hpoints a b c d), fun _ => h⟩
    rw [hfit, ← hasEnds]
    cases hasEnds entries with
    | true =>
      simp only [if_true, pure_eq_ok, Prod.mk.injEq, true_implies, ends, List.forall_mem_cons]
      constructor
      · rintro ⟨_, _, ⟨rfl, rfl⟩, ⟨hx₁, hy₁⟩, hx₂, hy₂⟩
        exact ⟨hx₁, hy₁, hx₂, hy₂, List.forall_mem_nil _⟩
      · rintro ⟨hx₁, hy₁, hx₂, hy₂, -⟩
        exact ⟨_, _, ⟨rfl, rfl⟩, ⟨hx₁, hy₁⟩, hx₂, hy₂⟩
    | false =>
      -- Ends that are not given are small integers, which have a product with every number.
      have hzero : (0 : Number).IsBounded := by decide +kernel
      have hhundred : (100 : Number).IsBounded := by decide +kernel
      refine iff_of_true ⟨⟨0, 0⟩, ⟨100, 0⟩, rfl, ?_⟩ nofun
      refine ⟨⟨Number.int_multiplies hzero _, Number.int_multiplies hzero _⟩, ?_⟩
      exact ⟨Number.int_multiplies hhundred _, Number.int_multiplies hzero _⟩

/-! ## Objects -/

namespace ObjectType
variable {type : ObjectType}

def sizes : ObjectType → List Size
  | text => [⟨"fontSize", 20, "scaleY"⟩]
  | rect => [⟨"width", 0, "scaleX"⟩, ⟨"height", 0, "scaleY"⟩]
  | line => ends
  | circle => [⟨"radius", 0, "scaleX"⟩]
  | ellipse => [⟨"rx", 0, "scaleX"⟩, ⟨"ry", 0, "scaleY"⟩]
  | image => [⟨"width", 100, "scaleX"⟩, ⟨"height", 100, "scaleY"⟩]

/-- The texts of a type. An image that is announced as a symbol has no source. -/
def texts (data : Entries) : ObjectType → List Text
  | text => ["text"]
  | rect => ["fill"]
  | image => if flag "isBarcode" false data || flag "isQRCode" false data then [] else ["src"]
  | _ => []

def boundTexts (data : Entries) : ObjectType → List Text
  | text => ["field"]
  | image => "field" :: if flag "isBarcode" false data then ["format", "value"]
      else if flag "isQRCode" false data then ["value"] else []
  | _ => []

structure IsFit (entries : Entries) (type : ObjectType) : Prop where
  texts : ∀ name ∈ type.texts (entries.getOrNull "data").entries, Tells entries name
  boundTexts : ∀ name ∈ type.boundTexts (entries.getOrNull "data").entries,
    Tells (entries.getOrNull "data").entries name
  sizes : type ≠ line → ∀ size ∈ type.sizes, size.Fits entries
  ends : type = line → EndsFit entries

end ObjectType

structure Converts (entries : Entries) : Prop where
  type : (entries.getOrNull "type").isTrue = true → Tells entries "type"
  stroke : Tells entries "stroke"
  own : ∀ type, ObjectType.ofValue? (entries.getOrNull "type") = .ok (some type) →
    type.IsFit entries

theorem ObjectType.exists_ofValue?_iff {v : Value} : (∃ type, ofValue? v = .ok type) ↔
    (v.isTrue = true → ∃ s, v.printed = .ok s) := by
  unfold ofValue?
  split
  · next htrue => rw [exists_bind_pure_eq_ok, forall_prop_of_true htrue]
  · next hfalse => exact iff_of_true ⟨none, rfl⟩ fun htrue => absurd htrue hfalse

theorem Frame.ofEntries_eq_ok {f : Frame} (h : ofEntries entries = .ok f) :
    f.scaleX = number "scaleX" 1 entries ∧ f.scaleY = number "scaleY" 1 entries := by
  obtain ⟨stroke, -, h⟩ := bind_eq_ok.mp h
  cases h
  exact ⟨rfl, rfl⟩

namespace Frame
variable {f : Frame} {data : Entries}

theorem exists_text_iff : (∃ t, f.text entries data = .ok t) ↔
    Tells entries "text" ∧ (number "fontSize" 20 entries).Multiplies f.scaleY ∧
      Tells data "field" := by
  rw [← exists_text?_iff, ← exists_text?_iff, ← Number.exists_mul_iff]
  exact exists_bind_iff fun _ => exists_bind_iff fun _ => exists_bind_pure_eq_ok

theorem exists_rectangle_iff : (∃ r, f.rectangle entries = .ok r) ↔
    (number "width" 0 entries).Multiplies f.scaleX ∧
      (number "height" 0 entries).Multiplies f.scaleY ∧ Tells entries "fill" := by
  rw [← exists_text?_iff, ← Number.exists_mul_iff, ← Number.exists_mul_iff]
  exact exists_bind_iff fun _ => exists_bind_iff fun _ => exists_bind_pure_eq_ok

theorem exists_circle_iff : (∃ c, f.circle entries = .ok c) ↔
    (number "radius" 0 entries).Multiplies f.scaleX := by
  rw [← Number.exists_mul_iff]
  exact exists_bind_pure_eq_ok

theorem exists_ellipse_iff : (∃ c, f.ellipse entries = .ok c) ↔
    (number "rx" 0 entries).Multiplies f.scaleX ∧ (number "ry" 0 entries).Multiplies f.scaleY := by
  rw [← Number.exists_mul_iff, ← Number.exists_mul_iff]
  exact exists_bind_iff fun _ => exists_bind_pure_eq_ok

theorem exists_payload_iff : (∃ p, payload entries data = .ok p) ↔
    (∀ name ∈ ObjectType.image.texts data, Tells entries name) ∧
      ∀ name ∈ (ObjectType.image.boundTexts data).tail, Tells data name := by
  unfold payload ObjectType.texts ObjectType.boundTexts
  by_cases hbarcode : flag "isBarcode" false data = true
  · have hread := exists_bind_iff (x := text? "format" data) fun format =>
      exists_bind_pure_eq_ok (x := text? "value" data)
        (f := Payload.barcode (Payload.formatName format))
    simpa [hbarcode, exists_text?_iff] using hread
  · by_cases hqr : flag "isQRCode" false data = true
    · have hread := exists_bind_pure_eq_ok (x := text? "value" data) (f := Payload.qr)
      simpa [hbarcode, hqr, exists_text?_iff] using hread
    · have hread := exists_bind_pure_eq_ok (x := text? "src" entries) (f := Payload.raster)
      simpa [hbarcode, hqr, exists_text?_iff] using hread

theorem exists_media_iff : (∃ m, f.media entries data = .ok m) ↔
    (∃ p, payload entries data = .ok p) ∧ (number "width" 100 entries).Multiplies f.scaleX ∧
      (number "height" 100 entries).Multiplies f.scaleY ∧ Tells data "field" := by
  rw [← exists_text?_iff, ← Number.exists_mul_iff, ← Number.exists_mul_iff]
  exact exists_bind_iff fun _ => exists_bind_iff fun _ => exists_bind_iff fun _ =>
    exists_bind_pure_eq_ok

end Frame

def Frame.ofType? (f : Frame) (entries data : Entries) :
    Option ObjectType → Except Fault (Option Element)
  | none => .ok none
  | some .text => do return some (.text (← f.text entries data))
  | some .rect => do return some (.rectangle (← f.rectangle entries))
  | some .line => do return some (.line (← f.line entries))
  | some .circle => do return some (.circle (← f.circle entries))
  | some .ellipse => do return some (.circle (← f.ellipse entries))
  | some .image => do return some (.media (← f.media entries data))

theorem element?_eq : element? entries = (do
    let type ← ObjectType.ofValue? (entries.getOrNull "type")
    let f ← Frame.ofEntries entries
    f.ofType? entries (entries.getOrNull "data").entries type) := rfl

theorem element?_eq_ok {o : Option Element} : element? entries = .ok o ↔ ∃ type f,
    ObjectType.ofValue? (entries.getOrNull "type") = .ok type ∧ Frame.ofEntries entries = .ok f ∧
      f.ofType? entries (entries.getOrNull "data").entries type = .ok o := by
  simp only [element?_eq, bind_eq_ok, liftArithmetic_eq_ok, exists_and_left]

theorem Frame.exists_ofType?_iff {f : Frame} (hf : ofEntries entries = .ok f)
    (type : ObjectType) :
    (∃ o, f.ofType? entries (entries.getOrNull "data").entries (some type) = .ok o) ↔
      type.IsFit entries := by
  obtain ⟨hx, hy⟩ := ofEntries_eq_ok hf
  have hfit : type.IsFit entries ↔
      (∀ name ∈ type.texts (entries.getOrNull "data").entries, Tells entries name) ∧
      (∀ name ∈ type.boundTexts (entries.getOrNull "data").entries,
        Tells (entries.getOrNull "data").entries name) ∧
      (type ≠ .line → ∀ size ∈ type.sizes, size.Fits entries) ∧
      (type = .line → EndsFit entries) :=
    ⟨fun h => ⟨h.texts, h.boundTexts, h.sizes, h.ends⟩, fun ⟨h₁, h₂, h₃, h₄⟩ => ⟨h₁, h₂, h₃, h₄⟩⟩
  rw [hfit]
  cases type with
  | text =>
    simp only [ofType?, exists_bind_pure_eq_ok, liftArithmetic_eq_ok, exists_text_iff, hy]
    simp [ObjectType.texts, ObjectType.boundTexts, ObjectType.sizes, Size.Fits]
    tauto
  | rect =>
    simp only [ofType?, exists_bind_pure_eq_ok, liftArithmetic_eq_ok, exists_rectangle_iff, hx, hy]
    simp [ObjectType.texts, ObjectType.boundTexts, ObjectType.sizes, Size.Fits]
    tauto
  | line =>
    simp only [ofType?, exists_bind_pure_eq_ok, exists_line_iff, hx, hy, exists_ends_iff]
    simp [ObjectType.texts, ObjectType.boundTexts]
  | circle =>
    simp only [ofType?, exists_bind_pure_eq_ok, liftArithmetic_eq_ok, exists_circle_iff, hx]
    simp [ObjectType.texts, ObjectType.boundTexts, ObjectType.sizes, Size.Fits]
  | ellipse =>
    simp only [ofType?, exists_bind_pure_eq_ok, liftArithmetic_eq_ok, exists_ellipse_iff, hx, hy]
    simp [ObjectType.texts, ObjectType.boundTexts, ObjectType.sizes, Size.Fits]
  | image =>
    simp only [ofType?, exists_bind_pure_eq_ok, liftArithmetic_eq_ok, exists_media_iff,
      exists_payload_iff, hx, hy]
    simp [ObjectType.boundTexts, ObjectType.sizes, Size.Fits]
    tauto

theorem exists_element?_iff : (∃ o, element? entries = .ok o) ↔ Converts entries := by
  simp only [element?_eq_ok]
  constructor
  · rintro ⟨o, type, f, htype, hf, ho⟩
    refine ⟨ObjectType.exists_ofValue?_iff.mp ⟨type, htype⟩, ?_, fun t ht => ?_⟩
    · obtain ⟨stroke, hstroke, -⟩ := bind_eq_ok.mp hf
      exact exists_text?_iff.mp ⟨stroke, hstroke⟩
    · cases htype.symm.trans ht
      exact (Frame.exists_ofType?_iff hf t).mp ⟨o, ho⟩
  · intro h
    obtain ⟨type, htype⟩ := ObjectType.exists_ofValue?_iff.mpr h.type
    obtain ⟨stroke, hstroke⟩ := exists_text?_iff.mpr h.stroke
    obtain ⟨f, hf⟩ : ∃ f, Frame.ofEntries entries = .ok f :=
      ⟨_, bind_eq_ok.mpr ⟨stroke, hstroke, rfl⟩⟩
    cases type with
    | none => exact ⟨none, none, f, htype, hf, rfl⟩
    | some type =>
      obtain ⟨o, ho⟩ := (Frame.exists_ofType?_iff hf type).mpr (h.own type htype)
      exact ⟨o, some type, f, htype, hf, ho⟩

/-! ## Objects that cannot be converted -/

theorem coordinate_escapes (v : Value) : Escapes (coordinate v) := by
  unfold coordinate
  split
  · exact .pure
  · exact (Escapes.arithmetic _).map
  · split
    · exact .pure
    · exact .throw rfl
  · dsimp only
    split
    · exact .pure
    · exact (Escapes.arithmetic _).bind fun _ => .throw rfl
  · exact .throw rfl

theorem lineEnds_escapes (entries : Entries) : Escapes (lineEnds entries) := by
  unfold lineEnds
  split
  · exact (coordinate_escapes _).bind fun _ => (coordinate_escapes _).bind fun _ =>
      (coordinate_escapes _).bind fun _ => (coordinate_escapes _).map
  · split <;> exact .pure

theorem element?_escapes (entries : Entries) : Escapes (element? entries) := by
  rw [element?_eq]
  refine (Escapes.arithmetic _).bind fun type => (Escapes.arithmetic _).bind fun f => ?_
  cases type with
  | none => exact .pure
  | some type =>
    cases type with
    | line =>
      refine Escapes.map (Escapes.bind (lineEnds_escapes entries) fun ends => ?_)
      exact (Escapes.arithmetic _).bind fun _ => (Escapes.arithmetic _).map
    | _ => exact (Escapes.arithmetic _).map

/-! ## Numbers that give way to their defaults -/

def commonNumbers : List (Text × Number) :=
  [("left", 0), ("top", 0), ("scaleX", 1), ("scaleY", 1), ("strokeWidth", 1)]

def ObjectType.numbers (type : ObjectType) : List (Text × Number) :=
  commonNumbers ++ type.sizes.map (fun size => (size.name, size.default)) ++
    (if type = .text ∨ type = .image then [("angle", 0)] else [] : List (Text × Number))

def otherNames : List Text := ["type", "stroke", "data", "text", "fill", "src", "points"]

theorem ObjectType.name_unique (type : ObjectType) :
    ∀ p ∈ type.numbers, ∀ q ∈ type.numbers, p.1 = q.1 → p = q := by
  cases type <;> decide +kernel

theorem ObjectType.not_mem_otherNames (type : ObjectType) :
    ∀ p ∈ type.numbers, p.1 ∉ otherNames := by
  cases type <;> decide +kernel

/-- Two objects have the same numbers where their type has any, and the same values elsewhere. -/
structure ReadAlike (type : ObjectType) (entries entries' : Entries) : Prop where
  numbers : ∀ p ∈ type.numbers, number p.1 p.2 entries = number p.1 p.2 entries'
  has : ∀ name, entries.has name = entries'.has name
  others : ∀ name ∈ otherNames, entries.get? name = entries'.get? name

namespace ReadAlike
variable {type : ObjectType} {entries' : Entries} (h : ReadAlike type entries entries')
include h

theorem getOrNull_eq (hname : name ∈ otherNames) :
    entries.getOrNull name = entries'.getOrNull name := by
  rw [Entries.getOrNull, Entries.getOrNull, h.others name hname]

theorem text?_eq (hname : name ∈ otherNames) : text? name entries = text? name entries' := by
  rw [text?, text?, h.getOrNull_eq hname]

theorem frame_eq : Frame.ofEntries entries = Frame.ofEntries entries' := by
  have hcommon : ∀ p ∈ commonNumbers, number p.1 p.2 entries = number p.1 p.2 entries' := by
    intro p hp
    exact h.numbers p (List.mem_append_left _ (List.mem_append_left _ hp))
  simp only [commonNumbers, List.forall_mem_cons] at hcommon
  obtain ⟨hleft, htop, hx, hy, hwidth, -⟩ := hcommon
  have hstroke : text? "stroke" entries = text? "stroke" entries' := h.text?_eq (by decide +kernel)
  simp only [Frame.ofEntries, hstroke, hleft, htop, hx, hy, hwidth]

theorem size_eq {size : Size} (hsize : size ∈ type.sizes) :
    number size.name size.default entries = number size.name size.default entries' := by
  refine h.numbers (size.name, size.default) ?_
  exact List.mem_append_left _ (List.mem_append_right _ (List.mem_map_of_mem hsize))

theorem angle_eq (htype : type = .text ∨ type = .image) :
    number "angle" 0 entries = number "angle" 0 entries' := by
  refine h.numbers ("angle", 0) (List.mem_append_right _ ?_)
  rw [if_pos htype]
  exact List.mem_singleton_self _

theorem lineEnds_eq (htype : type = .line) : lineEnds entries = lineEnds entries' := by
  subst htype
  have hsizes : ∀ size ∈ ends, number size.name size.default entries =
      number size.name size.default entries' := fun size hsize => h.size_eq hsize
  simp only [ends, List.forall_mem_cons] at hsizes
  obtain ⟨hx₁, hy₁, hx₂, hy₂, -⟩ := hsizes
  have hpoints : entries.getOrNull "points" = entries'.getOrNull "points" :=
    h.getOrNull_eq (by decide +kernel)
  simp only [lineEnds, hpoints, h.has, hx₁, hy₁, hx₂, hy₂]

theorem ofType?_eq (f : Frame) (data : Entries) :
    f.ofType? entries data type = f.ofType? entries' data type := by
  have hsizes : ∀ size ∈ type.sizes, number size.name size.default entries =
      number size.name size.default entries' := fun size hsize => h.size_eq hsize
  have htext : text? "text" entries = text? "text" entries' := h.text?_eq (by decide +kernel)
  have hfill : text? "fill" entries = text? "fill" entries' := h.text?_eq (by decide +kernel)
  have hsrc : text? "src" entries = text? "src" entries' := h.text?_eq (by decide +kernel)
  cases type with
  | text =>
    simp only [ObjectType.sizes, List.forall_mem_cons] at hsizes
    simp only [Frame.ofType?, Frame.text, htext, hsizes.1, h.angle_eq (.inl rfl)]
  | rect =>
    simp only [ObjectType.sizes, List.forall_mem_cons] at hsizes
    simp only [Frame.ofType?, Frame.rectangle, hfill, hsizes.1, hsizes.2.1]
  | line => simp only [Frame.ofType?, Frame.line, h.lineEnds_eq rfl]
  | circle =>
    simp only [ObjectType.sizes, List.forall_mem_cons] at hsizes
    simp only [Frame.ofType?, Frame.circle, hsizes.1]
  | ellipse =>
    simp only [ObjectType.sizes, List.forall_mem_cons] at hsizes
    simp only [Frame.ofType?, Frame.ellipse, hsizes.1, hsizes.2.1]
  | image =>
    simp only [ObjectType.sizes, List.forall_mem_cons] at hsizes
    simp only [Frame.ofType?, Frame.media, Frame.payload, hsrc, hsizes.1, hsizes.2.1,
      h.angle_eq (.inr rfl)]

theorem element?_eq (htype : ObjectType.ofValue? (entries.getOrNull "type") = .ok (some type)) :
    element? entries = element? entries' := by
  have htype' : ObjectType.ofValue? (entries'.getOrNull "type") = .ok (some type) := by
    rw [← h.getOrNull_eq (by decide +kernel), htype]
  have hdata : entries.getOrNull "data" = entries'.getOrNull "data" :=
    h.getOrNull_eq (by decide +kernel)
  rw [Canvas.element?_eq, Canvas.element?_eq, htype, htype', h.frame_eq, hdata]
  change (Frame.ofEntries entries' : Except Fault Frame) >>= _ =
    (Frame.ofEntries entries' : Except Fault Frame) >>= _
  exact bind_congr fun f => h.ofType?_eq f _

end ReadAlike

/-- An object with another value where its type has a number is taken as though the number's default
stood there. -/
theorem readAlike_insert {type : ObjectType} {p : Text × Number} {v : Value}
    (hp : p ∈ type.numbers) (hv : entries.get? p.1 = some v) (hnumber : v.number? = none) :
    ReadAlike type entries (entries.insert (.text p.1) (.number p.2)) where
  numbers := by
    intro q hq
    by_cases hname : p.1 = q.1
    · obtain rfl := type.name_unique p hp q hq hname
      have hother : ∀ n, v ≠ .number n := by
        rintro n rfl
        cases hnumber
      simp only [number, Entries.get?_insert_self, hv]
      split
      · next n hn => exact absurd (Option.some.inj hn) (hother n)
      · rfl
    · simp only [number, Entries.get?_insert_of_ne hname]
  has := by
    intro name
    by_cases hname : p.1 = name
    · subst hname
      simp only [Entries.has, Entries.get?_insert_self, hv, Option.isSome_some]
    · simp only [Entries.has, Entries.get?_insert_of_ne hname]
  others := by
    intro name hother
    have hname : p.1 ≠ name := fun heq => type.not_mem_otherNames p hp (heq ▸ hother)
    rw [Entries.get?_insert_of_ne hname]

end Canvas
end LabelPress
