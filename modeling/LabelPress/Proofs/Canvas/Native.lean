import LabelPress.Proofs.Canvas.Object
import LabelPress.Proofs.Document.Ingested

/-!
# Objects as entries of a document

An object of a canvas that is not scaled has the same fields as an element's mapping, under other
names. Renamed one by one, and read as a document is read, they give the element that the object is
converted to: the readers of both share their defaults. Only the numbers may be of the other type,
and for that they have to be exact as binary64 numbers.
-/

namespace LabelPress

namespace Number

def IsExact : Number → Prop
  | int n => |n| ≤ 2 * leastMantissa
  | real x => (real x).isNan = false

instance : DecidablePred IsExact
  | int n => inferInstanceAs (Decidable (|n| ≤ 2 * leastMantissa))
  | real x => inferInstanceAs (Decidable ((real x).isNan = false))

theorem IsExact.isNan_eq_false {x : Number} (h : x.IsExact) : x.isNan = false := by
  cases x with
  | int n => rfl
  | real x => exact h

theorem same_iff {a b : Number} : a.same b = true ↔ ∃ p, a.rank = some p ∧ b.rank = some p := by
  unfold same
  constructor
  · intro h
    split at h
    · next p q ha hb => exact ⟨q, by rw [ha, eq_of_beq h], hb⟩
    · cases h
  · rintro ⟨p, ha, hb⟩
    simp only [ha, hb, beq_self_eq_true]

theorem toRat_ofInt_of_isExact {n : Int} (h : (int n).IsExact) :
    (Binary64.ofInt n).isFinite = true ∧ (Binary64.ofInt n).toRat = n := by
  by_cases hlt : |n| < 2 * leastMantissa
  · exact Binary64.toRat_ofInt hlt
  · -- The bound itself has one binary digit too many, but is even.
    obtain ⟨k, hk, hn⟩ : ∃ k : Int, |k| < 2 * leastMantissa ∧ (n : Rat) = k * 2 ^ (1 : Int) := by
      have habs : |n| = 2 * leastMantissa := le_antisymm h (not_lt.mp hlt)
      rcases (abs_eq (by decide)).mp habs with rfl | rfl
      · exact ⟨leastMantissa, by decide, by push_cast; ring⟩
      · exact ⟨-leastMantissa, by decide, by push_cast; ring⟩
    have hround : (Binary64.round false (k * 2 ^ (1 : Int))).isFinite = true ∧
        (Binary64.round false (k * 2 ^ (1 : Int))).toRat = k * 2 ^ (1 : Int) :=
      Binary64.toRat_round_mul hk (by decide) (by decide)
    rwa [← hn] at hround

theorem IsExact.exists_toReal {x : Number} (h : x.IsExact) :
    ∃ y, x.toReal = .ok y ∧ (real y).same x = true := by
  cases x with
  | real y => exact ⟨y, rfl, same_self h⟩
  | int n =>
    obtain ⟨hfinite, hvalue⟩ := toRat_ofInt_of_isExact h
    have hbounded : (int n).IsBounded := Binary64.isFinite_round_iff.mp hfinite
    obtain ⟨y, hy, -⟩ := isBounded_iff_toReal.mp hbounded
    obtain rfl := eq_ofInt_of_toReal hy
    exact ⟨_, hy, same_iff.mpr ⟨(0, n), by rw [rank_real hfinite, hvalue], rfl⟩⟩

theorem ofInt_one : Binary64.ofInt 1 = .finite false leastMantissa (-52) (by decide) := by
  decide +kernel

theorem rank_real_mul_one {x : Binary64} (h : (real x).isNan = false) :
    (real (x.mul (Binary64.ofInt 1))).rank = (real x).rank := by
  rw [ofInt_one]
  cases x with
  | nan payload => cases h
  | infinity negative => cases negative <;> rfl
  | finite negative m e canonical =>
    obtain ⟨k, hk, hx⟩ : ∃ k : Int, |k| < 2 * leastMantissa ∧
        Binary64.toRat (.finite negative m e canonical) = k * 2 ^ e := by
      obtain ⟨hm, -⟩ := canonical
      refine ⟨if negative then -m else m, ?_, ?_⟩
      · cases negative <;> simp <;> omega
      · cases negative <;> simp [Binary64.toRat]
    have hone : Binary64.toRat (.finite false leastMantissa (-52) (by decide)) = 1 := by
      decide +kernel
    have hkept : (Binary64.round (negative != false) (k * 2 ^ e)).isFinite = true ∧
        (Binary64.round (negative != false) (k * 2 ^ e)).toRat = k * 2 ^ e :=
      Binary64.toRat_round_mul hk canonical.2.1 canonical.2.2.1
    rw [Binary64.mul, hone, mul_one, hx, rank_real hkept.1, hkept.2, ← hx]
    exact (rank_real rfl).symm

/-- What is scaled by one stays the same. -/
theorem exists_mul_one {x y : Number} (h : x.same y = true) :
    ∃ z, x.mul 1 = .ok z ∧ z.same y = true := by
  obtain ⟨p, hx, hy⟩ := same_iff.mp h
  cases x with
  | int n => exact ⟨int (n * 1), rfl, same_iff.mpr ⟨p, by rwa [mul_one], hy⟩⟩
  | real x =>
    have hnan : (real x).isNan = false := by
      cases x with
      | nan payload => cases hx
      | _ => rfl
    refine ⟨real (x.mul (Binary64.ofInt 1)), ?_, same_iff.mpr ⟨p, ?_, hy⟩⟩
    · have hone : (1 : Number).toReal = .ok (Binary64.ofInt 1) := toReal_int (by decide)
      rw [mul, hone]
      · rfl
      · rintro _ _ ⟨⟩
    · rw [rank_real_mul_one hnan, hx]

end Number

/-! ## Mappings of optional fields -/

def Value.ofPresent (fields : List (Text × Option Value)) : Value :=
  .ofFields (fields.filterMap fun field => field.2.map (field.1, ·))

namespace Entries
variable {fields : List (Text × Option Value)} {name : Text}

theorem get?_ofPresent_eq_none (h : name ∉ fields.map Prod.fst) :
    (Value.ofPresent fields).entries.get? name = none := by
  refine get?_ofFields_eq_none fun hmem => h ?_
  obtain ⟨⟨_, v⟩, hfield, rfl⟩ := List.mem_map.mp hmem
  obtain ⟨field, hmem', hsome⟩ := List.mem_filterMap.mp hfield
  obtain ⟨w, -, hw⟩ := Option.map_eq_some_iff.mp hsome
  cases hw
  exact List.mem_map_of_mem hmem'

theorem get?_ofPresent (h : (fields.map Prod.fst).Nodup) :
    ∀ field ∈ fields, (Value.ofPresent fields).entries.get? field.1 = field.2 := by
  induction fields with
  | nil => exact fun field hfield => nomatch hfield
  | cons first rest ih =>
    obtain ⟨hnew, hrest⟩ := List.nodup_cons.mp h
    obtain ⟨k, v⟩ := first
    refine List.forall_mem_cons.mpr ⟨?_, fun field hfield => ?_⟩
    · cases v with
      | none =>
        have hnone : (Value.ofPresent rest).entries.get? k = none := get?_ofPresent_eq_none hnew
        exact hnone
      | some v => exact if_pos rfl
    · have hmem : field.1 ∈ rest.map Prod.fst := List.mem_map_of_mem hfield
      have hne : k ≠ field.1 := fun heq => hnew (heq ▸ hmem)
      cases v with
      | none => exact ih hrest field hfield
      | some v => exact (if_neg hne).trans (ih hrest field hfield)

end Entries

namespace Canvas
variable {o : Entries} {name : Text}

/-! ## Renamed objects -/

def ObjectType.kind : ObjectType → ElementKind
  | text => .text
  | rect => .rectangle
  | line => .line
  | circle | ellipse => .circle
  | image => .media

def nativePoints (o : Entries) : Option Value :=
  match o.get? "points" with
  | some v => some v
  | none => do
    let x₁ ← o.get? "x1"
    let y₁ ← o.get? "y1"
    let x₂ ← o.get? "x2"
    let y₂ ← o.get? "y2"
    return .list [x₁, y₁, x₂, y₂]

def shownKind (data : Entries) : PayloadKind :=
  if flag "isBarcode" false data then .barcode
  else if flag "isQRCode" false data then .qr
  else .raster

def payloadFields (o data : Entries) : PayloadKind → List (Text × Option Value)
  | .barcode => [
      ("format", data.get? "format"),
      ("value", data.get? "value")]
  | .qr => [("value", data.get? "value")]
  | .raster => [("source", o.get? "src")]

def payloadOf (o data : Entries) (kind : PayloadKind) : List (Text × Option Value) :=
  ("type", some (.text kind.word)) :: payloadFields o data kind

def nativePayload (o data : Entries) : Value := .ofPresent (payloadOf o data (shownKind data))

def ObjectType.nativeFields (o data : Entries) : ObjectType → List (Text × Option Value)
  | text => [
      ("text", o.get? "text"),
      ("font_size", o.get? "fontSize"),
      ("angle", o.get? "angle"),
      ("is_dynamic", data.get? "isDynamic"),
      ("field_key", data.get? "field")]
  | rect => [
      ("width", o.get? "width"),
      ("height", o.get? "height"),
      ("fill", o.get? "fill"),
      ("stroke_width", o.get? "strokeWidth")]
  | line => [
      ("points", nativePoints o),
      ("stroke_width", o.get? "strokeWidth")]
  | circle => [
      ("radius", o.get? "radius"),
      ("stroke_width", o.get? "strokeWidth")]
  | ellipse => [
      ("radius", some ((o.get? "rx").getD (.number 0))),
      ("radius_y", some ((o.get? "ry").getD (.number 0))),
      ("stroke_width", o.get? "strokeWidth")]
  | image => [
      ("width", o.get? "width"),
      ("height", o.get? "height"),
      ("angle", o.get? "angle"),
      ("is_dynamic", some ((data.get? "isDynamic").getD (.bool true))),
      ("field_key", data.get? "field"),
      ("payload", some (nativePayload o data))]

def ObjectType.allFields (o : Entries) (type : ObjectType) : List (Text × Option Value) :=
  ("kind", some (.text type.kind.word)) ::
  ("x", o.get? "left") ::
  ("y", o.get? "top") ::
  ("stroke", o.get? "stroke") :: type.nativeFields o (o.getOrNull "data").entries

def native (type : ObjectType) (o : Entries) : Value := .ofPresent (type.allFields o)

/-! ## Objects as the designer writes them -/

def IsExactNumber (v : Value) : Prop := ∃ n, v = .number n ∧ n.IsExact

def IsText (v : Value) : Prop := ∃ s, v = .text s

def IsBool (v : Value) : Prop := ∃ b, v = .bool b

def Allows (o : Entries) (name : Text) (p : Value → Prop) : Prop := ∀ v ∈ o.get? name, p v

def flagNames : List Text := ["isDynamic", "isBarcode", "isQRCode"]

def boundNames : List Text := ["field", "format", "value"]

theorem allows_of_none {p : Value → Prop} (h : o.get? name = none) : Allows o name p := by
  rw [Allows, h]
  exact fun v hv => nomatch hv

structure IsTidyData (data : Entries) : Prop where
  flags : ∀ name ∈ flagNames, Allows data name IsBool
  texts : ∀ name ∈ boundNames, Allows data name IsText

def scaleNames : List Text := ["scaleX", "scaleY"]

def textNames : List Text := ["text", "fill", "stroke", "src"]

/-- An object that is not scaled, with values of the right types only. -/
structure IsTidy (type : ObjectType) (o : Entries) : Prop where
  unscaled : ∀ name ∈ scaleNames, o.get? name = none
  numbers : ∀ p ∈ type.numbers, Allows o p.1 IsExactNumber
  points : Allows o "points" fun v =>
    ∃ a b c d, v.head = .list [a, b, c, d] ∧ ∀ w ∈ [a, b, c, d], IsExactNumber w
  texts : ∀ name ∈ textNames, Allows o name IsText
  data : Allows o "data" fun v => ∃ data, v.head = .mapping data ∧ IsTidyData data

theorem IsTidy.isTidyData {type : ObjectType} (h : IsTidy type o) :
    IsTidyData (o.getOrNull "data").entries := by
  cases hdata : o.get? "data" with
  | none =>
    rw [Entries.getOrNull, hdata]
    exact ⟨fun _ _ => allows_of_none rfl, fun _ _ => allows_of_none rfl⟩
  | some v =>
    obtain ⟨data, hhead, htidy⟩ := h.data v hdata
    rw [Entries.getOrNull_of_get? hdata, Value.entries, hhead]
    exact htidy

/-! ## The same defaults -/

section Fields
variable {e : Entries} {new old : Text} {default : Number}

theorem number_isExact (h : Allows o name IsExactNumber) (hdefault : default.IsExact) :
    (number name default o).IsExact := by
  unfold number
  split
  · next n hn =>
    obtain ⟨m, hm, hexact⟩ := h _ hn
    cases hm
    exact hexact
  · exact hdefault

theorem number_renamed (hget : e.get? new = o.get? old) (h : Allows o old IsExactNumber) :
    e.number new default = .ok (number old default o) := by
  cases hold : o.get? old with
  | none =>
    simp only [Entries.number, Entries.optionalNumber, Entries.getOrNull, number, hget, hold]
    rfl
  | some v =>
    obtain ⟨n, rfl, -⟩ := h v hold
    rw [Entries.number_of_get? (hget.trans hold), number, hold]

/-- A number that stands in the place of a missing one. -/
theorem getD_number (h : Allows o name IsExactNumber) :
    (o.get? name).getD (.number default) = .number (number name default o) := by
  cases hname : o.get? name with
  | none => rw [number, hname, Option.getD_none]
  | some v =>
    obtain ⟨n, rfl, -⟩ := h v hname
    rw [number, hname, Option.getD_some]

theorem text_renamed (hget : e.get? new = o.get? old) (h : Allows o old IsText) :
    ∃ s, text? old o = .ok s ∧ e.optionalText new = .ok s := by
  cases hold : o.get? old with
  | none =>
    refine ⟨none, ?_, Entries.optionalText_of_get?_eq_none (hget.trans hold)⟩
    rw [text?, Entries.getOrNull, hold]
    rfl
  | some v =>
    obtain ⟨s, rfl⟩ := h v hold
    refine ⟨some s, ?_, Entries.optionalText_of_get? (s := some s) (hget.trans hold)⟩
    rw [text?, Entries.getOrNull_of_get? hold]
    rfl

theorem flag_renamed (hget : e.get? new = o.get? old) (default : Bool) :
    e.flag new default = flag old default o := by
  have hflag : flag old default o = Entries.flag old default o := rfl
  rw [hflag, Entries.flag, Entries.flag, hget]

end Fields

/-! ## Types one by one -/

namespace IsTidy
variable {type : ObjectType} (h : IsTidy type o)
include h

theorem allows_number (hname : name ∈ type.numbers.map Prod.fst) :
    Allows o name IsExactNumber := by
  obtain ⟨p, hp, rfl⟩ := List.mem_map.mp hname
  exact h.numbers p hp

theorem names_distinct : ((type.allFields o).map Prod.fst).Nodup := by
  cases type <;> simp only [ObjectType.allFields, ObjectType.nativeFields, List.map] <;> decide

theorem same_number (name : Text) (default : Number) (hname : name ∈ type.numbers.map Prod.fst)
    (hdefault : default.IsExact) :
    (number name default o).same (number name default o) = true :=
  Number.same_self (number_isExact (h.allows_number hname) hdefault).isNan_eq_false

/-- What a number of an object is scaled to where there is no scale. -/
theorem exists_size (name : Text) (default : Number) (hname : name ∈ type.numbers.map Prod.fst)
    (hdefault : default.IsExact) :
    ∃ z, (number name default o).mul 1 = .ok z ∧ z.same (number name default o) = true :=
  Number.exists_mul_one (h.same_number name default hname hdefault)

theorem get?_native : ∀ field ∈ type.allFields o,
    (native type o).entries.get? field.1 = field.2 :=
  Entries.get?_ofPresent h.names_distinct

end IsTidy

structure Frame.IsShared (type : ObjectType) (o : Entries) (f : Frame) : Prop where
  frame : Frame.ofEntries o = .ok f
  scaleX : f.scaleX = 1
  scaleY : f.scaleY = 1
  strokeWidth : f.strokeWidth = number "strokeWidth" 1 o
  kind : ElementKind.ofValue? ((native type o).entries.getOrNull "kind") = some type.kind
  position : Point.ofEntries (native type o).entries = .ok f.position
  stroke : (native type o).entries.optionalText "stroke" = .ok f.stroke
  same_position : f.position.agrees Number.same f.position = true
  own : ∀ field ∈ type.nativeFields o (o.getOrNull "data").entries,
    (native type o).entries.get? field.1 = field.2

namespace IsTidy
variable {type : ObjectType} (h : IsTidy type o)
include h

theorem exists_isShared : ∃ f : Frame, f.IsShared type o := by
  have hget := h.get?_native
  simp only [ObjectType.allFields, List.forall_mem_cons] at hget
  obtain ⟨hkind, hx, hy, hstroke, hown⟩ := hget
  obtain ⟨s, hs, hs'⟩ := text_renamed hstroke (h.texts _ (by decide))
  have hleft : ("left" : Text) ∈ type.numbers.map Prod.fst := by cases type <;> decide
  have htop : ("top" : Text) ∈ type.numbers.map Prod.fst := by cases type <;> decide
  refine ⟨⟨⟨number "left" 0 o, number "top" 0 o⟩, 1, 1, s, number "strokeWidth" 1 o⟩,
    ?_, rfl, rfl, rfl, ?_, ?_, hs', ?_, hown⟩
  · have hunit : ∀ name ∈ scaleNames, number name 1 o = 1 := by
      intro name hname
      rw [number, h.unscaled name hname]
    simp only [scaleNames, List.forall_mem_cons] at hunit
    obtain ⟨hsx, hsy, -⟩ := hunit
    simp only [Frame.ofEntries, hs, hsx, hsy]
    rfl
  · rw [Entries.getOrNull_of_get? hkind]
    cases type <;> rfl
  · simp only [Point.ofEntries, number_renamed hx (h.allows_number hleft),
      number_renamed hy (h.allows_number htop)]
    rfl
  · rw [Point.agrees, h.same_number _ _ hleft (by decide), h.same_number _ _ htop (by decide)]
    rfl

end IsTidy

def ofKind? (position : Point) (stroke : Option Text) (e : Entries) :
    ElementKind → Except Fault (Option Element)
  | .text => do return some (.text (← TextField.ofEntries position stroke e))
  | .rectangle => do return some (.rectangle (← Rectangle.ofEntries position stroke e))
  | .line => do return some (.line (← Line.ofEntries position stroke e))
  | .circle => do return some (.circle (← Circle.ofEntries position stroke e))
  | .media => do return (← Media.ofEntries? position stroke e).map .media

def GiveSame (x y : Except Fault (Option Element)) : Prop :=
  ∃ e e', x = .ok (some e) ∧ y = .ok (some e') ∧ e.agrees Number.same e' = true

def Frame.AgreesOn (f : Frame) (o : Entries) (type : ObjectType) : Prop :=
  GiveSame (f.ofType? o (o.getOrNull "data").entries (some type))
    (ofKind? f.position f.stroke (native type o).entries type.kind)

namespace Frame.IsShared
variable {f : Frame}

theorem element?_eq {type : ObjectType} (hf : f.IsShared type o)
    (htype : ObjectType.ofValue? (o.getOrNull "type") = .ok (some type)) :
    element? o = f.ofType? o (o.getOrNull "data").entries (some type) := by
  rw [Canvas.element?_eq, htype, hf.frame]
  rfl

theorem ofValue?_eq {type : ObjectType} (hf : f.IsShared type o) :
    Element.ofValue? (native type o) =
      ofKind? f.position f.stroke (native type o).entries type.kind := by
  have hmap : (native type o).mustMap "element" = .ok (native type o).entries := rfl
  simp only [Element.ofValue?, hmap, hf.position, hf.stroke, hf.kind, bind, Except.bind]
  cases type.kind <;> rfl

theorem text_agrees (hf : f.IsShared .text o) (h : IsTidy .text o) : f.AgreesOn o .text := by
  have hown := hf.own
  simp only [ObjectType.nativeFields, List.forall_mem_cons] at hown
  obtain ⟨htext, hsize, hangle, hdynamic, hkey, -⟩ := hown
  obtain ⟨s, hs, hs'⟩ := text_renamed htext (h.texts _ (by decide))
  obtain ⟨k, hk, hk'⟩ := text_renamed hkey (h.isTidyData.texts _ (by decide))
  obtain ⟨z, hz, hsame⟩ := h.exists_size "fontSize" 20 (by decide) (by decide)
  have hread : f.text o (o.getOrNull "data").entries = .ok ⟨f.position, s.getD "", z,
      number "angle" 0 o, flag "isDynamic" false (o.getOrNull "data").entries, k, f.stroke⟩ := by
    simp only [Frame.text, hs, hk, hf.scaleY, hz]
    rfl
  have hread' : TextField.ofEntries f.position f.stroke (native .text o).entries = .ok ⟨f.position,
      s.getD "", number "fontSize" 20 o, number "angle" 0 o,
      flag "isDynamic" false (o.getOrNull "data").entries, k, f.stroke⟩ := by
    simp only [TextField.ofEntries, hs', hk', flag_renamed hdynamic,
      number_renamed hsize (h.allows_number (by decide)),
      number_renamed hangle (h.allows_number (by decide))]
    rfl
  refine ⟨_, _, bind_eq_ok.mpr ⟨_, liftArithmetic_eq_ok.mpr hread, rfl⟩,
    bind_eq_ok.mpr ⟨_, hread', rfl⟩, ?_⟩
  simp only [Element.agrees, hf.same_position, hsame,
    h.same_number "angle" 0 (by decide) (by decide), beq_self_eq_true, Bool.and_true]

theorem rectangle_agrees (hf : f.IsShared .rect o) (h : IsTidy .rect o) : f.AgreesOn o .rect := by
  have hown := hf.own
  simp only [ObjectType.nativeFields, List.forall_mem_cons] at hown
  obtain ⟨hwidth, hheight, hfill, hstroke, -⟩ := hown
  obtain ⟨s, hs, hs'⟩ := text_renamed hfill (h.texts _ (by decide))
  obtain ⟨w, hw, hsamew⟩ := h.exists_size "width" 0 (by decide) (by decide)
  obtain ⟨z, hz, hsamez⟩ := h.exists_size "height" 0 (by decide) (by decide)
  have hread : f.rectangle o = .ok ⟨f.position, w, z, s, f.strokeWidth, f.stroke⟩ := by
    simp only [Frame.rectangle, hs, hf.scaleX, hf.scaleY, hw, hz]
    rfl
  have hread' : Rectangle.ofEntries f.position f.stroke (native .rect o).entries = .ok
      ⟨f.position, number "width" 0 o, number "height" 0 o, s, number "strokeWidth" 1 o,
        f.stroke⟩ := by
    simp only [Rectangle.ofEntries, hs', number_renamed hwidth (h.allows_number (by decide)),
      number_renamed hheight (h.allows_number (by decide)),
      number_renamed hstroke (h.allows_number (by decide))]
    rfl
  refine ⟨_, _, bind_eq_ok.mpr ⟨_, liftArithmetic_eq_ok.mpr hread, rfl⟩,
    bind_eq_ok.mpr ⟨_, hread', rfl⟩, ?_⟩
  simp only [Element.agrees, hf.same_position, hsamew, hsamez, hf.strokeWidth,
    h.same_number "strokeWidth" 1 (by decide) (by decide), beq_self_eq_true, Bool.and_true]

theorem circle_agrees (hf : f.IsShared .circle o) (h : IsTidy .circle o) :
    f.AgreesOn o .circle := by
  have hown := hf.own
  simp only [ObjectType.nativeFields, List.forall_mem_cons] at hown
  obtain ⟨hradius, hstroke, -⟩ := hown
  have hnone : (native .circle o).entries.optionalNumber "radius_y" = .ok none := by
    rw [Entries.optionalNumber, Entries.getOrNull, native, Entries.get?_ofPresent_eq_none (by
      simp only [ObjectType.allFields, ObjectType.nativeFields, List.map]
      decide)]
    rfl
  obtain ⟨z, hz, hsame⟩ := h.exists_size "radius" 0 (by decide) (by decide)
  have hread : f.circle o = .ok ⟨f.position, z, f.strokeWidth, none, f.stroke⟩ := by
    simp only [Frame.circle, hf.scaleX, hz]
    rfl
  have hread' : Circle.ofEntries f.position f.stroke (native .circle o).entries = .ok
      ⟨f.position, number "radius" 0 o, number "strokeWidth" 1 o, none, f.stroke⟩ := by
    simp only [Circle.ofEntries, hnone, number_renamed hradius (h.allows_number (by decide)),
      number_renamed hstroke (h.allows_number (by decide))]
    rfl
  refine ⟨_, _, bind_eq_ok.mpr ⟨_, liftArithmetic_eq_ok.mpr hread, rfl⟩,
    bind_eq_ok.mpr ⟨_, hread', rfl⟩, ?_⟩
  simp only [Element.agrees, Element.agrees.radiusAgrees, hf.same_position, hsame, hf.strokeWidth,
    h.same_number "strokeWidth" 1 (by decide) (by decide), beq_self_eq_true, Bool.and_true]

theorem ellipse_agrees (hf : f.IsShared .ellipse o) (h : IsTidy .ellipse o) :
    f.AgreesOn o .ellipse := by
  have hown := hf.own
  simp only [ObjectType.nativeFields, List.forall_mem_cons] at hown
  obtain ⟨hradius, hradiusY, hstroke, -⟩ := hown
  obtain ⟨w, hw, hsamew⟩ := h.exists_size "rx" 0 (by decide) (by decide)
  obtain ⟨z, hz, hsamez⟩ := h.exists_size "ry" 0 (by decide) (by decide)
  have hread : f.ellipse o = .ok ⟨f.position, w, f.strokeWidth, some z, f.stroke⟩ := by
    simp only [Frame.ellipse, hf.scaleX, hf.scaleY, hw, hz]
    rfl
  have hread' : Circle.ofEntries f.position f.stroke (native .ellipse o).entries = .ok
      ⟨f.position, number "rx" 0 o, number "strokeWidth" 1 o, some (number "ry" 0 o),
        f.stroke⟩ := by
    have hrx : (native .ellipse o).entries.get? "radius" = some (.number (number "rx" 0 o)) := by
      rw [hradius, getD_number (h.allows_number (by decide))]
    have hry : (native .ellipse o).entries.get? "radius_y" = some (.number (number "ry" 0 o)) := by
      rw [hradiusY, getD_number (h.allows_number (by decide))]
    have hry' := Entries.optionalNumber_of_get? (n := some (number "ry" 0 o)) hry
    simp only [Circle.ofEntries, Entries.number_of_get? hrx, hry',
      number_renamed hstroke (h.allows_number (by decide))]
    rfl
  refine ⟨_, _, bind_eq_ok.mpr ⟨_, liftArithmetic_eq_ok.mpr hread, rfl⟩,
    bind_eq_ok.mpr ⟨_, hread', rfl⟩, ?_⟩
  simp only [Element.agrees, Element.agrees.radiusAgrees, hf.same_position, hsamew, hsamez,
    hf.strokeWidth, h.same_number "strokeWidth" 1 (by decide) (by decide), beq_self_eq_true,
    Bool.and_true]

end Frame.IsShared

/-! ## Lines -/

theorem exists_coordinate {n : Number} (h : n.IsExact) :
    ∃ x, coordinate (.number n) = .ok x ∧ x.same n = true := by
  obtain ⟨y, hy, hsame⟩ := h.exists_toReal
  exact ⟨.real y, bind_eq_ok.mpr ⟨y, liftArithmetic_eq_ok.mpr hy, rfl⟩, hsame⟩

/-- The ends of a line that has no list of points. -/
theorem nativePoints_of_none (h : o.get? "points" = none) :
    (hasEnds o = true ∧ ∃ a b c d, o.get? "x1" = some a ∧ o.get? "y1" = some b ∧
      o.get? "x2" = some c ∧ o.get? "y2" = some d ∧ nativePoints o = some (.list [a, b, c, d])) ∨
    hasEnds o = false ∧ nativePoints o = none := by
  cases hx₁ : o.get? "x1" <;> cases hy₁ : o.get? "y1" <;> cases hx₂ : o.get? "x2" <;>
    cases hy₂ : o.get? "y2" <;>
    simp [hasEnds, Entries.has, nativePoints, h, hx₁, hy₁, hx₂, hy₂]

/-- Both readers find the same ends of a line. -/
theorem exists_ends (h : IsTidy .line o) {v : Value} (hv : v = (nativePoints o).getD .null) :
    ∃ p q p' q', lineEnds o = .ok (p, q) ∧ Line.endsOf v = .ok (p', q') ∧
      p.agrees Number.same p' = true ∧ q.agrees Number.same q' = true := by
  -- Numbers of a list are turned into binary64 numbers, those of the four fields are kept.
  cases hpoints : o.get? "points" with
  | some w =>
    obtain ⟨a, b, c, d, hhead, hnumbers⟩ := h.points w hpoints
    simp only [List.forall_mem_cons] at hnumbers
    obtain ⟨⟨a, rfl, ha⟩, ⟨b, rfl, hb⟩, ⟨c, rfl, hc⟩, ⟨d, rfl, hd⟩, -⟩ := hnumbers
    obtain ⟨x₁, hx₁, hsx₁⟩ := exists_coordinate ha
    obtain ⟨y₁, hy₁, hsy₁⟩ := exists_coordinate hb
    obtain ⟨x₂, hx₂, hsx₂⟩ := exists_coordinate hc
    obtain ⟨y₂, hy₂, hsy₂⟩ := exists_coordinate hd
    have hread : lineEnds o = .ok (⟨x₁, y₁⟩, ⟨x₂, y₂⟩) := by
      simp only [lineEnds, Entries.getOrNull_of_get? hpoints, hhead, hx₁, hy₁, hx₂, hy₂]
      rfl
    have hread' : Line.endsOf v = .ok (⟨a, b⟩, ⟨c, d⟩) := by
      have hw : v = w := by rw [hv, nativePoints, hpoints, Option.getD_some]
      simp only [Line.endsOf, hw, hhead]
      rfl
    refine ⟨_, _, _, _, hread, hread', ?_, ?_⟩
    · rw [Point.agrees, hsx₁, hsy₁, Bool.and_self]
    · rw [Point.agrees, hsx₂, hsy₂, Bool.and_self]
  | none =>
    have hnull : (o.getOrNull "points").head = .null := by
      rw [Entries.getOrNull, hpoints]
      rfl
    rcases nativePoints_of_none hpoints with ⟨hends, a, b, c, d, ha, hb, hc, hd, hnative⟩ |
      ⟨hends, hnative⟩
    · obtain ⟨a, rfl, -⟩ := h.allows_number (by decide) a ha
      obtain ⟨b, rfl, -⟩ := h.allows_number (by decide) b hb
      obtain ⟨c, rfl, -⟩ := h.allows_number (by decide) c hc
      obtain ⟨d, rfl, -⟩ := h.allows_number (by decide) d hd
      have hread : lineEnds o = .ok (⟨number "x1" 0 o, number "y1" 0 o⟩,
          ⟨number "x2" 0 o, number "y2" 0 o⟩) := by
        rw [hasEnds] at hends
        simp only [lineEnds, hnull, hends, if_true]
        rfl
      have hread' : Line.endsOf v = .ok (⟨number "x1" 0 o, number "y1" 0 o⟩,
          ⟨number "x2" 0 o, number "y2" 0 o⟩) := by
        simp only [hv, hnative, Option.getD_some, number, ha, hb, hc, hd]
        rfl
      refine ⟨_, _, _, _, hread, hread', ?_, ?_⟩
      · rw [Point.agrees, h.same_number "x1" 0 (by decide) (by decide),
          h.same_number "y1" 0 (by decide) (by decide), Bool.and_self]
      · rw [Point.agrees, h.same_number "x2" 0 (by decide) (by decide),
          h.same_number "y2" 0 (by decide) (by decide), Bool.and_self]
    · have hread : lineEnds o = .ok (⟨0, 0⟩, ⟨100, 0⟩) := by
        rw [hasEnds] at hends
        simp only [lineEnds, hnull, hends, Bool.false_eq_true, if_false]
        rfl
      have hread' : Line.endsOf v = .ok (⟨0, 0⟩, ⟨100, 0⟩) := by
        rw [hv, hnative]
        rfl
      exact ⟨_, _, _, _, hread, hread', by decide +kernel, by decide +kernel⟩

namespace Frame.IsShared
variable {f : Frame}

theorem exists_scaled {type : ObjectType} (hf : f.IsShared type o) {p q : Point}
    (h : p.agrees Number.same q = true) :
    ∃ p', f.scaled p = .ok p' ∧ p'.agrees Number.same q = true := by
  obtain ⟨hx, hy⟩ := Bool.and_eq_true_iff.mp h
  obtain ⟨x, hx, hsamex⟩ := Number.exists_mul_one hx
  obtain ⟨y, hy, hsamey⟩ := Number.exists_mul_one hy
  refine ⟨⟨x, y⟩, ?_, Bool.and_eq_true_iff.mpr ⟨hsamex, hsamey⟩⟩
  simp only [scaled, hf.scaleX, hf.scaleY, hx, hy]
  rfl

theorem line_agrees (hf : f.IsShared .line o) (h : IsTidy .line o) : f.AgreesOn o .line := by
  have hown := hf.own
  simp only [ObjectType.nativeFields, List.forall_mem_cons] at hown
  obtain ⟨hpoints, hstroke, -⟩ := hown
  have hv : (native .line o).entries.getOrNull "points" = (nativePoints o).getD .null := by
    rw [Entries.getOrNull, hpoints]
  obtain ⟨p, q, p', q', hends, hends', hp, hq⟩ := exists_ends h hv
  obtain ⟨start, hstart, hsame⟩ := hf.exists_scaled hp
  obtain ⟨finish, hfinish, hsame'⟩ := hf.exists_scaled hq
  have hread : f.line o = .ok ⟨f.position, start, finish, f.strokeWidth, f.stroke⟩ := by
    simp only [Frame.line, hends, bind, Except.bind, hstart, hfinish]
    rfl
  have hread' : Line.ofEntries f.position f.stroke (native .line o).entries =
      .ok ⟨f.position, p', q', number "strokeWidth" 1 o, f.stroke⟩ := by
    simp only [Line.ofEntries, hends', number_renamed hstroke (h.allows_number (by decide))]
    rfl
  refine ⟨_, _, bind_eq_ok.mpr ⟨_, hread, rfl⟩, bind_eq_ok.mpr ⟨_, hread', rfl⟩, ?_⟩
  simp only [Element.agrees, hf.same_position, hsame, hsame', hf.strokeWidth,
    h.same_number "strokeWidth" 1 (by decide) (by decide), beq_self_eq_true, Bool.and_true]

end Frame.IsShared

/-! ## Images -/

theorem payload_eq (o data : Entries) : Frame.payload o data = (do
    match shownKind data with
    | .barcode =>
      let format ← text? "format" data
      return .barcode (Payload.formatName format) (← text? "value" data)
    | .qr => return .qr (← text? "value" data)
    | .raster => return .raster (← text? "src" o)) := by
  unfold Frame.payload shownKind
  cases flag "isBarcode" false data <;> cases flag "isQRCode" false data <;> rfl

/-- The payload of a mapping that names its type. -/
theorem ofValue?_ofPresent {fields : List (Text × Option Value)} {kind : PayloadKind}
    (h : (Value.ofPresent fields).entries.get? "type" = some (.text kind.word)) :
    Payload.ofValue? (.ofPresent fields) = (do
      let entries := (Value.ofPresent fields).entries
      match kind with
      | .barcode =>
        let format ← entries.optionalText "format"
        return some (.barcode (Payload.formatName format) (← entries.optionalText "value"))
      | .qr => return some (.qr (← entries.optionalText "value"))
      | .raster => return some (.raster (← entries.optionalText "source"))) := by
  have hmap : (Value.ofPresent fields).mustMap "payload" =
    .ok (Value.ofPresent fields).entries := rfl
  have hkind : PayloadKind.ofValue? (.text kind.word) = some kind := by cases kind <;> rfl
  rw [Payload.ofValue?]
  · simp only [hmap, bind, Except.bind, h, Option.elim_some, hkind]
    cases kind <;> rfl
  · exact fun hnull => nomatch hnull

/-- Both readers find the same payload. -/
theorem exists_payload (hsrc : Allows o "src" IsText) {data : Entries} (h : IsTidyData data) :
    ∃ p, Frame.payload o data = .ok p ∧ Payload.ofValue? (nativePayload o data) = .ok (some p) := by
  have htexts := h.texts
  simp only [boundNames, List.forall_mem_cons] at htexts
  obtain ⟨-, hformat, hvalue, -⟩ := htexts
  rw [payload_eq, nativePayload]
  generalize shownKind data = kind
  have hdistinct : ((payloadOf o data kind).map Prod.fst).Nodup := by
    cases kind <;> simp only [payloadOf, payloadFields, List.map] <;> decide
  have hfields := Entries.get?_ofPresent hdistinct
  rw [ofValue?_ofPresent (hfields _ List.mem_cons_self)]
  generalize (Value.ofPresent (payloadOf o data kind)).entries = e at hfields ⊢
  obtain ⟨-, hfields⟩ := List.forall_mem_cons.mp hfields
  cases kind with
  | barcode =>
    simp only [payloadFields, List.forall_mem_cons] at hfields
    obtain ⟨s, hs, hs'⟩ := text_renamed hfields.1 hformat
    obtain ⟨t, ht, ht'⟩ := text_renamed hfields.2.1 hvalue
    refine ⟨.barcode (Payload.formatName s) t, ?_, ?_⟩
    · simp only [hs, ht]
      rfl
    · simp only [hs', ht']
      rfl
  | qr =>
    obtain ⟨t, ht, ht'⟩ := text_renamed (List.forall_mem_cons.mp hfields).1 hvalue
    refine ⟨.qr t, ?_, ?_⟩
    · simp only [ht]
      rfl
    · simp only [ht']
      rfl
  | raster =>
    obtain ⟨t, ht, ht'⟩ := text_renamed (List.forall_mem_cons.mp hfields).1 hsrc
    refine ⟨.raster t, ?_, ?_⟩
    · simp only [ht]
      rfl
    · simp only [ht']
      rfl

/-- The announcement of a binding, or its default, as a truth value. -/
theorem getD_flag {data : Entries} {default : Bool} (h : Allows data name IsBool) :
    (data.get? name).getD (.bool default) = .bool (flag name default data) := by
  cases hname : data.get? name with
  | none => rw [flag, hname, Option.getD_none]
  | some v =>
    obtain ⟨b, rfl⟩ := h v hname
    rw [flag, hname, Option.getD_some]
    rfl

namespace Frame.IsShared
variable {f : Frame}

theorem media_agrees (hf : f.IsShared .image o) (h : IsTidy .image o) : f.AgreesOn o .image := by
  have hown := hf.own
  simp only [ObjectType.nativeFields, List.forall_mem_cons] at hown
  obtain ⟨hwidth, hheight, hangle, hdynamic, hkey, hpayload, -⟩ := hown
  obtain ⟨k, hk, hk'⟩ := text_renamed hkey (h.isTidyData.texts _ (by decide))
  obtain ⟨p, hp, hp'⟩ := exists_payload (h.texts _ (by decide)) h.isTidyData
  obtain ⟨w, hw, hsamew⟩ := h.exists_size "width" 100 (by decide) (by decide)
  obtain ⟨z, hz, hsamez⟩ := h.exists_size "height" 100 (by decide) (by decide)
  rw [getD_flag (h.isTidyData.flags _ (by decide))] at hdynamic
  have hread : f.media o (o.getOrNull "data").entries = .ok ⟨f.position, p, w, z,
      number "angle" 0 o, flag "isDynamic" true (o.getOrNull "data").entries, k, f.stroke⟩ := by
    simp only [Frame.media, hp, hk, hf.scaleX, hf.scaleY, hw, hz]
    rfl
  have hread' : Media.ofEntries? f.position f.stroke (native .image o).entries =
      .ok (some ⟨f.position, p, number "width" 100 o, number "height" 100 o, number "angle" 0 o,
        flag "isDynamic" true (o.getOrNull "data").entries, k, f.stroke⟩) := by
    simp only [Media.ofEntries?, Entries.getOrNull_of_get? hpayload, hp', hk',
      Entries.flag_of_get? hdynamic, number_renamed hwidth (h.allows_number (by decide)),
      number_renamed hheight (h.allows_number (by decide)),
      number_renamed hangle (h.allows_number (by decide))]
    rfl
  refine ⟨_, _, bind_eq_ok.mpr ⟨_, liftArithmetic_eq_ok.mpr hread, rfl⟩,
    bind_eq_ok.mpr ⟨_, hread', rfl⟩, ?_⟩
  simp only [Element.agrees, hf.same_position, hsamew, hsamez,
    h.same_number "angle" 0 (by decide) (by decide), beq_self_eq_true, Bool.and_true]

end Frame.IsShared

/-! ## Both readers -/

/-- An object of a type that is printed, not scaled and with values of the right types only, is
converted to the element that its fields give when they are read, under the names that they have
there, as an element's mapping of a document. -/
theorem element_same_as_native {type : ObjectType} {o : Entries}
    (htype : ObjectType.ofValue? (o.getOrNull "type") = .ok (some type)) (h : IsTidy type o) :
    ∃ e e', element? o = .ok (some e) ∧ Element.ofValue? (native type o) = .ok (some e') ∧
      e.agrees Number.same e' = true := by
  obtain ⟨f, hf⟩ := h.exists_isShared
  rw [hf.element?_eq htype, hf.ofValue?_eq]
  cases type with
  | text => exact hf.text_agrees h
  | rect => exact hf.rectangle_agrees h
  | line => exact hf.line_agrees h
  | circle => exact hf.circle_agrees h
  | ellipse => exact hf.ellipse_agrees h
  | image => exact hf.media_agrees h

def endlessLine : Entries := [
  (.text "type", .text "LI_NE"),
  (.text "left", .number 5),
  (.text "points", .list [.number 0, .number 9007199254740992, .number (.real (.infinity false)),
    .number (.real Binary64.half)])]

theorem endlessLine_same_as_native :
    (ObjectType.ofValue? (endlessLine.getOrNull "type") = .ok (some .line) ∧
      IsTidy .line endlessLine) ∧
    ∃ e e', element? endlessLine = .ok (some e) ∧
      Element.ofValue? (native .line endlessLine) = .ok (some e') ∧
      e.agrees Number.same e' = true := by
  have htype : ObjectType.ofValue? (endlessLine.getOrNull "type") = .ok (some .line) := by
    decide +kernel
  have hnumbers : ∀ p ∈ ObjectType.line.numbers,
      p.1 = "left" ∨ endlessLine.get? p.1 = none := by
    decide +kernel
  have htexts : ∀ name ∈ textNames, endlessLine.get? name = none := by decide +kernel
  have hdata : endlessLine.get? "data" = none := by decide +kernel
  have htidy : IsTidy .line endlessLine := by
    refine ⟨by decide +kernel, fun p hp => ?_, ?_, fun name hname => allows_of_none
      (htexts name hname), allows_of_none hdata⟩
    · rcases hnumbers p hp with hleft | hnone
      · rw [hleft]
        rintro v ⟨⟩
        exact ⟨5, rfl, by decide⟩
      · exact allows_of_none hnone
    · rintro v ⟨⟩
      refine ⟨_, _, _, _, rfl, ?_⟩
      simp only [List.forall_mem_cons]
      exact ⟨⟨_, rfl, by decide⟩, ⟨_, rfl, by decide⟩, ⟨_, rfl, by decide⟩,
        ⟨_, rfl, by decide +kernel⟩, List.forall_mem_nil _⟩
  exact ⟨⟨htype, htidy⟩, element_same_as_native htype htidy⟩

end Canvas
end LabelPress
