import LabelPress.Proofs.Canvas.Object
import LabelPress.Proofs.Document.Ingested
import LabelPress.Proofs.Json.Digits

/-!
# Canvases that are taken in or refused

A canvas becomes a design exactly if each of its objects can be converted, and what is no object
does no harm. Where a canvas is no list of objects it is refused, and all other faults are those of
its objects and of integers in a text that have too many digits.
-/

namespace LabelPress

namespace Canvas
variable {page : Page} {canvas : Value} {items : List Value}

/-- What is an object among the items of a list can be converted. -/
def AllConvert (items : List Value) : Prop :=
  ∀ item ∈ items, ∀ entries, item.head = .mapping entries → Converts entries

theorem exists_itemElement?_iff {v : Value} : (∃ o, itemElement? v = .ok o) ↔
    ∀ entries, v.head = .mapping entries → Converts entries := by
  unfold itemElement?
  split
  · next entries hhead =>
    rw [exists_element?_iff]
    constructor
    · intro h entries' hhead'
      cases hhead.symm.trans hhead'
      exact h
    · intro h
      exact h entries hhead
  · next hhead => exact iff_of_true ⟨none, rfl⟩ fun entries h => absurd h (hhead entries)

theorem itemElement?_escapes (v : Value) : Escapes (itemElement? v) := by
  unfold itemElement?
  split
  · exact element?_escapes _
  · exact .pure

theorem outcome_design {v : Value} (hcanvas : unpacked canvas = .ok v)
    (hitems : objects v = .ok items) : (design page canvas).outcome =
      (Element.readAll itemElement? .skippedObject items).outcome >>= fun elements =>
        .ok ⟨page, elements⟩ := by
  simp only [design, Journaled.outcome_bind, Journaled.outcome_lift, hcanvas]
  change objects v >>= _ = _
  rw [hitems]
  rfl

theorem exists_design_iff {v : Value} (hcanvas : unpacked canvas = .ok v)
    (hitems : objects v = .ok items) :
    (∃ d, (design page canvas).outcome = .ok d ∧ d.page = page) ↔ AllConvert items := by
  simp only [AllConvert, ← exists_itemElement?_iff, outcome_design hcanvas hitems, bind_eq_ok,
    ← @Element.exists_readAll_iff _ .skippedObject, Except.ok.injEq]
  constructor
  · rintro ⟨_, ⟨elements, helements, -⟩, -⟩
    exact ⟨elements, helements⟩
  · rintro ⟨elements, helements⟩
    exact ⟨_, ⟨elements, helements, rfl⟩, rfl⟩

/-- An item at fault does not make a canvas be refused. -/
theorem outcome_design_escapes {v : Value} (hcanvas : unpacked canvas = .ok v)
    (hitems : objects v = .ok items) : Escapes (design page canvas).outcome := by
  intro fault h
  rw [outcome_design hcanvas hitems, bind_eq_error] at h
  rcases h with hread | ⟨elements, -, hpure⟩
  · obtain ⟨item, -, hfault⟩ := Element.outcome_readAll_eq_error hread
    exact itemElement?_escapes item fault hfault
  · cases hpure

/-- A canvas of which no part gets past the reader's refusals: a text of it has no integer with too
many digits, and all its objects can be converted. -/
structure IsTakenIn (canvas : Value) : Prop where
  readable : ∀ s fault, canvas = .text s → Json.parse s ≠ .error (.content fault)
  objects : ∀ v items, unpacked canvas = .ok v → objects v = .ok items → AllConvert items

theorem IsTakenIn.of_rows (hrows : ∀ s, canvas = .text s → ∀ n, ¬Json.HasLongRow s n)
    (hobjects : ∀ v items, unpacked canvas = .ok v → Canvas.objects v = .ok items →
      AllConvert items) : IsTakenIn canvas where
  readable s fault hs := Json.parse_ne_content (hrows s hs) fault
  objects := hobjects

theorem unpacked_eq_error {fault : Fault} (h : unpacked canvas = .error fault) :
    (∃ f, fault = .design f) ∨ ∃ s, canvas = .text s ∧ Json.parse s = .error (.content fault) := by
  unfold unpacked at h
  split at h
  · next s =>
    cases hparse : Json.parse s with
    | ok v =>
      rw [hparse] at h
      cases h
    | error read =>
      rw [hparse] at h
      cases read with
      | broken syntaxFault => exact .inl ⟨_, (Except.error.inj h).symm⟩
      | content content =>
        obtain rfl : content = fault := Except.error.inj h
        exact .inr ⟨s, rfl, hparse⟩
  · cases h

theorem objects_eq_error {v : Value} {fault : Fault} (h : objects v = .error fault) :
    ∃ f, fault = .design f := by
  unfold objects at h
  split at h
  · split at h
    · cases h
    · cases h
    · exact ⟨_, (Except.error.inj h).symm⟩
  · exact ⟨_, (Except.error.inj h).symm⟩

/-- How a canvas fails: it is refused, or something in it is at fault. -/
theorem outcome_design_eq_error {fault : Fault} (h : (design page canvas).outcome = .error fault) :
    (∃ f, fault = .design f) ∨ fault.isRefusal = false ∧ ¬IsTakenIn canvas := by
  cases hunpacked : unpacked canvas with
  | error fault' =>
    rw [design, Journaled.outcome_bind, Journaled.outcome_lift, hunpacked] at h
    cases h
    rcases unpacked_eq_error hunpacked with hdesign | ⟨s, hs, hparse⟩
    · exact .inl hdesign
    · exact .inr ⟨Json.parse_content hparse, fun htaken => htaken.readable s fault hs hparse⟩
  | ok v =>
    cases hitems : objects v with
    | error fault' =>
      simp only [design, Journaled.outcome_bind, Journaled.outcome_lift, hunpacked] at h
      change objects v >>= _ = _ at h
      rw [hitems] at h
      cases h
      exact .inl (objects_eq_error hitems)
    | ok items =>
      refine .inr ⟨outcome_design_escapes hunpacked hitems fault h, fun htaken => ?_⟩
      have hconvert := htaken.objects v items hunpacked hitems
      have hdesign : ∃ d, (design page canvas).outcome = .ok d ∧ d.page = page :=
        (exists_design_iff hunpacked hitems).mpr hconvert
      obtain ⟨d, hd, -⟩ := hdesign
      cases h.symm.trans hd

theorem isTakenIn_iff : (∀ fault, (design page canvas).outcome = .error fault →
    ∃ f, fault = .design f) ↔ IsTakenIn canvas := by
  constructor
  · intro hrefused
    constructor
    · rintro s fault rfl hparse
      have houtcome : (design page (.text s)).outcome = .error fault := by
        simp only [design, Journaled.outcome_bind, Journaled.outcome_lift, unpacked, hparse]
        rfl
      obtain ⟨f, rfl⟩ := hrefused fault houtcome
      cases Json.parse_content hparse
    · intro v items hv hitems
      have hiff : (∃ d, (design page canvas).outcome = .ok d ∧ d.page = page) ↔ AllConvert items :=
        exists_design_iff hv hitems
      rw [← hiff]
      cases houtcome : (design page canvas).outcome with
      | ok d =>
        obtain ⟨_, _, -, -, hpage, -⟩ := outcome_design_eq_ok.mp houtcome
        exact ⟨d, rfl, hpage⟩
      | error fault =>
        obtain ⟨f, rfl⟩ := hrefused fault houtcome
        cases outcome_design_escapes hv hitems _ houtcome
  · intro htaken fault hfault
    exact (outcome_design_eq_error hfault).resolve_right fun h => h.2 htaken

def ofObjects (root : Entries) (items : List Value) : Value :=
  .mapping (root.insert (.text "objects") (.list items))

theorem objects_ofObjects (root : Entries) (items : List Value) :
    objects (ofObjects root items) = .ok items := by
  simp only [objects, ofObjects, Value.head, Entries.get?_insert_self, Option.map_some]

/-- An object of a type has another value where the type has a number. -/
structure LacksNumber (entries : Entries) (type : ObjectType) (p : Text × Number) : Prop where
  typed : ObjectType.ofValue? (entries.getOrNull "type") = .ok (some type)
  place : p ∈ type.numbers
  value : ∃ v, entries.get? p.1 = some v ∧ v.number? = none

theorem LacksNumber.design_eq {entries : Entries} {type : ObjectType} {p : Text × Number}
    (h : LacksNumber entries type p) (root : Entries) (before after : List Value) :
    design page (ofObjects root (before ++ .mapping entries :: after)) =
      design page (ofObjects root
        (before ++ .mapping (entries.insert (.text p.1) (.number p.2)) :: after)) := by
  obtain ⟨v, hv, hnumber⟩ := h.value
  have helement : itemElement? (.mapping entries) =
      itemElement? (.mapping (entries.insert (.text p.1) (.number p.2))) :=
    (readAlike_insert h.place hv hnumber).element?_eq h.typed
  have hdesign : ∀ items, design page (ofObjects root items) =
      Element.readAll itemElement? .skippedObject items >>= fun elements =>
        pure ⟨page, elements⟩ := by
    intro items
    change (liftM (Canvas.objects (ofObjects root items)) : Journaled _) >>= _ = _
    rw [objects_ofObjects]
    rfl
  rw [hdesign, hdesign, Element.readAll_replace helement]

/-- A canvas with a list of objects becomes a design on the page exactly if each of them can be
converted, and any other canvas becomes one or is refused exactly if no integer in its text and no
object is at fault. Another value where an object has a number is as good as the default. As in
`Json.parse` and `Value.shown`, values are assumed to be nested less deeply than a stack allows. -/
theorem taken_in_iff (page : Page) :
    (∀ root items, (∃ d, (design page (ofObjects root items)).outcome = .ok d ∧ d.page = page) ↔
      AllConvert items) ∧
    (∀ canvas, (∀ fault, (design page canvas).outcome = .error fault → ∃ f, fault = .design f) ↔
      IsTakenIn canvas) ∧
    ∀ (root entries : Entries) before after type p, LacksNumber entries type p →
      design page (ofObjects root (before ++ .mapping entries :: after)) =
        design page (ofObjects root
          (before ++ .mapping (entries.insert (.text p.1) (.number p.2)) :: after)) := by
  refine ⟨?_, ?_, ?_⟩
  · intro root items
    exact exists_design_iff rfl (objects_ofObjects root items)
  · intro canvas
    exact isTakenIn_iff
  · intro root entries before after type p h
    exact h.design_eq root before after

def wordyText : Entries := [(.text "type", .text "i-text"), (.text "text", .text "Fragile"),
  (.text "fontSize", .text "large")]

def plainDesign : Design where
  page := ⟨456, 913, 152, by decide, by decide, by decide⟩
  elements := [.text { position := ⟨0, 0⟩, text := "Fragile", fontSize := 20 }]

theorem taken_in_wordy : AllConvert [.mapping wordyText] ∧
    LacksNumber wordyText .text ("fontSize", 20) ∧
      design plainDesign.page (ofObjects [] [.mapping wordyText]) =
        design plainDesign.page (ofObjects []
          [.mapping (wordyText.insert (.text "fontSize") (.number 20))]) := by
  obtain ⟨hobjects, -, hnumbers⟩ := taken_in_iff plainDesign.page
  have hread : (design plainDesign.page (ofObjects [] [.mapping wordyText])).outcome =
      .ok plainDesign := by decide +kernel
  have hlacks : LacksNumber wordyText .text ("fontSize", 20) :=
    ⟨by decide +kernel, by decide +kernel, .text "large", rfl, rfl⟩
  refine ⟨(hobjects [] _).mp ⟨plainDesign, hread, rfl⟩, hlacks, ?_⟩
  exact hnumbers [] wordyText [] [] .text ("fontSize", 20) hlacks

/-- A line that starts at a place which is no number. -/
def brokenCanvas : Value := .ofFields [("objects", .list [
  .ofFields [("type", .text "line"),
    ("points", .list [.text "a", .number 0, .number 100, .number 0])]])]

theorem not_taken_in_broken : ∃ items fault,
    objects brokenCanvas = .ok items ∧
      (design ⟨456, 913, 152, by decide, by decide, by decide⟩ brokenCanvas).outcome =
        .error fault ∧
      fault.isRefusal = false :=
  ⟨_, .numeral "'a'", rfl, by decide +kernel, rfl⟩

end Canvas
end LabelPress
