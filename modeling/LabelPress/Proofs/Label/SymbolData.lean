import LabelPress.Proofs.Field.Temporal
import LabelPress.Proofs.Label.BoundFields
import LabelPress.Proofs.Label.Skips
import LabelPress.Proofs.Value.Printed

/-!
# What barcodes and QR codes carry

A symbol without data cannot be scanned. A symbol falls back on its own value, and on a default
behind that, where its field has nothing to print; but a field may have something to print that is
empty, and then the symbol is empty too.
-/

namespace LabelPress
variable {key : Text} {bindings : Entries} {catalog : Option Catalog}

/-! ## Fields that print the empty text -/

/-- A field prints the empty text: its value is missing and its fallback is empty, or nothing stands
around a moment whose pattern marks an end before anything else. -/
inductive IsBlank (key : Text) (bindings : Entries) (catalog : Option Catalog) : Prop
  | fallback {spec : FieldSpec} (hmissing : bindings.IsMissing key)
      (hspec : specOf? catalog key = some spec) (hempty : spec.fallback = some [])
  | ended {spec : FieldSpec} {v : Value} {rest : Text} (hv : bindings.get? key = some v)
      (hgiven : v.isGiven = true) (hspec : specOf? catalog key = some spec)
      (hlead : spec.lead = []) (htrail : spec.trail = [])
      (hpattern : spec.pattern = some (.char Iso.endMark :: rest))
      (hmoment : v.moment?.isSome = true)

namespace FieldSpec
variable {spec : FieldSpec} {v : Value} {s : Text}

/-- Only a pattern makes nothing of a value that is given. -/
theorem body_eq_nil_iff (hgiven : v.isGiven = true) (h : spec.body v = .ok s) :
    s = [] ↔ (∃ rest, spec.pattern = some (.char Iso.endMark :: rest)) ∧
      v.moment?.isSome = true := by
  have hprinted : v.printed.mapError Fault.arithmetic = .ok s → s ≠ [] := fun hs =>
    Value.printed_printsSome hgiven s (mapError_eq_ok.mp hs)
  cases hpattern : spec.pattern with
  | none =>
    rw [body, hpattern] at h
    exact iff_of_false (hprinted h) (by simp)
  | some pattern =>
    cases pattern with
    | nil =>
      rw [body, hpattern] at h
      exact iff_of_false (hprinted h) (by simp)
    | cons c rest =>
      rw [body_eq hpattern (List.cons_ne_nil c rest), Value.formatted?] at h
      cases hmoment : v.moment? with
      | none =>
        rw [hmoment] at h
        exact iff_of_false (hprinted h) (by simp)
      | some moment =>
        rw [hmoment] at h
        rw [Pattern.format_eq_ok_nil_iff (mapError_eq_ok.mp h)]
        simp

theorem render_eq_nil_iff (hgiven : v.isGiven = true) (h : spec.render v = .ok s) :
    s = [] ↔ spec.lead = [] ∧ spec.trail = [] ∧
      (∃ rest, spec.pattern = some (.char Iso.endMark :: rest)) ∧ v.moment?.isSome = true := by
  rw [render_eq] at h
  obtain ⟨body, hbody, rfl⟩ := map_eq_ok.mp h
  rw [← body_eq_nil_iff hgiven hbody, List.append_eq_nil_iff, List.append_eq_nil_iff]
  tauto

end FieldSpec

theorem isBlank_iff_of_isMissing (h : bindings.IsMissing key) :
    IsBlank key bindings catalog ↔
      ∃ spec, specOf? catalog key = some spec ∧ spec.fallback = some [] := by
  constructor
  · rintro (⟨-, hspec, hempty⟩ | ⟨hv, hgiven, -, -, -, -, -⟩)
    · exact ⟨_, hspec, hempty⟩
    · exact absurd hgiven (Bool.eq_false_iff.mp (h _ hv))
  · rintro ⟨spec, hspec, hempty⟩
    exact .fallback h hspec hempty

theorem isBlank_iff_of_given {v : Value} (hv : bindings.get? key = some v)
    (hgiven : v.isGiven = true) :
    IsBlank key bindings catalog ↔ ∃ spec, specOf? catalog key = some spec ∧ spec.lead = [] ∧
      spec.trail = [] ∧ (∃ rest, spec.pattern = some (.char Iso.endMark :: rest)) ∧
      v.moment?.isSome = true := by
  constructor
  · rintro (⟨hmissing, -, -⟩ | ⟨hw, -, hspec, hlead, htrail, hpattern, hmoment⟩)
    · exact absurd hgiven (Bool.eq_false_iff.mp (hmissing v hv))
    · cases hv.symm.trans hw
      exact ⟨_, hspec, hlead, htrail, ⟨_, hpattern⟩, hmoment⟩
  · rintro ⟨spec, hspec, hlead, htrail, ⟨rest, hpattern⟩, hmoment⟩
    exact .ended hv hgiven hspec hlead htrail hpattern hmoment

theorem fieldText?_eq_nil_iff {x : Option Text} (h : fieldText? key bindings catalog = .ok x) :
    x = some [] ↔ IsBlank key bindings catalog := by
  rcases exists_given_or_isMissing key bindings with ⟨v, hv, hgiven⟩ | hmissing
  · rw [fieldText?_of_given hv hgiven] at h
    rw [isBlank_iff_of_given hv hgiven]
    obtain ⟨s, hs, rfl⟩ := map_eq_ok.mp h
    cases hspec : specOf? catalog key with
    | none =>
      -- Without a specification there is no pattern, and what is given prints something.
      rw [hspec] at hs
      have hprinted := Value.printed_printsSome hgiven s (mapError_eq_ok.mp hs)
      simp [hprinted]
    | some spec =>
      rw [hspec] at hs
      simp [FieldSpec.render_eq_nil_iff hgiven hs]
  · rw [isBlank_iff_of_isMissing hmissing]
    rw [fieldText?, Entries.bound?_eq_none_iff.mpr hmissing] at h
    cases h
    exact Option.bind_eq_some_iff

/-! ## The text of a symbol -/

theorem Media.ownText_ne_nil {default : Text} (hdefault : default ≠ []) (value : Option Text) :
    ownText value default ≠ [] := by
  cases value with
  | none => exact hdefault
  | some s =>
    cases s with
    | nil => exact hdefault
    | cons c s => exact List.cons_ne_nil c s

theorem Media.symbolText_eq_nil_iff {m : Media} {value : Option Text} {default s : Text}
    (hdefault : default ≠ []) (h : m.symbolText value default bindings catalog = .ok s) :
    s = [] ↔ ∃ key, m.key value = some key ∧ IsBlank key bindings catalog := by
  have hown := ownText_ne_nil hdefault value
  cases hkey : m.key value with
  | none =>
    rw [symbolText_of_no_key default hkey] at h
    cases h
    exact iff_of_false hown (by simp)
  | some key =>
    rw [symbolText_of_key default hkey] at h
    obtain ⟨x, hx, rfl⟩ := map_eq_ok.mp h
    simp only [Option.some.injEq, exists_eq_left', ← fieldText?_eq_nil_iff hx]
    cases x with
    | none => simp [hown]
    | some s => simp

def Media.symbol? (m : Media) (bindings : Entries) (catalog : Option Catalog) :
    Option (Except Fault Text) :=
  match m.payload with
  | .barcode _ value => some (m.symbolText value defaultBarcodeValue bindings catalog)
  | .qr value => some (m.symbolText value defaultQrValue bindings catalog)
  | .raster _ => none

def Element.symbol? (bindings : Entries) (catalog : Option Catalog) :
    Element → Option (Except Fault Text)
  | media m => m.symbol? bindings catalog
  | _ => none

/-! ## The symbols of a label -/

inductive Media.Prints (m : Media) (bindings : Entries) (catalog : Option Catalog) :
    List Command → Prop
  | barcode {s : Text} (x y : Nat) (symbology : Symbology) (height : Nat)
      (hs : m.symbol? bindings catalog = some (.ok s)) :
      Prints m bindings catalog
        [.origin x y, .barcode symbology m.angle.orientation height, .data s]
  | qr {s : Text} (x y magnification : Nat) (hs : m.symbol? bindings catalog = some (.ok s)) :
      Prints m bindings catalog [.origin x y, .qr magnification, .data (qrMode ++ s)]
  | raster (x y : Nat) (hs : m.symbol? bindings catalog = none) :
      Prints m bindings catalog
        [.origin x y, .box 100 100 2 false, .origin (x + 10) (y + 40), .imageMarker]

theorem Media.prints_of_commands {m : Media} {cs : List Command} (hne : cs ≠ [])
    (h : (m.commands bindings catalog).outcome = .ok cs) : m.Prints bindings catalog cs := by
  rw [commands_eq_ok] at h
  cases hp : m.payload with
  | barcode format value =>
    rw [hp] at h
    cases hname : Symbology.ofName? (Payload.formatName format) with
    | none =>
      simp only [hname] at h
      exact absurd h hne
    | some symbology =>
      simp only [hname] at h
      obtain ⟨x, y, content, height, -, hcontent, -, rfl⟩ := barcodeCommands_eq_ok.mp h
      exact .barcode x y symbology height (by rw [symbol?, hp, ← hcontent])
  | qr value =>
    simp only [hp] at h
    obtain ⟨x, y, content, magnification, -, hcontent, -, rfl⟩ := qrCommands_eq_ok.mp h
    exact .qr x y magnification (by rw [symbol?, hp, ← hcontent])
  | raster source =>
    simp only [hp] at h
    obtain ⟨x, y, -, rfl⟩ := rasterCommands_eq_ok.mp h
    exact .raster x y (by rw [symbol?, hp])

/-- The data of the symbols among commands; that of a QR code stands behind its mode. -/
def symbolData : List Command → List Text
  | .barcode _ _ _ :: .data s :: rest => s :: symbolData rest
  | .qr _ :: .data s :: rest => s.drop Media.qrMode.length :: symbolData rest
  | _ :: rest => symbolData rest
  | [] => []

/-- Commands print these symbols and no others, whatever follows. -/
def Encodes (data : List Text) (cs : List Command) : Prop :=
  ∀ rest, symbolData (cs ++ rest) = data ++ symbolData rest

namespace Encodes
variable {data data' : List Text} {cs cs' : List Command}

theorem nil : Encodes [] [] := fun _ => rfl

theorem append (h : Encodes data cs) (h' : Encodes data' cs') :
    Encodes (data ++ data') (cs ++ cs') := fun rest => by
  rw [List.append_assoc, h, h', List.append_assoc]

theorem symbolData_eq (h : Encodes data cs) : symbolData cs = data := by
  have hnil := h []
  rwa [List.append_nil, symbolData, List.append_nil] at hnil

end Encodes

theorem Line.encodes_commands {l : Line} {cs : List Command} (h : l.commands = .ok cs) :
    Encodes [] cs := by
  obtain ⟨_, _, _, _, _, origin, -, -, -, -, -, h⟩ := commands_eq_ok.mp h
  rcases h with ⟨-, ho, rfl⟩ | ⟨-, -, ho, rfl⟩ | ⟨-, -, ho, rfl⟩
  all_goals
    obtain ⟨_, _, rfl⟩ := exists_of_origin ho
    exact fun _ => rfl

theorem Circle.encodes_commands {c : Circle} {cs : List Command} (h : c.commands = .ok cs) :
    Encodes [] cs := by
  obtain ⟨_, _, _, _, -, -, -, ⟨-, _, -, rfl⟩ | ⟨-, rfl⟩⟩ := commands_eq_ok.mp h
  all_goals exact fun _ => rfl

theorem Media.Prints.exists_encodes {m : Media} {cs : List Command}
    (h : m.Prints bindings catalog cs) :
    ∃ data, Encodes data cs ∧ data.map Except.ok = (m.symbol? bindings catalog).toList := by
  cases h with
  | @barcode s x y symbology height hs =>
    rw [hs]
    exact ⟨[s], fun _ => rfl, rfl⟩
  | @qr s x y magnification hs =>
    rw [hs]
    exact ⟨[s], fun _ => rfl, rfl⟩
  | raster x y hs =>
    rw [hs]
    exact ⟨[], fun _ => rfl, rfl⟩

theorem Element.encodes_commands {e : Element} {scale : Number} {cs : List Command} (hne : cs ≠ [])
    (h : (e.commands bindings catalog scale).outcome = .ok cs) :
    ∃ data, Encodes data cs ∧ data.map Except.ok = (e.symbol? bindings catalog).toList := by
  rw [commands_eq_ok] at h
  cases e with
  | text t =>
    obtain ⟨_, _, _, _, -, -, -, rfl⟩ := TextField.commands_eq_ok.mp h
    exact ⟨[], fun _ => rfl, rfl⟩
  | rectangle r =>
    obtain ⟨_, _, _, _, _, -, -, -, -, rfl⟩ := Rectangle.commands_eq_ok.mp h
    exact ⟨[], fun _ => rfl, rfl⟩
  | line l => exact ⟨[], Line.encodes_commands h, rfl⟩
  | circle c => exact ⟨[], Circle.encodes_commands h, rfl⟩
  | media m => exact (Media.prints_of_commands hne h).exists_encodes

theorem Element.encodes_all {scale : Number} {es : List Element} {parts : List (List Command)}
    (h : List.Forall₂ (fun e part => part ≠ [] ∧
      (e.commands bindings catalog scale).outcome = .ok part) es parts) :
    ∃ data, Encodes data parts.flatten ∧
      data.map Except.ok = es.filterMap (symbol? bindings catalog) := by
  induction h with
  | nil => exact ⟨[], .nil, rfl⟩
  | @cons e part es parts he _ ih =>
    obtain ⟨rest, hrest, hsymbols⟩ := ih
    obtain ⟨data, hdata, hsymbol⟩ := encodes_commands he.1 he.2
    refine ⟨data ++ rest, hdata.append hrest, ?_⟩
    rw [List.map_append, hsymbol, hsymbols, List.filterMap_cons]
    cases e.symbol? bindings catalog <;> rfl

/-- The symbols of a label are those of the elements of which it is made, in order. -/
theorem Target.symbolData_compile {t : Target} {d : Design} {label : Label}
    (h : (t.compile bindings d).outcome = .ok label) :
    (symbolData label.commands).map Except.ok =
      (t.kept d.elements).filterMap (Element.symbol? bindings t.catalog) := by
  obtain ⟨parts, -, -, hparts, -, rfl⟩ := compile_eq_ok.mp h
  obtain ⟨kept, hflatten, hkept⟩ := exists_commands_kept hparts
  obtain ⟨data, hdata, hsymbols⟩ := Element.encodes_all hkept
  have hopening : Encodes [] (Frame.openingCommands d.page t.labelHome) := by
    intro rest
    cases t.labelHome <;> rfl
  have hclosing : Encodes [] (Frame.closingCommands t.copies) := by
    intro rest
    unfold Frame.closingCommands
    split <;> rfl
  rw [← hflatten, ((hopening.append hdata).append hclosing).symbolData_eq, List.nil_append,
    List.append_nil, hsymbols]

theorem Media.defaults_ne_nil : defaultBarcodeValue ≠ [] ∧ defaultQrValue ≠ [] := by
  decide

theorem Media.symbol?_eq_ok_nil_iff {m : Media} {s : Text}
    (h : m.symbol? bindings catalog = some (.ok s)) :
    s = [] ↔ ∃ key, (Element.media m).key? = some key ∧ IsBlank key bindings catalog := by
  unfold symbol? at h
  simp only [Element.key?]
  cases hp : m.payload with
  | barcode format value =>
    rw [hp] at h
    exact symbolText_eq_nil_iff defaults_ne_nil.1 (Option.some.inj h)
  | qr value =>
    rw [hp] at h
    exact symbolText_eq_nil_iff defaults_ne_nil.2 (Option.some.inj h)
  | raster source =>
    rw [hp] at h
    cases h

theorem Media.exists_symbol? {m : Media} (h : (Element.media m).key? = some key)
    (bindings : Entries) (catalog : Option Catalog) :
    ∃ x, m.symbol? bindings catalog = some x := by
  unfold symbol?
  simp only [Element.key?] at h
  cases hp : m.payload with
  | barcode format value => exact ⟨_, rfl⟩
  | qr value => exact ⟨_, rfl⟩
  | raster source =>
    rw [hp] at h
    cases h

theorem Target.mem_symbolData_iff {t : Target} {d : Design} {label : Label}
    (h : (t.compile bindings d).outcome = .ok label) {s : Text} :
    s ∈ symbolData label.commands ↔
      ∃ e ∈ t.kept d.elements, e.symbol? bindings t.catalog = some (.ok s) := by
  rw [← List.mem_filterMap, ← symbolData_compile h]
  exact (List.mem_map_of_injective fun _ _ => Except.ok.inj).symm

/-- A label has an empty symbol exactly if one of the media of which it is made shows a field that
prints the empty text. -/
theorem Target.nil_mem_symbolData_iff {t : Target} {d : Design} {label : Label}
    (h : (t.compile bindings d).outcome = .ok label) :
    [] ∈ symbolData label.commands ↔ ∃ m, .media m ∈ t.kept d.elements ∧
      ∃ key, (Element.media m).key? = some key ∧ IsBlank key bindings t.catalog := by
  constructor
  · intro hempty
    obtain ⟨e, he, hsymbol⟩ := (mem_symbolData_iff h).mp hempty
    cases e with
    | media m => exact ⟨m, he, (Media.symbol?_eq_ok_nil_iff hsymbol).mp rfl⟩
    | _ => cases hsymbol
  · rintro ⟨m, hm, key, hkey, hblank⟩
    obtain ⟨x, hx⟩ := Media.exists_symbol? hkey bindings t.catalog
    -- The label was compiled, so the symbol has data.
    have hmem : x ∈ (symbolData label.commands).map Except.ok := by
      rw [symbolData_compile h]
      exact List.mem_filterMap.mpr ⟨_, hm, hx⟩
    obtain ⟨s, hs, rfl⟩ := List.mem_map.mp hmem
    rwa [(Media.symbol?_eq_ok_nil_iff hx).mpr ⟨key, hkey, hblank⟩] at hs

/-- Whatever stands behind the field of a symbol, the symbol is empty exactly if the field prints
the empty text, and the label has an empty symbol exactly if one of its media shows such a field. -/
theorem symbol_empty_iff (t : Target) (bindings : Entries) :
    (∀ (m : Media) (value : Option Text) (default s : Text), default ≠ [] →
      m.symbolText value default bindings t.catalog = .ok s →
        (s = [] ↔ ∃ key, m.key value = some key ∧ IsBlank key bindings t.catalog)) ∧
    ∀ (d : Design) (label : Label), (t.compile bindings d).outcome = .ok label →
      ([] ∈ symbolData label.commands ↔ ∃ m, .media m ∈ t.kept d.elements ∧
        ∃ key, (Element.media m).key? = some key ∧ IsBlank key bindings t.catalog) :=
  ⟨fun _ _ _ _ hdefault h => Media.symbolText_eq_nil_iff hdefault h,
    fun _ _ h => Target.nil_mem_symbolData_iff h⟩

/-- An article number whose fallback is empty. -/
def eanSpec : FieldSpec where
  key := "ean"
  label := "EAN"
  fallback := some ""

/-- A lot whose pattern marks an end before anything else. -/
def lotSpec : FieldSpec where
  key := "lot"
  label := "Lot"
  pattern := some "\x00DD"

def eanCode : Media where
  position := ⟨0, 0⟩
  payload := .barcode "CODE128" (some "4006381333931")
  isDynamic := true
  fieldKey := some "ean"

def lotCode : Media where
  position := ⟨0, 90⟩
  payload := .qr (some "lot")
  isDynamic := true

def scanDesign : Design := ⟨hostileDesign.page, [.media eanCode, .media lotCode]⟩

def scanCatalog : Catalog := ⟨[eanSpec, lotSpec], by decide⟩

def scanTarget : Target := { catalog := some scanCatalog, copies_pos := Nat.one_pos }

def scanBindings : Entries := [(.text "ean", .text "12"), (.text "lot", .text "7")]

theorem symbol_empty_iff_scan :
    lotCode.symbolText (some "lot") Media.defaultQrValue scanBindings scanTarget.catalog = .ok "7" ∧
    ¬(∃ key, lotCode.key (some "lot") = some key ∧
      IsBlank key scanBindings scanTarget.catalog) ∧
    ∃ label, (scanTarget.compile scanBindings scanDesign).outcome = .ok label ∧
      symbolData label.commands = ["12", "7"] ∧
      ¬∃ m, .media m ∈ scanTarget.kept scanDesign.elements ∧
        ∃ key, (Element.media m).key? = some key ∧
          IsBlank key scanBindings scanTarget.catalog := by
  have hlot : lotCode.symbolText (some "lot") Media.defaultQrValue scanBindings
      scanTarget.catalog = .ok "7" := by
    decide +kernel
  have hdata : (scanTarget.compile scanBindings scanDesign).outcome.map
      (fun label => symbolData label.commands) = .ok ["12", "7"] := by
    decide +kernel
  obtain ⟨label, hlabel, hsymbols⟩ := map_eq_ok.mp hdata
  refine ⟨hlot, ?_, label, hlabel, hsymbols, ?_⟩
  · exact ((symbol_empty_iff scanTarget scanBindings).1 _ _ _ _ (by decide) hlot).not.mp (by decide)
  · exact ((symbol_empty_iff scanTarget scanBindings).2 _ _ hlabel).not.mp (hsymbols ▸ by decide)

/-- With nothing bound, the empty fallback takes the place of the number that the barcode has. -/
theorem empty_symbol_of_empty_fallback :
    eanCode.symbolText (some "4006381333931") "123456789" []
      (some ⟨[eanSpec], by decide⟩) = .ok [] ∧
    (scanTarget.compile [] scanDesign).outcome.map (fun label => symbolData label.commands) =
      .ok [[], "lot"] := by
  decide +kernel

end LabelPress
