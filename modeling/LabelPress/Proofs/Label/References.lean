import LabelPress.Label.Target
import LabelPress.Proofs.Field.Binding

/-!
# What a label depends on

A dynamic element refers to one field by its key. The label of a design depends on the bindings and
the catalog only through the keys that its elements refer to: where two pairs of bindings and a
catalog tell the same about those, the labels are the same, and so are the faults and the notes.
-/

namespace LabelPress

namespace Element

def isDynamic : Element → Bool
  | text t => t.isDynamic
  | media m => m.isDynamic
  | _ => false

def key? : Element → Option Text
  | text t => if t.isDynamic then t.fieldKey.filter fun s => !s.isEmpty else none
  | media m => match m.payload with
    | .barcode _ value => m.key value
    | .qr value => m.key value
    | .raster _ => none
  | _ => none

theorem key?_eq_none {e : Element} (h : e.isDynamic = false) : e.key? = none := by
  cases e with
  | text t => exact if_neg (Bool.eq_false_iff.mp h)
  | media m =>
    have hkey : ∀ value, m.key value = none := fun value => if_neg (Bool.eq_false_iff.mp h)
    cases hp : m.payload <;> simp [key?, hp, hkey]
  | _ => rfl

end Element

def Design.References (d : Design) (key : Text) : Prop := ∃ e ∈ d.elements, e.key? = some key

theorem TextField.content_eq (t : TextField) (bindings : Entries) (catalog : Option Catalog) :
    t.content bindings catalog = match (Element.text t).key? with
      | some key => resolveField key bindings catalog
      | none => .ok t.text := by
  -- An empty key is no key, for the element as for its content.
  obtain ⟨position, text, fontSize, angle, isDynamic, fieldKey, stroke⟩ := t
  cases isDynamic with
  | false => rfl
  | true =>
    cases fieldKey with
    | none => rfl
    | some key => cases key <;> rfl

section Congruence
variable {b₁ b₂ : Entries} {c₁ c₂ : Option Catalog}

theorem TextField.content_congr {t : TextField}
    (h : ∀ key, (Element.text t).key? = some key → TellAlike key b₁ c₁ b₂ c₂) :
    t.content b₁ c₁ = t.content b₂ c₂ := by
  rw [content_eq, content_eq]
  cases hkey : (Element.text t).key? with
  | none => rfl
  | some key => simp only [resolveField, (h key hkey).fieldText?_eq]

theorem Media.symbolText_congr {m : Media} {value : Option Text} {default : Text}
    (h : ∀ key, m.key value = some key → TellAlike key b₁ c₁ b₂ c₂) :
    m.symbolText value default b₁ c₁ = m.symbolText value default b₂ c₂ := by
  unfold symbolText
  cases hkey : m.key value with
  | none => rfl
  | some key => simp only [(h key hkey).fieldText?_eq]

theorem Media.commands_congr {m : Media}
    (h : ∀ key, (Element.media m).key? = some key → TellAlike key b₁ c₁ b₂ c₂) :
    m.commands b₁ c₁ = m.commands b₂ c₂ := by
  unfold commands
  cases hp : m.payload with
  | barcode format value =>
    have hkey : ∀ key, m.key value = some key → TellAlike key b₁ c₁ b₂ c₂ := by
      simpa only [Element.key?, hp] using h
    simp only [barcodeCommands, symbolText_congr hkey]
  | qr value =>
    have hkey : ∀ key, m.key value = some key → TellAlike key b₁ c₁ b₂ c₂ := by
      simpa only [Element.key?, hp] using h
    simp only [qrCommands, symbolText_congr hkey]
  | raster source => rfl

theorem Element.commands_congr {e : Element} (scale : Number)
    (h : ∀ key, e.key? = some key → TellAlike key b₁ c₁ b₂ c₂) :
    e.commands b₁ c₁ scale = e.commands b₂ c₂ scale := by
  cases e with
  | text t => simp only [commands, TextField.commands, TextField.content_congr h]
  | media m => exact Media.commands_congr h
  | _ => rfl

end Congruence

namespace Target
variable {b₁ b₂ : Entries} {c₁ c₂ : Option Catalog}

def withCatalog (t : Target) (catalog : Option Catalog) : Target := { t with catalog }

/-- A guide is passed over whatever it refers to. -/
theorem encode_congr (t : Target) {e : Element} (h : e.isGuide t.guideColor = false →
      ∀ key, e.key? = some key → TellAlike key b₁ c₁ b₂ c₂) :
    (t.withCatalog c₁).encode b₁ e = (t.withCatalog c₂).encode b₂ e := by
  cases hguide : e.isGuide t.guideColor with
  | true => simp only [encode, withCatalog, hguide, if_true]
  | false => simp only [encode, withCatalog, hguide, Element.commands_congr _ (h hguide)]

theorem compile_congr (t : Target) {d : Design}
    (h : ∀ key, d.References key → TellAlike key b₁ c₁ b₂ c₂) :
    (t.withCatalog c₁).compile b₁ d = (t.withCatalog c₂).compile b₂ d := by
  have hparts : Journaled.forEach ((t.withCatalog c₁).encode b₁) d.elements =
      Journaled.forEach ((t.withCatalog c₂).encode b₂) d.elements :=
    Journaled.forEach_congr fun e he =>
      t.encode_congr fun _ key hkey => h key ⟨e, he, hkey⟩
  simp only [compile, assemble, hparts]
  rfl

/-- The label of a design, or the fault in its place, is settled by what the bindings and the
catalog tell about the keys that its elements refer to. So a design without dynamic elements needs
neither, entries that give no value can be left out, and an empty catalog is none. -/
theorem compile_settled_by_references (t : Target) (d : Design) :
    (∀ b₁ c₁ b₂ c₂, (∀ key, d.References key → TellAlike key b₁ c₁ b₂ c₂) →
      (t.withCatalog c₁).compile b₁ d = (t.withCatalog c₂).compile b₂ d) ∧
    ((∀ e ∈ d.elements, e.isDynamic = false) → ∀ b₁ c₁ b₂ c₂,
      (t.withCatalog c₁).compile b₁ d = (t.withCatalog c₂).compile b₂ d) ∧
    (∀ bindings : Entries, bindings.Distinct → t.compile bindings.given d = t.compile bindings d) ∧
    ∀ bindings, (t.withCatalog (some ⟨[], List.nodup_nil⟩)).compile bindings d =
      (t.withCatalog none).compile bindings d := by
  refine ⟨fun b₁ c₁ b₂ c₂ h => t.compile_congr h, fun hstatic b₁ c₁ b₂ c₂ => ?_,
    fun bindings hdistinct => ?_, fun bindings => ?_⟩
  · refine t.compile_congr ?_
    rintro key ⟨e, he, hkey⟩
    rw [Element.key?_eq_none (hstatic e he)] at hkey
    cases hkey
  · exact t.compile_congr fun key _ => TellAlike.given hdistinct t.catalog
  · exact t.compile_congr fun key _ => ⟨.inl rfl, .inl rfl⟩

end Target

def batchDesign : Design where
  page := ⟨600, 2362, 3543, by decide, by decide, by decide⟩
  elements := [
    .text { position := ⟨10, 20⟩, isDynamic := true, fieldKey := some "po_number" },
    .media { position := ⟨10, 60⟩, payload := .qr (some "batch_number"), isDynamic := true }]

def officeBindings : Entries :=
  [(.text "po_number", .number 7), (.text "batch_number", .text ""), (.text "user", .text "eve")]

def depotBindings : Entries := [(.text "user", .null), (.text "po_number", .number 7)]

def depotCatalog : Catalog where
  specs := [
    { key := "user", label := "User", lead := "by " },
    { key := "po_number", label := "PO Number", category := .order, lead := "PO: " }]
  distinct := by decide

theorem compile_settled_batch :
    (∀ key, batchDesign.References key →
      TellAlike key officeBindings (some .builtin) depotBindings (some depotCatalog)) ∧
    (({} : Target).withCatalog (some .builtin)).compile officeBindings batchDesign =
      (({} : Target).withCatalog (some depotCatalog)).compile depotBindings batchDesign ∧
    officeBindings.Distinct ∧
    ({} : Target).compile officeBindings.given batchDesign =
      ({} : Target).compile officeBindings batchDesign := by
  have halike : ∀ key, batchDesign.References key →
      TellAlike key officeBindings (some .builtin) depotBindings (some depotCatalog) := by
    rintro key ⟨e, he, hkey⟩
    rcases List.mem_pair.mp he with rfl | rfl
    · obtain rfl := Option.some.inj hkey
      exact ⟨.inl rfl, .inl (by decide +kernel)⟩
    · obtain rfl := Option.some.inj hkey
      refine ⟨.inr ⟨fun v hv => ?_, fun v hv => nomatch hv⟩,
        .inr ⟨fun spec hspec => ?_, fun spec hspec => nomatch hspec⟩⟩
      · cases hv
        rfl
      · cases hspec
        exact ⟨.inl rfl, rfl, rfl, rfl⟩
  have hdistinct : officeBindings.Distinct := by
    unfold Entries.Distinct
    decide +kernel
  obtain ⟨hsame, -, hgiven, -⟩ := Target.compile_settled_by_references {} batchDesign
  exact ⟨halike, hsame _ _ _ _ halike, hdistinct, hgiven _ hdistinct⟩

end LabelPress
