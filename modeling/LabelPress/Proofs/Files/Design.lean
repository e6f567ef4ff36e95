import LabelPress.Files.Design
import LabelPress.Proofs.Canvas.Design
import LabelPress.Proofs.Document.Outcome
import LabelPress.Proofs.Text.Encoding
import LabelPress.Proofs.Yaml.Nodes

/-!
# Design files that are loaded or refused

A file that is not there, that cannot be parsed or that holds no design is refused. What gets past
that is a name that can be no path, bytes that are no text, a scalar that the parser reads and that
stands for nothing, a page in a unit of length that does not fit, and an object of a canvas that
cannot be converted.
-/

namespace LabelPress
variable {files : FileTree} {path : FilePath} {default : Option Page}

theorem DocumentFormat.parse_content [Host] {format : DocumentFormat} {text : Text} {fault : Fault}
    (h : format.parse text = .error (.content fault)) : fault.isRefusal = false := by
  cases format with
  | json => exact Json.parse_content h
  | yaml => exact Yaml.parse_content h

namespace FileTree

/-- A text can be a path. -/
def IsName (s : Text) : Prop := (∀ c ∈ s, inName c = true) ∧ .char '\x00' ∉ s

theorem drop_inName_isWhole_iff {s : Text} :
    Text.IsWhole (s.drop (s.takeWhile inName).length) ↔ ∀ c ∈ s, inName c = true := by
  induction s with
  | nil => exact iff_of_true nofun nofun
  | cons c s ih =>
    by_cases hc : inName c = true
    · rw [List.takeWhile_cons_of_pos hc, List.length_cons, List.drop_succ_cons, ih,
        List.forall_mem_cons, and_iff_right hc]
    · rw [List.takeWhile_cons_of_neg hc, List.length_nil, List.drop_zero]
      refine iff_of_false (fun hwhole => ?_) fun hall => hc (hall c List.mem_cons_self)
      have hchar := hwhole c List.mem_cons_self
      cases c with
      | char c => exact hc rfl
      | half h => cases hchar

theorem checkPath_eq_ok {s : Text} {x : Unit} : checkPath s = .ok x ↔ IsName s := by
  simp only [checkPath, bind_eq_ok, mapError_eq_ok, Text.utf8_check_eq_ok, drop_inName_isWhole_iff,
    IsName]
  constructor
  · rintro ⟨_, hwhole, hnul⟩
    split at hnul
    · exact absurd hnul throw_ne_ok
    · next hno => exact ⟨hwhole, fun hmem => hno (List.contains_iff_mem.mpr hmem)⟩
  · rintro ⟨hwhole, hnul⟩
    refine ⟨(), hwhole, ?_⟩
    rw [if_neg fun hmem => hnul (List.contains_iff_mem.mp hmem)]
    rfl

theorem checkPath_escapes (s : Text) : Escapes (checkPath s) := by
  have hencode : Escapes ((Text.Encoding.utf8.check
      (s.drop (s.takeWhile inName).length)).mapError fun fault =>
        Fault.unencodable { fault with start := (s.takeWhile inName).length }) := by
    intro fault h
    cases hcheck : Text.Encoding.utf8.check (s.drop (s.takeWhile inName).length) with
    | ok _ =>
      rw [hcheck] at h
      cases h
    | error lapse =>
      rw [hcheck] at h
      cases h
      rfl
  refine hencode.bind fun _ => ?_
  split
  · exact .throw rfl
  · exact .pure

def HoldsText (files : FileTree) (path : FilePath) (text : Text) : Prop :=
  ∃ bytes, files.bytes path = .ok bytes ∧ textOf bytes = .ok text

def Holds [Host] (files : FileTree) (path : FilePath) (v : Value) : Prop :=
  ∃ text, files.HoldsText path text ∧ path.format.parse text = .ok v

end FileTree

namespace Design

/-- Nothing about a file gets past the refusals of the loader. -/
structure IsLoadable [Host] (files : FileTree) (path : FilePath) (default : Option Page) : Prop where
  named : FileTree.IsName path.text
  decoded : ∀ bytes, files.bytes path = .ok bytes → ∃ s, Text.Utf8.decode bytes = .ok s
  parsed : ∀ text fault, files.HoldsText path text →
    path.format.parse text ≠ .error (.content fault)
  sized : ∀ v size, files.Holds path v → Document.AsksFor v size → size.Fits
  canvas : ∀ v root canvas page, files.Holds path v → v.head = .mapping root →
    canvasOf root = some canvas → Page.ofDocument root default .canvasPage = .ok page →
      Canvas.IsTakenIn canvas

/-- Of a JSON file only a row of more than 4300 digits gets past the parser's refusals. -/
theorem parse_ne_content_of_rows [Host] {text : Text} (hformat : path.format = .json)
    (hrows : ∀ n, ¬Json.HasLongRow text n) (fault : Fault) :
    path.format.parse text ≠ .error (.content fault) := by
  rw [hformat]
  exact Json.parse_ne_content hrows fault

theorem outcome_load_of_text [Host] {text : Text} (hname : FileTree.IsName path.text)
    (htext : files.HoldsText path text) : (load files path default).outcome =
      (path.format.parse text).mapError
        (ReadFault.toFault fun fault => .design (.unparsable path.text fault)) >>= fun v =>
          (ofFileValue default v).outcome := by
  obtain ⟨bytes, hbytes, hdecoded⟩ := htext
  have hread : files.readText path (fun fault => .design (.unreadable path.text fault)) =
      .ok text := by
    refine bind_eq_ok.mpr ⟨(), FileTree.checkPath_eq_ok.mpr hname, ?_⟩
    exact bind_eq_ok.mpr ⟨bytes, mapError_eq_ok.mpr hbytes, hdecoded⟩
  simp only [load, Journaled.outcome_bind, Journaled.outcome_lift, hread]
  rfl

theorem outcome_load_of_value [Host] {v : Value} (hname : FileTree.IsName path.text)
    (hv : files.Holds path v) :
    (load files path default).outcome = (ofFileValue default v).outcome := by
  obtain ⟨text, htext, hparse⟩ := hv
  rw [outcome_load_of_text hname htext, hparse]
  rfl

theorem outcome_ofFileValue {v : Value} {root : Entries} (hroot : v.head = .mapping root) :
    (ofFileValue default v).outcome = match canvasOf root with
      | some canvas => Page.ofDocument root default .canvasPage >>= fun page =>
          (Canvas.design page canvas).outcome
      | none => (ofValue default v).outcome := by
  have hmap : v.mustMap "design" = .ok root := Value.mustMap_eq_ok.mpr hroot
  simp only [ofFileValue, Journaled.outcome_bind, Journaled.outcome_lift, hmap]
  cases hcanvas : canvasOf root with
  | none => simp only [bind, Except.bind, hcanvas]
  | some canvas =>
    simp only [bind, Except.bind, hcanvas]
    exact Journaled.outcome_bind _ _

/-- How the value of a file is refused, once its text has been parsed. -/
theorem ofFileValue_refuses {v : Value} (hsized : ∀ size, Document.AsksFor v size → size.Fits)
    (hcanvas : ∀ root canvas page, v.head = .mapping root → canvasOf root = some canvas →
      Page.ofDocument root default .canvasPage = .ok page → Canvas.IsTakenIn canvas) :
    Refuses v.hasText (ofFileValue default v).outcome := by
  cases hmap : v.mustMap "design" with
  | error fault =>
    have hfault : Refuses v.hasText (v.mustMap "design") := Value.mustMap_refuses "design" v
    rw [hmap] at hfault
    simp only [ofFileValue, Journaled.outcome_bind, Journaled.outcome_lift, hmap]
    exact hfault.bind fun _ h => nomatch h
  | ok root =>
    have hroot := Value.mustMap_eq_ok.mp hmap
    rw [outcome_ofFileValue hroot]
    split
    · next canvas hfound =>
      refine (Page.ofDocument_refuses hroot (Value.hasText_of_mustMap hmap) hsized _ _).bind
        fun page hpage => ?_
      intro fault hfault
      obtain ⟨f, rfl⟩ :=
        Canvas.isTakenIn_iff.mpr (hcanvas root canvas page hroot hfound hpage) fault hfault
      exact .inl rfl
    · exact ofValue_refuses default hsized

theorem outcome_ofFileValue_eq_error {v : Value} {size : PhysicalSize}
    (hasked : Document.AsksFor v size) (hfits : ¬size.Fits) :
    ∃ fault, (ofFileValue default v).outcome = .error (.arithmetic fault) := by
  obtain ⟨root, hroot⟩ := Document.exists_root_of_asksFor hasked
  rw [outcome_ofFileValue hroot]
  split
  · obtain ⟨fault, hfault⟩ :=
      Page.ofDocument_eq_error hroot hasked hfits default .canvasPage
    exact ⟨fault, bind_eq_error.mpr (.inl hfault)⟩
  · exact outcome_ofValue_eq_error default hasked hfits

/-- The reading of a file fails for its name, for want of the file or for its bytes. -/
theorem readText_eq_error {fault : Fault}
    (h : files.readText path (fun fault => .design (.unreadable path.text fault)) =
      .error fault) :
    fault.isRefusal = true ∨ ¬FileTree.IsName path.text ∨
      ∃ bytes, files.bytes path = .ok bytes ∧ ∀ s, Text.Utf8.decode bytes ≠ .ok s := by
  rcases bind_eq_error.mp h with hname | ⟨_, -, hread⟩
  · refine .inr (.inl fun hok => ?_)
    cases hname.symm.trans (FileTree.checkPath_eq_ok (x := ()).mpr hok)
  · rcases bind_eq_error.mp hread with hbytes | ⟨bytes, hbytes, htext⟩
    · cases hfound : files.bytes path with
      | ok bytes =>
        rw [hfound] at hbytes
        cases hbytes
      | error lapse =>
        rw [hfound] at hbytes
        cases hbytes
        exact .inl rfl
    · refine .inr (.inr ⟨bytes, mapError_eq_ok.mp hbytes, fun s hs => ?_⟩)
      rw [FileTree.textOf, hs] at htext
      cases htext

theorem IsLoadable.refuses [Host] (h : IsLoadable files path default)
    (htext : ∀ v, files.Holds path v → v.hasText = true) {fault : Fault}
    (hfault : (load files path default).outcome = .error fault) : fault.isRefusal = true := by
  cases hread : files.readText path fun fault => .design (.unreadable path.text fault) with
  | error lapse =>
    have hlapse : lapse = fault := by
      simp only [load, Journaled.outcome_bind, Journaled.outcome_lift, hread] at hfault
      exact Except.error.inj hfault
    subst hlapse
    rcases readText_eq_error hread with hrefusal | hname | ⟨bytes, hbytes, hno⟩
    · exact hrefusal
    · exact absurd h.named hname
    · obtain ⟨s, hs⟩ := h.decoded bytes hbytes
      exact absurd hs (hno s)
  | ok text =>
    obtain ⟨_, -, hholds⟩ := bind_eq_ok.mp hread
    obtain ⟨bytes, hbytes, hdecoded⟩ := bind_eq_ok.mp hholds
    have hholds : files.HoldsText path text := ⟨bytes, mapError_eq_ok.mp hbytes, hdecoded⟩
    rw [outcome_load_of_text h.named hholds, bind_eq_error] at hfault
    rcases hfault with hparse | ⟨v, hparse, hvalue⟩
    · cases hstop : path.format.parse text with
      | ok v =>
        rw [hstop] at hparse
        cases hparse
      | error stop =>
        cases stop with
        | broken fault =>
          rw [hstop] at hparse
          cases hparse
          rfl
        | content fault => exact absurd hstop (h.parsed text fault hholds)
    · have hv : files.Holds path v := ⟨text, hholds, mapError_eq_ok.mp hparse⟩
      have hrefuses : Refuses v.hasText (ofFileValue default v).outcome :=
        ofFileValue_refuses (h.sized v · hv) fun root canvas page => h.canvas v root canvas page hv
      rcases hrefuses fault hvalue with hrefusal | ⟨-, hno⟩
      · exact hrefusal
      · rw [htext v hv] at hno
        cases hno

theorem isLoadable_of_refuses [Host]
    (h : ∀ fault, (load files path default).outcome = .error fault → fault.isRefusal = true) :
    IsLoadable files path default := by
  have hread : ∀ fault, files.readText path
      (fun fault => .design (.unreadable path.text fault)) = .error fault →
        fault.isRefusal = true := by
    intro fault hfault
    refine h fault ?_
    simp only [load, Journaled.outcome_bind, Journaled.outcome_lift, hfault]
    rfl
  have hnamed : FileTree.IsName path.text := by
    cases hcheck : FileTree.checkPath path.text with
    | ok _ => exact FileTree.checkPath_eq_ok.mp hcheck
    | error fault =>
      have hrefusal := hread fault (bind_eq_error.mpr (.inl hcheck))
      rw [FileTree.checkPath_escapes _ fault hcheck] at hrefusal
      cases hrefusal
  have hvalue : ∀ v, files.Holds path v → ∀ fault,
      (ofFileValue default v).outcome = .error fault → fault.isRefusal = true := by
    intro v hv fault hfault
    rw [← outcome_load_of_value hnamed hv] at hfault
    exact h fault hfault
  constructor
  case named => exact hnamed
  case decoded =>
    intro bytes hbytes
    cases hdecode : Text.Utf8.decode bytes with
    | ok s => exact ⟨s, rfl⟩
    | error lapse =>
      have hrefusal := hread (.undecodable lapse) ?_
      · cases hrefusal
      · refine bind_eq_error.mpr (.inr ⟨(), FileTree.checkPath_eq_ok.mpr hnamed, ?_⟩)
        refine bind_eq_error.mpr (.inr ⟨bytes, mapError_eq_ok.mpr hbytes, ?_⟩)
        simp only [FileTree.textOf, hdecode]
  case parsed =>
    intro text fault htext hparse
    have hrefusal := h fault ?_
    · rw [DocumentFormat.parse_content hparse] at hrefusal
      cases hrefusal
    · rw [outcome_load_of_text hnamed htext, hparse]
      rfl
  case sized =>
    intro v size hv hasked
    by_contra hfits
    have hescapes : ∃ fault, (ofFileValue default v).outcome = .error (.arithmetic fault) :=
      outcome_ofFileValue_eq_error hasked hfits
    obtain ⟨fault, hfault⟩ := hescapes
    cases hvalue v hv _ hfault
  case canvas =>
    intro v root canvas page hv hroot hcanvas hpage
    refine Canvas.isTakenIn_iff.mp fun fault
      (hfault : (Canvas.design page canvas).outcome = .error fault) => ?_
    have houtcome : (ofFileValue default v).outcome = .error fault := by
      rw [outcome_ofFileValue hroot, hcanvas]
      exact bind_eq_error.mpr (.inr ⟨page, hpage, hfault⟩)
    have hrefusal := hvalue v hv fault houtcome
    refine (Canvas.outcome_design_eq_error hfault).resolve_right fun hescapes => ?_
    rw [hescapes.1] at hrefusal
    cases hrefusal

/-- A file ends as a design or is refused exactly if it is named by a path and holds a text, no
scalar of it stands for nothing, the page that it may ask for in a unit of length fits, and the
objects of its canvas can be converted. The parsers, `Json.parse` and `Yaml.parse`, are assumed not to
run out of stack on a text that is nested very deeply. -/
theorem loaded_or_refused_iff [Host] (files : FileTree) (path : FilePath) (default : Option Page)
    (htext : path.format = .yaml → ∀ v, files.Holds path v → v.hasText = true) :
    (∀ fault, (load files path default).outcome = .error fault → fault.isRefusal = true) ↔
      IsLoadable files path default := by
  refine ⟨isLoadable_of_refuses, fun h fault => h.refuses fun v hv => ?_⟩
  cases hformat : path.format with
  | yaml => exact htext hformat v hv
  | json =>
    obtain ⟨text, -, hparse⟩ := hv
    rw [hformat] at hparse
    exact Json.hasText_of_parse hparse

end Design

def loneFile (name : Text) (bytes : List UInt8) : FileTree := ⟨[(⟨.here, [name]⟩, .file bytes)]⟩

def pagelessText : String := "elements: [three]"

def pagelessFile : FileTree := loneFile "label.yaml" (Text.Utf8.encode pagelessText)

section Examples
attribute [local instance] Host.plain

theorem loaded_or_refused_pageless :
    (∀ v, pagelessFile.Holds (.ofText "label.yaml") v → v.hasText = true) ∧
      Design.IsLoadable pagelessFile (.ofText "label.yaml") none := by
  have hdecoded : pagelessFile.bytes (.ofText "label.yaml") =
      .ok (Text.Utf8.encode pagelessText) := by decide +kernel
  have hread : FileTree.textOf (Text.Utf8.encode pagelessText) = .ok pagelessText := by
    decide +kernel
  have hvalue : (Yaml.parse pagelessText).toOption.all Value.hasText = true := by decide +kernel
  have htext : ∀ v, pagelessFile.Holds (.ofText "label.yaml") v → v.hasText = true := by
    rintro v ⟨text, ⟨bytes, hbytes, htext⟩, hparse⟩
    cases hdecoded.symm.trans hbytes
    cases hread.symm.trans htext
    change Yaml.parse pagelessText = .ok v at hparse
    rw [hparse] at hvalue
    exact hvalue
  refine ⟨htext, (Design.loaded_or_refused_iff _ _ _ fun _ => htext).mp fun fault hfault => ?_⟩
  have houtcome : (Design.load pagelessFile (.ofText "label.yaml") none).outcome =
      .error (.design .noPage) := by decide +kernel
  cases houtcome.symm.trans hfault
  rfl

/-- A design file of one byte that starts no character. -/
def garbledFile : FileTree := loneFile "label.json" [0xff]

theorem not_refused_garbled : ∃ fault,
    (Design.load garbledFile (.ofText "label.json") none).outcome = .error fault ∧
      fault.isRefusal = false := by
  refine ⟨.undecodable ⟨0xff, 0, 1, Text.Utf8.badStart⟩, ?_, rfl⟩
  decide +kernel

end Examples

end LabelPress
