import LabelPress.Field.Spec

/-!
# Field catalogs

A catalog is a list of field specifications with distinct keys.
-/

namespace LabelPress

/-- Field specifications in order, no two with one key. -/
structure Catalog where
  specs : List FieldSpec
  distinct : (specs.map (·.key)).Nodup

namespace Catalog

/-- The first key in `keys` that occurs before, in the list or in `seen`. -/
def firstRepeated (seen : List Text) : List Text → Option Text
  | [] => none
  | k :: rest => if seen.contains k then some k else firstRepeated (k :: seen) rest

def ofSpecs (specs : List FieldSpec) : Except Fault Catalog :=
  if h : (specs.map (·.key)).Nodup then .ok ⟨specs, h⟩
  else .error (.duplicateKey
    (Text.quoted ((firstRepeated [] (specs.map (·.key))).getD "")))

def size (c : Catalog) : Nat := c.specs.length

def keys (c : Catalog) : List Text := c.specs.map (·.key)

def get? (c : Catalog) (key : Text) : Option FieldSpec := c.specs.find? fun s => s.key == key

def get (c : Catalog) (key : Text) : Except Fault FieldSpec :=
  match c.get? key with
  | some spec => .ok spec
  | none => .error (.unknownKey (Text.quoted key))

def has (c : Catalog) (key : Text) : Bool := (c.get? key).isSome

def byCategory (c : Catalog) (category : FieldCategory) : List FieldSpec :=
  c.specs.filter fun s => s.category == category

def builtinSpecs : List FieldSpec := [
  { key := "order_uid", label := "Order UID", category := .order },
  { key := "customer_part_number", label := "Part Number", category := .order },
  { key := "bpi_description", label := "BPI Description", category := .order },
  { key := "total_quantity", label := "Total Quantity", category := .order, lead := "QTY: " },
  { key := "ct_number", label := "CT Number", category := .order },
  { key := "po_number", label := "PO Number", category := .order, lead := "PO: " },
  { key := "order_date", label := "Order Date", category := .order, pattern := some "DD/MM/YY" },
  { key := "eta_date", label := "ETA Date", category := .order, pattern := some "DD/MM/YY" },
  { key := "customer_name", label := "Customer Name", category := .customer },
  { key := "customer_description", label := "Customer Description", category := .customer },
  { key := "print_date", label := "Print Date", category := .system, pattern := some "DD/MM/YY" },
  { key := "print_time", label := "Print Time", category := .system, pattern := some "HH:mm" },
  { key := "user_name", label := "Printed By", category := .system },
  { key := "location", label := "Location", category := .system },
  { key := "batch_number", label := "Batch Number", category := .system }]

def builtin : Catalog := ⟨builtinSpecs, by decide⟩

end Catalog
end LabelPress
