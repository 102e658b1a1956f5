import FormBuilder.Field.Basic
import FormBuilder.Mint
/-! Reading fields from raw data. Settings may stand inside `config` or beside the field's own
attributes; inside wins. All faults of a field are reported, in the order its attributes are
declared. -/
namespace FormBuilder
open Checked (fault)

namespace Scale

def read (v : Value) : Checked Scale :=
  match Scalar.int v with
  | .ok n => if h : 0 < n then .ok ⟨n.toNat,Int.pos_iff_toNat_pos.1 h⟩ else fault (.belowMinimum 1)
  | .error e => .error e

end Scale

namespace Kind

def optionList (config : Object) : Checked (List String) := config.readAt Key.options.names [] Scalar.texts

def read (config : Object) : FieldType → Checked Kind
  | .text => .ok .text
  | .email => .ok .email
  | .longtext => (config.readAt Key.helpText.names none (Scalar.optional Scalar.text)).map longtext
  | .number =>
    .both number (config.readAt Key.min.names none (Scalar.optional Scalar.double))
      (config.readAt Key.max.names none (Scalar.optional Scalar.double))
  | .phone => .ok .phone
  | .url => .ok .url
  | .date => .ok .date
  | .checkbox => (optionList config).map checkbox
  | .radio => (optionList config).map radio
  | .dropdown => (optionList config).map dropdown
  | .rating => (config.readAt Key.maxRating.names .default Scale.read).map rating
  | .file =>
    .both file (config.readAt Key.fileTypes.names [] Scalar.texts)
      (config.readAt Key.maxFileSize.names none (Scalar.optional Scalar.nat))
  | .matrix =>
    .both matrix (config.readAt Key.rows.names [] Scalar.texts)
      (config.readAt Key.columns.names [] Scalar.texts)
  | .ranking => (optionList config).map ranking
  | .pictureChoice =>
    .both pictureChoice (optionList config) (config.readAt Key.imageUrls.names [] Scalar.texts)
  | .signature => .ok .signature
  | .pageBreak => .ok .pageBreak
  | .divider => .ok .divider

end Kind

namespace Common

def readRequired : Value → Checked Bool
  | .null => .ok false
  | v => Scalar.bool v

def read (config : Object) : Checked Common :=
  .part (.part ((config.readAt Key.required.names false readRequired).map Common.mk)
    (config.readAt Key.placeholder.names none (Scalar.optional Scalar.text)))
    (config.readAt Key.condition.names none (Scalar.optional Condition.read))

end Common

namespace Field

def flatKeys : List String :=
  ["required","placeholder","condition","options","min","max","maxRating","max_rating","rows",
    "columns","imageUrls","image_urls","helpText","help_text","fileTypes","file_types",
    "maxFileSize","max_file_size"]

def isFlat (key : String) : Bool := flatKeys.contains key

/-- Moves flat settings into `config`, under the ones that already stand there. A `config` that is
no object is left for the reader to refuse. -/
def foldFlat (raw : Object) : Object :=
  let flat : Object := raw.filter (fun e => isFlat e.1)
  let rest : Object := raw.filter (fun e => !isFlat e.1)
  if flat.isEmpty then raw
  else
    match raw.value? "config" with
    | none | some .null => rest.put "config" (.object flat)
    | some (.object inside) => rest.put "config" (.object (Object.overlay flat inside))
    | some _ => raw

def tagged : Value → Checked (FieldType × Object)
  | .object raw =>
    match Object.value? raw "type" with
    | none => fault .missingTag
    | some (.str s) =>
      match FieldType.ofName? s with
      | some t => .ok (t,raw)
      | none => fault .unknownTag
    | some _ => fault .unknownTag
  | _ => fault .notAttributes

def readSettings (t : FieldType) (v : Value) : Checked (Common × Kind) :=
  match v with
  | .object config => .both Prod.mk (Common.read config) (Kind.read config t)
  | _ => fault .notRecord

def persistedIdNames : List String := ["persistedId","persisted_id","dbId"]

def assemble (id : String) (persistedId : Option String) (label : String) (order : Nat)
    (settings : Common × Kind) : Field :=
  ⟨id,persistedId,label,order,settings.1,settings.2⟩

def settingsOf (t : FieldType) (raw : Object) : Checked (Common × Kind) :=
  match raw.value? "config" with
  | none => readSettings t (.object [])
  | some v => Checked.under (.name "config") (readSettings t v)

def ofObject (fresh : String) (t : FieldType) (raw : Object) : Checked Field :=
  let raw := foldFlat raw
  .part (.part (.part (.part ((raw.readAt Key.id.names fresh Scalar.text).map assemble)
    (raw.readAt persistedIdNames none (Scalar.optional Scalar.text)))
    (raw.readAt Key.label.names "" Scalar.text))
    (raw.readAt Key.order.names 0 Scalar.nat))
    (settingsOf t raw)

def read (fresh : String) (v : Value) : Checked Field :=
  match tagged v with
  | .error e => .error e
  | .ok (t,raw) => Checked.under (.name t.name) (ofObject fresh t raw)

def takesFresh (v : Value) : Bool :=
  match tagged v with
  | .error _ => false
  | .ok (_,raw) => !raw.has "id"

def parse (v : Value) (m : Mint) : Checked Field × Mint :=
  if takesFresh v then
    let (fresh,m) := m.fieldId
    (read fresh v,m)
  else (read "" v,m)

def parseAll : List Value → Mint → Checked (List Field) × Mint
  | [],m => (.ok [],m)
  | v :: rest,m =>
    match parse v m with
    | (.error e,m) => (.error e,m)
    | (.ok f,m) =>
      let (tail,m) := parseAll rest m
      (tail.map (f :: ·),m)

def parseEach (start : Nat) : List Value → Mint → Checked (List Field) × Mint
  | [],m => (.ok [],m)
  | v :: rest,m =>
    let (head,m) := parse v m
    let (tail,m) := parseEach (start + 1) rest m
    (Checked.both (· :: ·) (Checked.under (.index start) head) tail,m)

end Field
end FormBuilder
