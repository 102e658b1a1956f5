import FormBuilder.Condition
import FormBuilder.FieldType
import FormBuilder.Text.Slug
/-! Fields: a kind with its own settings, inside what every field has. -/
namespace FormBuilder

structure Scale where
  top : Nat
  positive : 0 < top
  deriving DecidableEq, Repr

def Scale.default : Scale := ⟨5,by decide⟩

inductive Kind where
  | text
  | email
  | longtext (help : Option String)
  | number (least most : Option Double)
  | phone
  | url
  | date
  | checkbox (options : List String)
  | radio (options : List String)
  | dropdown (options : List String)
  | rating (scale : Scale)
  | file (types : List String) (maxSize : Option Nat)
  | matrix (rows columns : List String)
  | ranking (options : List String)
  | pictureChoice (options images : List String)
  | signature
  | pageBreak
  | divider
  deriving DecidableEq, Repr

def Kind.type : Kind → FieldType
  | text => .text
  | email => .email
  | longtext _ => .longtext
  | number _ _ => .number
  | phone => .phone
  | url => .url
  | date => .date
  | checkbox _ => .checkbox
  | radio _ => .radio
  | dropdown _ => .dropdown
  | rating _ => .rating
  | file _ _ => .file
  | matrix _ _ => .matrix
  | ranking _ => .ranking
  | pictureChoice _ _ => .pictureChoice
  | signature => .signature
  | pageBreak => .pageBreak
  | divider => .divider

structure Common where
  required : Bool
  placeholder : Option String
  condition : Option Condition
  deriving Repr

structure Field where
  id : String
  persistedId : Option String
  label : String
  order : Nat
  common : Common
  kind : Kind
  deriving Repr

namespace Field

def type (f : Field) : FieldType := f.kind.type

def valueKey (f : Field) : String := Text.valueKey f.label

def required (f : Field) : Bool := f.common.required

def condition (f : Field) : Option Condition := f.common.condition

def isLayout (f : Field) : Bool := f.type.isLayout

def sorted (fields : List Field) : List Field := fields.mergeSort (fun a b => a.order ≤ b.order)

def renumberFrom (start : Nat) : List Field → List Field
  | [] => []
  | f :: rest => { f with order := start } :: renumberFrom (start + 1) rest

def renumber (fields : List Field) : List Field := renumberFrom 0 fields

def find? (fields : List Field) (id : String) : Option Field := fields.find? (fun f => f.id == id)

end Field
end FormBuilder
