import FormBuilder.Field.Read
import FormBuilder.Field.Wire
/-! The settings fields start with: none given, or the samples a new field shows. -/
namespace FormBuilder

namespace Kind

def plain : FieldType → Kind
  | .text => .text
  | .email => .email
  | .longtext => .longtext none
  | .number => .number none none
  | .phone => .phone
  | .url => .url
  | .date => .date
  | .checkbox => .checkbox []
  | .radio => .radio []
  | .dropdown => .dropdown []
  | .rating => .rating .default
  | .file => .file [] none
  | .matrix => .matrix [] []
  | .ranking => .ranking []
  | .pictureChoice => .pictureChoice [] []
  | .signature => .signature
  | .pageBreak => .pageBreak
  | .divider => .divider

def initial : FieldType → Kind
  | .checkbox => .checkbox ["Option 1"]
  | .radio => .radio ["Option 1"]
  | .dropdown => .dropdown ["Option 1"]
  | .matrix => .matrix ["Row 1"] ["Column 1"]
  | .ranking => .ranking ["Option 1","Option 2","Option 3"]
  | t => plain t

theorem typeInitial (t : FieldType) : (initial t).type = t := by cases t <;> rfl

def samples : FieldType → List (Key × Value)
  | .file => []
  | t => (initial t).attributes.filter fun a =>
    match a.2 with
    | .null => false
    | _ => true

end Kind

namespace Common

def plain (required : Bool) : Common := ⟨required,none,none⟩

end Common

namespace Field

def startingConfig (t : FieldType) : Object :=
  ("required",.bool false) :: (Kind.samples t).map (fun a => (a.1.snake,a.2))

def initial (id : String) (t : FieldType) (order : Nat) : Field :=
  ⟨id,none,t.defaultLabel,order,.plain false,.initial t⟩

end Field
end FormBuilder
