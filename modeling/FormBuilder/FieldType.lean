/-! The kinds of fields a form may hold, and how the palette presents them. -/
namespace FormBuilder

inductive FieldType where
  | text | email | longtext | number | phone | url | date | checkbox | radio | dropdown | rating
  | file | matrix | ranking | pictureChoice | signature | pageBreak | divider
  deriving DecidableEq, Repr

inductive Category where
  | basic | choice | advanced | layout
  deriving DecidableEq, Repr

def Category.name : Category → String
  | basic => "basic"
  | choice => "choice"
  | advanced => "advanced"
  | layout => "layout"

namespace FieldType

def all : List FieldType :=
  [text,email,longtext,number,phone,url,date,checkbox,radio,dropdown,rating,file,matrix,
    ranking,pictureChoice,signature,pageBreak,divider]

def name : FieldType → String
  | text => "text"
  | email => "email"
  | longtext => "longtext"
  | number => "number"
  | phone => "phone"
  | url => "url"
  | date => "date"
  | checkbox => "checkbox"
  | radio => "radio"
  | dropdown => "dropdown"
  | rating => "rating"
  | file => "file"
  | matrix => "matrix"
  | ranking => "ranking"
  | pictureChoice => "picture_choice"
  | signature => "signature"
  | pageBreak => "page_break"
  | divider => "divider"

def ofName? (s : String) : Option FieldType := all.find? (fun t => t.name == s)

theorem ofNameName (t : FieldType) : ofName? t.name = some t := by cases t <;> decide

def isLayout : FieldType → Bool
  | divider | pageBreak => true
  | _ => false

def defaultLabel : FieldType → String
  | text => "Short Text"
  | longtext => "Long Text"
  | email => "Email"
  | number => "Number"
  | phone => "Phone"
  | url => "URL"
  | date => "Date"
  | checkbox => "Checkbox"
  | radio => "Radio"
  | dropdown => "Dropdown"
  | rating => "Rating"
  | matrix => "Matrix Question"
  | ranking => "Ranking"
  | pictureChoice => "Picture Choice"
  | signature => "Signature"
  | file => "File Upload"
  | pageBreak => "Page Break"
  | divider => "Divider"

def paletteLabel : FieldType → String
  | matrix => "Matrix"
  | t => t.defaultLabel

def icon : FieldType → String
  | text => "Type"
  | longtext => "FileText"
  | email => "Mail"
  | number => "Hash"
  | phone => "Phone"
  | url => "Link"
  | date => "Calendar"
  | checkbox => "CheckSquare"
  | radio => "Circle"
  | dropdown => "ChevronDown"
  | pictureChoice => "Image"
  | rating => "Star"
  | matrix => "Grid3x3"
  | ranking => "ListOrdered"
  | file => "Upload"
  | signature => "PenTool"
  | pageBreak => "SeparatorHorizontal"
  | divider => "Minus"

def category : FieldType → Category
  | text | longtext | email | number | phone | url | date => .basic
  | checkbox | radio | dropdown | pictureChoice => .choice
  | rating | matrix | ranking | file | signature => .advanced
  | pageBreak | divider => .layout

def palette : List FieldType :=
  [text,longtext,email,number,phone,url,date,checkbox,radio,dropdown,pictureChoice,rating,
    matrix,ranking,file,signature,pageBreak,divider]

end FieldType
end FormBuilder
