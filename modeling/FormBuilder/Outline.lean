import FormBuilder.Field.Initial
import FormBuilder.Notice
import FormBuilder.Text.Lines
import FormBuilder.Text.Word
/-! Forms as plain text, one field a line: a label, `*` before a required one, `/type` before a label
for any other kind, a question with its options after the mark, and `-` for a divider. Lines are read
independently of each other. -/
namespace FormBuilder
open Text (isBlank trimChars)

inductive Item where
  | plain (label : String)
  | required (label : String)
  | typed (name : String) (label : String)
  | choice (label : String) (options : List String)
  | divider
  deriving DecidableEq, Repr

namespace Item

def splitCommas : List Char → List (List Char)
  | [] => [[]]
  | c :: rest =>
    match splitCommas rest with
    | [] => [[]]
    | first :: more => if c = ',' then [] :: first :: more else (c :: first) :: more

def optionsOf (cs : List Char) : List (List Char) :=
  ((splitCommas cs).map trimChars).filter (fun o => !o.isEmpty)

def ofMarked (cs : List Char) : Option Item :=
  let word := cs.takeWhile Text.isWord
  let rest := cs.drop word.length
  let label := trimChars rest
  if word.isEmpty || !rest.head?.any isBlank || label.isEmpty then none
  else some (.typed (Text.lower (String.ofList word)) (String.ofList label))

def ofQuestion (cs : List Char) : Item :=
  match cs.dropWhile (· != '?') with
  | [] => .plain (String.ofList cs)
  | _ :: after =>
    match optionsOf after with
    | [] => .plain (String.ofList cs)
    | options => .choice (String.ofList (trimChars (cs.takeWhile (· != '?')) ++ ['?'])) (options.map String.ofList)

def ofLine (cs : List Char) : Option Item :=
  match cs with
  | [] => none
  | '/' :: rest => ofMarked rest
  | '*' :: rest => some (.required (String.ofList (trimChars rest)))
  | '-' :: _ => some .divider
  | cs => some (ofQuestion cs)

def write : Item → List Char
  | plain label => label.toList
  | required label => '*' :: label.toList
  | typed name label => '/' :: name.toList ++ ' ' :: label.toList
  | choice label options => label.toList ++ ' ' :: (", ".intercalate options).toList
  | divider => ['-']

def shape : Item → Option (Kind × Bool × String)
  | plain label => some (.text,false,label)
  | required label => some (.text,true,label)
  | typed name label => (FieldType.ofName? name).map (fun t => (.plain t,false,label))
  | choice label options => some (.radio options,false,label)
  | divider => some (.divider,false,"")

def field? (item : Item) (id : String) (order : Nat) : Option Field :=
  item.shape.map fun s => ⟨id,none,s.2.2,order,.plain s.2.1,s.1⟩

def kindName : Item → String
  | typed name _ => name
  | choice _ _ => "radio"
  | divider => "divider"
  | _ => "text"

end Item

namespace Outline

structure Parsed where
  fields : List Field
  notices : List Notice
  deriving Repr

def unsupported (line : Nat) (item : Item) : Notice :=
  ⟨.warning,"Line " ++ toString line ++ ": unsupported field type " ++ Text.quoted item.kindName ++ ", skipped (1 errors)"⟩

def parseLines (line order : Nat) (m : Mint) : List (List Char) → Parsed × Mint
  | [] => (⟨[],[]⟩,m)
  | raw :: rest =>
    match Item.ofLine (trimChars raw) with
    | none => parseLines (line + 1) order m rest
    | some item =>
      let (id,m) := m.fieldId
      match item.field? id order with
      | none =>
        let (parsed,m) := parseLines (line + 1) order m rest
        (⟨parsed.fields,unsupported line item :: parsed.notices⟩,m)
      | some f =>
        let (parsed,m) := parseLines (line + 1) (order + 1) m rest
        (⟨f :: parsed.fields,parsed.notices⟩,m)

def parse (text : String) (m : Mint) : Parsed × Mint := parseLines 1 0 m (Text.lines text.toList)

end Outline
end FormBuilder
