import FormBuilder.Form
import FormBuilder.Markup.Content
/-! Cleaning texts that people wrote: markup goes, stray angle brackets go, and so do the blanks at
either end. Keys and everything that is no text stay as they are. -/
namespace FormBuilder.Sanitize
open FormBuilder.Text (trimChars)

def isBracket (c : Char) : Bool := c = '<' || c = '>'

def dropTags : List Char → List Char
  | [] => []
  | c :: rest => if c = '<' && rest.contains '>' then dropTags ((rest.dropWhile (· != '>')).drop 1) else c :: dropTags rest
termination_by cs => cs.length
decreasing_by
  · simp only [List.length_cons,List.length_drop]
    have := (List.dropWhile_sublist (l := rest) (p := (· != '>'))).length_le
    omega
  · simp

def stripWith (reader : String → Option String) (text : String) : String :=
  if text.toList.contains '<' then (reader text).getD (String.ofList (dropTags text.toList)) else text

def cleanWith (reader : String → Option String) (text : String) : String :=
  String.ofList (trimChars ((stripWith reader text).toList.filter (fun c => !isBracket c)))

def read (text : String) : Option String := some (Markup.content text)

def strip (text : String) : String := stripWith read text

def clean (text : String) : String := cleanWith read text

def cleanOptional (text : Option String) : Option String := (text.map clean).filter (fun s => !s.isEmpty)

def textWith (f : String → String) : Value → Value
  | .str s => .str (f s)
  | v => v

def valueWith (f : String → String) : Value → Value
  | .str s => .str (f s)
  | .list items => .list (items.map (textWith f))
  | .object entries => .object (entries.map (fun e => (e.1,textWith f e.2)))
  | v => v

def submissionWith (f : String → String) (data : Object) : Object := data.map (fun e => (e.1,valueWith f e.2))

def submission (data : Object) : Object := submissionWith clean data

end FormBuilder.Sanitize

namespace FormBuilder.Field
open Sanitize (clean cleanOptional)

def cleanKind : Kind → Kind
  | .longtext help => .longtext (cleanOptional help)
  | k => k

def cleaned (f : Field) : Field :=
  { f with
    label := clean f.label
    common := { f.common with placeholder := cleanOptional f.common.placeholder }
    kind := cleanKind f.kind }

inductive ListFault where
  | malformed (faults : List Fault)
  | repeatedId
  deriving Repr

def ListFault.message : ListFault → String
  | malformed faults => "Invalid field definitions: " ++ toString faults.length ++ " errors"
  | repeatedId => "Field ids must be unique within a form"

def distinctIds (fields : List Field) : Bool := decide (fields.map (·.id)).Nodup

def arrange (fields : List Field) : Except ListFault (List Field) :=
  if distinctIds fields then .ok (renumber ((sorted fields).map cleaned)) else .error .repeatedId

def prepare (items : List Value) (m : Mint) : Except ListFault (List Field) × Mint :=
  match parseAll items m with
  | (.error faults,m) => (.error (.malformed faults),m)
  | (.ok fields,m) => (arrange fields,m)

end FormBuilder.Field
