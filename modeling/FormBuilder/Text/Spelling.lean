import FormBuilder.Text.Case
/-! Names in underscore spelling. -/
namespace FormBuilder.Text

def isUpperAscii (c : Char) : Bool := 'A' ≤ c && c ≤ 'Z'
def isLowerAscii (c : Char) : Bool := 'a' ≤ c && c ≤ 'z'
def isDigitAscii (c : Char) : Bool := '0' ≤ c && c ≤ '9'

/-- Whether a word begins at `c`, given the characters on either side. A capital begins a word
after a small letter or a digit, and inside a run of capitals when a small letter follows; a digit
begins one after a small letter. -/
def beginsWord (before : Option Char) (c : Char) (after : Option Char) : Bool :=
  match before with
  | none => false
  | some b =>
    (isUpperAscii c && (isLowerAscii b || isDigitAscii b || (isUpperAscii b && after.any isLowerAscii))) ||
      (isDigitAscii c && isLowerAscii b)

def splitWords (before : Option Char) : List Char → List Char
  | [] => []
  | c :: rest =>
    let shown := if c = '-' then '_' else c
    if beginsWord before c rest.head? then '_' :: shown :: splitWords (some c) rest
    else shown :: splitWords (some c) rest

def underscored (name : String) : String :=
  String.ofList (lowerFrom [] (splitWords none name.toList))

end FormBuilder.Text
