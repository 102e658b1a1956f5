import FormBuilder.Text.Blank
import FormBuilder.Text.FoldData
import FormBuilder.Text.Spelling
/-! Slugs and value keys: the names that forms and their answers are found by. -/
namespace FormBuilder.Text

def joinBlanks : Bool → List Char → List Char
  | _,[] => []
  | inside,c :: rest =>
    if isBlank c then (if inside then joinBlanks true rest else '_' :: joinBlanks true rest)
    else c :: joinBlanks false rest

def valueKey (label : String) : String := String.ofList (joinBlanks false (lowerFrom [] label.toList))

def asciiOf (c : Char) : List Char :=
  if c.toNat < 128 then [c] else (asciiPieces.find? c).getD []

def lowerAscii (c : Char) : Char := if isUpperAscii c then Char.ofNat (c.toNat + 32) else c

def isSlugLetter (c : Char) : Bool := isLowerAscii c || isDigitAscii c
def isSlugSeparator (c : Char) : Bool := isBlank c || c == '-'

def dashed (started owed : Bool) : List Char → List Char
  | [] => []
  | c :: rest =>
    if isSlugLetter c then (if started && owed then '-' :: c :: dashed true false rest else c :: dashed true false rest)
    else dashed started (owed || isSlugSeparator c) rest

def slug (text : String) : String :=
  String.ofList (dashed false false ((text.toList.flatMap asciiOf).map lowerAscii))

end FormBuilder.Text
