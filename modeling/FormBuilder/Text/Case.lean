import FormBuilder.Text.CaseData
/-! Lower case of a text. Every character maps by itself, save that a dotted capital I keeps its
dot and a sigma takes its final shape at the end of a word. -/
namespace FormBuilder.Text

def isCased (c : Char) : Bool := casedRanges.contains c.toNat
def isCaseIgnorable (c : Char) : Bool := caseIgnorableRanges.contains c.toNat

def besideCased (cs : List Char) : Bool :=
  match cs.dropWhile isCaseIgnorable with
  | [] => false
  | c :: _ => isCased c

def lowerAt (before : List Char) (c : Char) (after : List Char) : List Char :=
  if c.toNat = 0x130 then ['i',Char.ofNat 0x307]
  else if c.toNat = 0x3a3 then
    [Char.ofNat (if besideCased before && !besideCased after then 0x3c2 else 0x3c3)]
  else [lowerShifts.apply c]

def lowerFrom (before : List Char) : List Char → List Char
  | [] => []
  | c :: after => lowerAt before c after ++ lowerFrom (c :: before) after

def lower (s : String) : String := String.ofList (lowerFrom [] s.toList)

end FormBuilder.Text
