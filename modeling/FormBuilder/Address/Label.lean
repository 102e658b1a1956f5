import FormBuilder.Address.LabelData
import FormBuilder.Address.Mapping
import FormBuilder.Address.Punycode
import FormBuilder.Text.DirectionData
/-! Labels of international host names: which characters may stand where. -/
namespace FormBuilder.Address
open FormBuilder.Text

inductive Direction where
  | left | right | europeanDigit | arabicDigit | nonspacing | neutral | other
  deriving DecidableEq, Repr

def direction (c : Char) : Direction :=
  let n := c.toNat
  if leftRanges.contains n then .left
  else if rightRanges.contains n then .right
  else if europeanDigitRanges.contains n then .europeanDigit
  else if arabicDigitRanges.contains n then .arabicDigit
  else if nonspacingRanges.contains n then .nonspacing
  else if neutralRanges.contains n then .neutral
  else .other

def isRightward (d : Direction) : Bool := d == .right || d == .arabicDigit

def ending (ds : List Direction) : Option Direction := ds.reverse.find? (· != .nonspacing)

def directionsAgree (ds : List Direction) : Bool :=
  match ds.head? with
  | some .right =>
    ds.all (fun d => d != .left && d != .other) &&
      (ending ds).any (fun d => d == .right || d == .europeanDigit || d == .arabicDigit) &&
      !(ds.contains .europeanDigit && ds.contains .arabicDigit)
  | some .left =>
    ds.all (fun d => d == .left || d == .europeanDigit || d == .neutral || d == .nonspacing) &&
      (ending ds).any (fun d => d == .left || d == .europeanDigit)
  | _ => false

def joinerFits (before after : List Char) (c : Char) : Bool :=
  let afterSign := before.head?.any (fun b => combiningClass b == 9)
  if c.toNat = 0x200d then afterSign
  else
    let visible (cs : List Char) := (cs.dropWhile (fun b => transparentRanges.contains b.toNat)).head?
    afterSign || ((visible before).any (fun b => joinsNextRanges.contains b.toNat) &&
      (visible after).any (fun b => joinsBeforeRanges.contains b.toNat))

def contextFits (before after : List Char) (c : Char) : Bool :=
  let n := c.toNat
  let all := before ++ after
  if n = 0xb7 then before.head? = some 'l' && after.head? = some 'l'
  else if n = 0x375 then after.head?.any (fun b => greekRanges.contains b.toNat)
  else if n = 0x5f3 ∨ n = 0x5f4 then before.head?.any (fun b => hebrewRanges.contains b.toNat)
  else if n = 0x30fb then all.any (fun b => b.toNat != 0x30fb && japaneseRanges.contains b.toNat)
  else if 0x660 ≤ n ∧ n ≤ 0x669 then !all.any (fun b => 0x6f0 ≤ b.toNat && b.toNat ≤ 0x6f9)
  else if 0x6f0 ≤ n ∧ n ≤ 0x6f9 then !all.any (fun b => 0x660 ≤ b.toNat && b.toNat ≤ 0x669)
  else if n = 0x200c ∨ n = 0x200d then joinerFits before after c
  else false

def charactersFit (before : List Char) : List Char → Bool
  | [] => true
  | c :: after => (labelRanges.contains c.toNat || contextFits before after c) && charactersFit (c :: before) after

def labelFits (cs : List Char) : Bool :=
  let ds := cs.map direction
  !cs.isEmpty && normalChars cs == cs && (cs.drop 2).take 2 != ['-','-'] && cs.head? != some '-' &&
    cs.getLast? != some '-' && !cs.head?.any isMark && charactersFit [] cs &&
    (!ds.any isRightward || directionsAgree ds)

def encodedMark : List Char := ['x','n','-','-']

def readAscii (cs : List Char) : Option (List Char) :=
  if encodedMark.isPrefixOf cs then
    let body := cs.drop 4
    if body.isEmpty || body.getLast? = some '-' then none
    else (punycodeDecode body).filter labelFits
  else if labelFits cs then some cs else none

def toAscii (cs : List Char) : Option (List Char) :=
  if cs.all (fun c => c.toNat < 128) then (readAscii cs).map (fun _ => cs)
  else if labelFits cs then some (encodedMark ++ punycodeEncode cs) else none

end FormBuilder.Address
