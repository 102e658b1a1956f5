import FormBuilder.Address.Host
import FormBuilder.Text.Spelling
/-! Web addresses: a scheme, then for most schemes a host with perhaps a name and a port. What comes
after the host may be anything. -/
namespace FormBuilder.Address
open FormBuilder.Text (isLowerAscii isUpperAscii isDigitAscii)

inductive Scheme where
  | file
  | hosted
  | other
  deriving DecidableEq, Repr

def isLetter (c : Char) : Bool := isLowerAscii c || isUpperAscii c

def Scheme.ofName (cs : List Char) : Scheme :=
  let name := String.ofList (cs.map (fun c => if isUpperAscii c then Char.ofNat (c.toNat + 32) else c))
  if name = "file" then .file
  else if ["http","https","ws","wss","ftp"].contains name then .hosted else .other

def tidied (cs : List Char) : List Char :=
  let trim (cs : List Char) := cs.dropWhile (fun c => c.toNat ≤ 32)
  (trim (trim cs).reverse).reverse.filter (fun c => c != '\t' && c != '\n' && c != '\r')

def takeScheme (cs : List Char) : Option (Scheme × List Char) :=
  let name := cs.takeWhile (fun c => isLetter c || isDigitAscii c || c == '+' || c == '-' || c == '.')
  match cs.drop name.length with
  | ':' :: rest => if name.head?.any isLetter then some (.ofName name,rest) else none
  | _ => none

def isSlash (c : Char) : Bool := c = '/' || c = '\\'

def endsAuthority (s : Scheme) (c : Char) : Bool := c = '/' || c = '?' || c = '#' || (s != .other && c = '\\')

def isPort (cs : List Char) : Bool := cs.all isDigitAscii && Numeral.natOf cs ≤ 65535

def splitPort (inside : Bool) : List Char → List Char × Option (List Char)
  | [] => ([],none)
  | c :: rest =>
    if c = ':' && !inside then ([],some rest)
    else
      let (host,port) := splitPort (if c = '[' then true else if c = ']' then false else inside) rest
      (c :: host,port)

def splitUser (cs : List Char) : Option (List Char) × List Char :=
  if cs.contains '@' then
    let host := (cs.reverse.takeWhile (· != '@')).reverse
    (some (cs.take (cs.length - host.length - 1)),host)
  else (none,cs)

def authorityFits (s : Scheme) (cs : List Char) (atEnd : Bool) : Bool :=
  let (user,rest) := splitUser cs
  let (host,port) := splitPort false rest
  let hostFits := if s = .other then isOpaqueHost host else isHost host
  let portFits := port.all isPort
  let present := !host.isEmpty || (s = .other && port.isNone && (user.isNone || (user = some [] && atEnd)))
  hostFits && portFits && present

def isDriveLetter (cs : List Char) : Bool :=
  match cs with
  | [a,b] => isLetter a && (b = ':' || b = '|')
  | _ => false

def fileHostFits (cs : List Char) : Bool := cs.isEmpty || isDriveLetter cs || isHost cs

def isUrl (text : String) : Bool :=
  match takeScheme (tidied text.toList) with
  | none => false
  | some (s,rest) =>
    let authority (cs : List Char) := cs.takeWhile (fun c => !endsAuthority s c)
    match s with
    | .file =>
      match rest with
      | a :: b :: more => if isSlash a && isSlash b then fileHostFits (authority more) else true
      | _ => true
    | .hosted => authorityFits s (authority (rest.dropWhile isSlash)) false
    | .other =>
      match rest with
      | '/' :: '/' :: more => authorityFits s (authority more) ((authority more).length == more.length)
      | _ => true

end FormBuilder.Address
