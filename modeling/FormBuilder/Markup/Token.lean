import FormBuilder.Markup.Entity
import FormBuilder.Text.Blank
import FormBuilder.Text.Spelling
/-! Markup as a row of tokens. A `<` opens a tag only before a letter, an end tag only after `</` and
a letter; other marks after `<` hide everything up to the next `>`. Some elements hold text alone, up
to their own end tag. -/
namespace FormBuilder.Markup
open FormBuilder.Text (isUpperAscii isLowerAscii)

inductive Token where
  | text (cs : List Char)
  | inner (cs : List Char)
  | opening (name : String)
  | closing (name : String)
  | aside
  deriving DecidableEq, Repr

def isTagBlank (c : Char) : Bool := c = ' ' || c = '\t' || c = '\n' || c = '\x0c'

def isTagLetter (c : Char) : Bool := isUpperAscii c || isLowerAscii c

def endsTagName (c : Char) : Bool := isTagBlank c || c = '/' || c = '>'

inductive Place where
  | before
  | slash
  | name
  | afterName
  | beforeValue
  | quoted (mark : Char)
  | unquoted
  deriving DecidableEq, Repr

def skipTag : Place → List Char → Option (Bool × List Char)
  | _,[] => none
  | place,c :: rest =>
    let between : Option (Bool × List Char) :=
      if isTagBlank c then skipTag .before rest
      else if c = '/' then skipTag .slash rest
      else if c = '>' then some (false,rest)
      else skipTag .name rest
    match place with
    | .before => between
    | .slash => if c = '>' then some (true,rest) else between
    | .name =>
      if isTagBlank c then skipTag .afterName rest
      else if c = '/' then skipTag .slash rest
      else if c = '=' then skipTag .beforeValue rest
      else if c = '>' then some (false,rest)
      else skipTag .name rest
    | .afterName =>
      if isTagBlank c then skipTag .afterName rest
      else if c = '/' then skipTag .slash rest
      else if c = '=' then skipTag .beforeValue rest
      else if c = '>' then some (false,rest)
      else skipTag .name rest
    | .beforeValue =>
      if isTagBlank c then skipTag .beforeValue rest
      else if c = '"' ∨ c = '\'' then skipTag (.quoted c) rest
      else if c = '>' then some (false,rest)
      else skipTag .unquoted rest
    | .quoted mark => if c = mark then skipTag .before rest else skipTag (.quoted mark) rest
    | .unquoted =>
      if isTagBlank c then skipTag .before rest
      else if c = '>' then some (false,rest)
      else skipTag .unquoted rest

def tagName (cs : List Char) : List Char := cs.takeWhile (fun c => !endsTagName c)

def lowerName (cs : List Char) : String :=
  String.ofList (cs.map (fun c => if isUpperAscii c then Char.ofNat (c.toNat + 32) else c))

def afterMark (cs : List Char) : List Char := (cs.dropWhile (· != '>')).drop 1

def afterComment : List Char → List Char
  | '-' :: '-' :: '>' :: rest => rest
  | '-' :: '-' :: '!' :: '>' :: rest => rest
  | _ :: rest => afterComment rest
  | [] => []

def skipComment : List Char → List Char
  | '>' :: rest => rest
  | '-' :: '>' :: rest => rest
  | cs => afterComment cs

inductive Holds where
  | elements
  | references
  | plain
  | script
  | everything
  deriving DecidableEq, Repr

def holds (name : String) : Holds :=
  if name = "title" ∨ name = "textarea" then .references
  else if name = "script" then .script
  else if ["style","xmp","iframe","noembed","noframes"].contains name then .plain
  else if name = "plaintext" then .everything
  else .elements

inductive Nesting where
  | outside
  | comment
  | inner
  deriving DecidableEq, Repr

def namedHere (name : String) (cs : List Char) : Bool :=
  lowerName (cs.take name.length) = name && (cs.drop name.length).head?.any endsTagName

def textOf (c : Char) : List Char := if c.toNat = 0 then [Char.ofNat 0xfffd] else [c]

def innerText (cs : List Char) : List Token → List Token
  | .inner more :: rest => .inner (cs ++ more) :: rest
  | rest => .inner cs :: rest

mutual
def scan : (fuel : Nat) → List Char → List Token
  | 0,_ => []
  | _ + 1,[] => []
  | fuel + 1,c :: rest =>
    if c = '&' then
      match reference? rest with
      | some (cs,after) => .text cs :: scan fuel after
      | none => .text ['&'] :: scan fuel rest
    else if c = '<' then
      match rest with
      | '/' :: next =>
        match next with
        | [] => [.text ['<','/']]
        | d :: more =>
          if isTagLetter d then
            match skipTag .before (next.drop (tagName next).length) with
            | none => []
            | some (_,after) => .closing (lowerName (tagName next)) :: scan fuel after
          else if d = '>' then scan fuel more
          else .aside :: scan fuel (afterMark next)
      | '!' :: next =>
        if ['-','-'].isPrefixOf next then .aside :: scan fuel (skipComment (next.drop 2))
        else if lowerName (next.take 7) = "doctype" then scan fuel (afterMark next)
        else .aside :: scan fuel (afterMark next)
      | '?' :: next => .aside :: scan fuel (afterMark next)
      | d :: _ =>
        if isTagLetter d then
          let name := lowerName (tagName rest)
          match skipTag .before (rest.drop (tagName rest).length) with
          | none => []
          | some (selfClosing,after) =>
            .opening name ::
              (if selfClosing then .closing name :: scan fuel after
              else if holds name = .elements then scan fuel after
              else scanInside fuel name .outside after)
        else .text ['<'] :: scan fuel rest
      | [] => [.text ['<']]
    else .text (textOf c) :: scan fuel rest

def scanInside : (fuel : Nat) → (name : String) → Nesting → List Char → List Token
  | 0,_,_,_ => []
  | _ + 1,_,_,[] => []
  | fuel + 1,name,nesting,c :: rest =>
    let kind := holds name
    if kind = .everything then innerText (textOf c) (scanInside fuel name nesting rest)
    else if kind = .references ∧ c = '&' then
      match reference? rest with
      | some (cs,after) => innerText cs (scanInside fuel name nesting after)
      | none => innerText ['&'] (scanInside fuel name nesting rest)
    else
      let hidden := nesting ≠ .outside ∧ ['-','-','>'].isPrefixOf (c :: rest)
      let opens := kind = .script ∧ nesting = .outside ∧ ['<','!','-','-'].isPrefixOf (c :: rest)
      let nested := nesting = .comment ∧ c = '<' ∧ namedHere name rest
      match c,rest with
      | '<','/' :: next =>
        if namedHere name next then
          if nesting = .inner then innerText [c] (scanInside fuel name .comment rest)
          else
            match skipTag .before (next.drop name.length) with
            | none => []
            | some (_,after) => .closing name :: scan fuel after
        else innerText [c] (scanInside fuel name nesting rest)
      | _,_ =>
        innerText (textOf c)
          (scanInside fuel name (if hidden then .outside else if opens then .comment else if nested then .inner else nesting) rest)
end

def unifyLines : List Char → List Char
  | '\r' :: '\n' :: rest => '\n' :: unifyLines rest
  | '\r' :: rest => '\n' :: unifyLines rest
  | c :: rest => c :: unifyLines rest
  | [] => []

def tokens (cs : List Char) : List Token := scan (2 * cs.length + 2) (unifyLines cs)

end FormBuilder.Markup
