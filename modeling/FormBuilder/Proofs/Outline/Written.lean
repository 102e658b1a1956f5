import FormBuilder.Proofs.Mint
import FormBuilder.Proofs.Outline.Lines
import FormBuilder.Proofs.Text.Printable
/-! Forms written as text. Every entry of such a form has a line of its own, which no other kind of line is taken for, and
the lines of a form are read back as its entries. -/
namespace FormBuilder
open Text (Trimmed isBlank isLineBreak isWord trimChars)

inductive Entry where
  | plain (label : String)
  | required (label : String)
  | typed (type : FieldType) (label : String)
  | choice (prompt : String) (options : List String)
  | divider
  deriving DecidableEq, Repr

namespace Entry

def item : Entry → Item
  | plain label => .plain label
  | required label => .required label
  | typed type label => .typed type.name label
  | choice prompt options => .choice (prompt ++ "?") options
  | divider => .divider

def field (id : String) (order : Nat) : Entry → Field
  | plain label => ⟨id,none,label,order,.plain false,.text⟩
  | required label => ⟨id,none,label,order,.plain true,.text⟩
  | typed type label => ⟨id,none,label,order,.plain false,.plain type⟩
  | choice prompt options => ⟨id,none,prompt ++ "?",order,.plain false,.radio options⟩
  | divider => ⟨id,none,"",order,.plain false,.divider⟩

def said : Entry → Object
  | required _ => [("required",.bool true)]
  | choice _ options => [("options",.texts options)]
  | _ => []

structure Inline (s : String) : Prop where
  trimmed : Trimmed s.toList
  whole : ∀ c ∈ s.toList, isLineBreak c = false

-- A text that is not told from others by a mark in front, nor by a question mark.
structure Unsigned (s : String) : Prop where
  starts : ∀ c ∈ ['/','*','-'], s.toList.head? ≠ some c
  states : '?' ∉ s.toList

def Fit : Entry → Prop
  | plain label => label ≠ "" ∧ Inline label ∧ Unsigned label
  | required label | typed _ label => label ≠ "" ∧ Inline label
  | choice prompt options => Inline prompt ∧ Unsigned prompt ∧ options ≠ [] ∧
      ∀ option ∈ options, Item.Listable option ∧ Inline option
  | divider => True

instance (cs : List Char) : Decidable (Trimmed cs) :=
  decidable_of_iff (trimChars cs = cs) ⟨fun same => same ▸ Text.trimCharsTrimmed cs,fun trimmed => trimmed.same⟩

instance (s : String) : Decidable (Inline s) :=
  decidable_of_iff (Trimmed s.toList ∧ s.toList.all (fun c => !isLineBreak c) = true)
    ⟨fun h => ⟨h.1,by simpa using h.2⟩,fun h => ⟨h.trimmed,by simpa using h.whole⟩⟩

instance (s : String) : Decidable (Unsigned s) :=
  decidable_of_iff (['/','*','-'].all (fun c => s.toList.head? != some c) = true ∧ '?' ∉ s.toList)
    ⟨fun h => ⟨by simpa using h.1,h.2⟩,fun h => ⟨by simpa using h.starts,h.states⟩⟩

instance (s : String) : Decidable (Item.Listable s) :=
  decidable_of_iff (s ≠ "" ∧ Trimmed s.toList ∧ ',' ∉ s.toList)
    ⟨fun h => ⟨h.1,h.2.1,h.2.2⟩,fun h => ⟨h.some,h.trimmed,h.whole⟩⟩

instance : DecidablePred Fit
  | plain label => inferInstanceAs (Decidable (label ≠ "" ∧ Inline label ∧ Unsigned label))
  | required label | typed _ label => inferInstanceAs (Decidable (label ≠ "" ∧ Inline label))
  | choice prompt options => inferInstanceAs (Decidable (Inline prompt ∧ Unsigned prompt ∧ options ≠ [] ∧
      ∀ option ∈ options, Item.Listable option ∧ Inline option))
  | divider => inferInstanceAs (Decidable True)

theorem fieldMade (e : Entry) (id : String) (order : Nat) : e.item.field? id order = some (e.field id order) := by
  cases e with
  | typed type label => simp [item,field,Item.field?,Item.shape,FieldType.ofNameName]
  | plain | required | choice | divider => rfl

theorem settingsSaid (e : Entry) (id : String) (order : Nat) : Field.readSettings (e.field id order).type (.object e.said) =
    .ok ((e.field id order).common,(e.field id order).kind) := by
  cases e with
  | typed type label => cases type <;> rfl
  | choice prompt options =>
    have read : Object.readAt [("options",.texts options)] Key.options.names [] Scalar.texts = .ok options :=
      readTextsAt rfl
    simp only [field,said,Field.type,Kind.type,Field.readSettings,Kind.read,Kind.optionList,read]
    rfl
  | plain | required | divider => rfl

end Entry

namespace FieldType

theorem nameWord (t : FieldType) : ∀ c ∈ t.name.toList, isWord c = true := by
  have letters : t.name.toList.all (fun c => c.toNat < 128 && (c.isAlphanum || c == '_')) = true := by
    cases t <;> decide
  intro c member
  have letter := List.all_eq_true.mp letters c member
  rw [Bool.and_eq_true,decide_eq_true_eq] at letter
  exact (Text.wordAscii letter.1).trans letter.2

theorem nameLower (t : FieldType) : Text.lower t.name = t.name := by
  have ascii : t.name.toList.all (·.toNat < 128) = true := by cases t <;> decide
  rw [Text.lower,Text.lowerFromAscii [] (by simpa using ascii)]
  cases t <;> decide

theorem nameWhole (t : FieldType) : ∀ c ∈ t.name.toList, isLineBreak c = false := by
  have letters : t.name.toList.all (fun c => !isLineBreak c) = true := by cases t <;> decide
  simpa using letters

end FieldType

namespace Text

theorem trimCharsSpace (cs : List Char) : trimChars (' ' :: cs) = trimChars cs := rfl

theorem trimmedAround {start rest : List Char} (given : rest ≠ [])
    (starts : ∀ c, (start ++ rest).head? = some c → isBlank c = false)
    (ends : ∀ c, rest.getLast? = some c → isBlank c = false) : Trimmed (start ++ rest) := by
  refine ⟨starts,fun c last => ends c ?_⟩
  rwa [List.getLast?_append_of_ne_nil _ given] at last

theorem listedEnds {parts : List (List Char)} (given : parts ≠ [])
    (each : ∀ part ∈ parts, part ≠ [] ∧ Trimmed part) :
    [',',' '].intercalate parts ≠ [] ∧
    ∀ c, ([',',' '].intercalate parts).getLast? = some c → isBlank c = false := by
  induction parts with
  | nil => contradiction
  | cons part rest ih =>
    obtain ⟨⟨some,trimmed⟩,others⟩ := List.forall_mem_cons.mp each
    cases rest with
    | nil =>
      rw [List.intercalate_singleton]
      exact ⟨some,trimmed.ends⟩
    | cons next rest =>
      obtain ⟨more,ends⟩ := ih (List.cons_ne_nil next rest) others
      rw [List.intercalate_cons_cons,List.getLast?_append_of_ne_nil _ more]
      exact ⟨List.append_ne_nil_of_right_ne_nil _ more,ends⟩

theorem listedWhole {parts : List (List Char)} (whole : ∀ part ∈ parts, ∀ c ∈ part, isLineBreak c = false) :
    ∀ c ∈ [',',' '].intercalate parts, isLineBreak c = false := by
  have mark : ∀ c ∈ [',',' '], isLineBreak c = false := by simp [isLineBreak]
  induction parts with
  | nil => exact List.forall_mem_nil _
  | cons part rest ih =>
    obtain ⟨here,later⟩ := List.forall_mem_cons.mp whole
    cases rest with
    | nil => rwa [List.intercalate_singleton]
    | cons next rest =>
      rw [List.intercalate_cons_cons]
      exact List.forall_mem_append.mpr ⟨List.forall_mem_append.mpr ⟨here,mark⟩,ih later⟩

end Text

namespace Item

theorem splitCommasAlone {part : List Char} (whole : ',' ∉ part) : splitCommas part = [part] := by
  induction part with
  | nil => rfl
  | cons c part ih =>
    obtain ⟨here,later⟩ := not_or.mp (mt List.mem_cons.mpr whole)
    rw [splitCommas,ih later]
    exact if_neg (Ne.symm here)

theorem splitCommasFirst {part : List Char} (whole : ',' ∉ part) (rest : List Char) :
    splitCommas (part ++ ',' :: rest) = part :: splitCommas rest := by
  induction part with
  | nil =>
    rw [List.nil_append,splitCommas]
    split
    · rename_i nothing
      exact absurd nothing (splitCommasSome rest)
    · rename_i parts
      rw [if_pos rfl,parts]
  | cons c part ih =>
    obtain ⟨here,later⟩ := not_or.mp (mt List.mem_cons.mpr whole)
    rw [List.cons_append,splitCommas,ih later]
    exact if_neg (Ne.symm here)

theorem splitCommasListed {parts : List (List Char)} (given : parts ≠ []) (whole : ∀ part ∈ parts, ',' ∉ part) :
    splitCommas (' ' :: [',',' '].intercalate parts) = parts.map (' ' :: ·) := by
  induction parts with
  | nil => contradiction
  | cons part rest ih =>
    obtain ⟨here,later⟩ := List.forall_mem_cons.mp whole
    have spaced : ',' ∉ ' ' :: part := List.not_mem_cons_of_ne_of_not_mem (by decide) here
    cases rest with
    | nil => rw [List.intercalate_singleton,splitCommasAlone spaced]; rfl
    | cons next rest =>
      rw [List.intercalate_cons_cons,List.append_assoc,← List.cons_append]
      exact (splitCommasFirst spaced _).trans (congrArg ((' ' :: part) :: ·) (ih (List.cons_ne_nil next rest) later))

theorem optionsListed {parts : List (List Char)} (given : parts ≠ [])
    (each : ∀ part ∈ parts, part ≠ [] ∧ Trimmed part) (whole : ∀ part ∈ parts, ',' ∉ part) :
    optionsOf (' ' :: [',',' '].intercalate parts) = parts := by
  have same : (parts.map (' ' :: ·)).map trimChars = parts := by
    rw [List.map_map]
    refine (List.map_congr_left fun part member => ?_).trans (List.map_id parts)
    exact (each part member).2.same
  rw [optionsOf,splitCommasListed given whole,same]
  refine List.filter_eq_self.mpr fun part member => ?_
  simpa using (each part member).1

theorem ofMarkedWritten (t : FieldType) {label : String} (given : label ≠ "") (trimmed : Trimmed label.toList) :
    ofMarked (t.name.toList ++ ' ' :: label.toList) = some (.typed t.name label) := by
  have gap : isWord ' ' = false := Text.wordAscii (by decide)
  have word : (t.name.toList ++ ' ' :: label.toList).takeWhile isWord = t.name.toList := by
    rw [List.takeWhile_append_of_pos t.nameWord,List.takeWhile_cons_of_neg (by simp [gap]),List.append_nil]
  have named : t.name.toList.isEmpty = false := by cases t <;> rfl
  have titled : label.toList.isEmpty = false := by simpa using given
  have blank : isBlank ' ' = true := rfl
  rw [ofMarked]
  simp only [word,List.drop_left,Text.trimCharsSpace,trimmed.same,named,titled,List.head?_cons,Option.any_some,blank,
    String.ofList_toList,t.nameLower]
  rfl

theorem writeChoice (prompt : String) (options : List String) : (Item.choice (prompt ++ "?") options).write =
    prompt.toList ++ '?' :: ' ' :: [',',' '].intercalate (options.map String.toList) := by
  simp [write,String.toList_intercalate]

theorem ofQuestionPlain {label : String} (states : '?' ∉ label.toList) : ofQuestion label.toList = .plain label := by
  have none : label.toList.dropWhile (· != '?') = [] :=
    List.dropWhile_eq_nil_iff.mpr fun c member => bne_iff_ne.mpr fun asks => states (asks ▸ member)
  rw [ofQuestion,none]
  dsimp only
  rw [String.ofList_toList]

theorem ofQuestionWritten {prompt : String} {options : List String} (trimmed : Trimmed prompt.toList)
    (states : '?' ∉ prompt.toList) (given : options ≠ []) (listable : ∀ option ∈ options, Listable option) :
    ofQuestion (Item.choice (prompt ++ "?") options).write = .choice (prompt ++ "?") options := by
  have before : ∀ c ∈ prompt.toList, (c != '?') = true := fun c member =>
    bne_iff_ne.mpr fun asks => states (asks ▸ member)
  have asked : (Item.choice (prompt ++ "?") options).write.takeWhile (· != '?') = prompt.toList := by
    rw [writeChoice,List.takeWhile_append_of_pos before]
    simp
  have after : (Item.choice (prompt ++ "?") options).write.dropWhile (· != '?') =
      '?' :: ' ' :: [',',' '].intercalate (options.map String.toList) := by
    rw [writeChoice,List.dropWhile_append_of_pos before]
    rfl
  have listed : optionsOf (' ' :: [',',' '].intercalate (options.map String.toList)) = options.map String.toList := by
    refine optionsListed (by simpa using given) (List.forall_mem_map.mpr fun option member => ?_)
      (List.forall_mem_map.mpr fun option member => (listable option member).whole)
    exact ⟨by simpa using (listable option member).some,(listable option member).trimmed⟩
  have label : String.ofList (prompt.toList ++ ['?']) = prompt ++ "?" := by
    rw [String.ofList_append,String.ofList_toList]
  have same : (options.map String.toList).map String.ofList = options := by simp
  rw [ofQuestion,after]
  dsimp only
  rw [listed,asked,trimmed.same]
  split
  · rename_i none
    exact absurd (List.map_eq_nil_iff.mp none) given
  · rw [label,same]

theorem ofLineUnsigned {c : Char} (unsigned : c ∉ ['/','*','-']) (rest : List Char) :
    ofLine (c :: rest) = some (ofQuestion (c :: rest)) := by
  simp only [List.mem_cons,List.not_mem_nil,or_false,not_or] at unsigned
  obtain ⟨typed,required,divider⟩ := unsigned
  unfold ofLine
  split
  · contradiction
  · rename_i same
    exact absurd (List.cons.inj same).1 typed
  · rename_i same
    exact absurd (List.cons.inj same).1 required
  · rename_i same
    exact absurd (List.cons.inj same).1 divider
  · rfl

end Item

namespace Entry

theorem labelSome {label : String} (given : label ≠ "") : label.toList ≠ [] := by simpa using given

theorem writeSome {e : Entry} (fit : e.Fit) : e.item.write ≠ [] := by
  cases e with
  | plain label => exact labelSome fit.1
  | required | typed | choice | divider => simp [item,Item.write]

theorem writeWhole {e : Entry} (fit : e.Fit) : ∀ c ∈ e.item.write, isLineBreak c = false := by
  have signs : ∀ c ∈ ['/','*','-','?',' '], isLineBreak c = false := by simp [isLineBreak]
  cases e with
  | plain label => exact fit.2.1.whole
  | required label => exact List.forall_mem_cons.mpr ⟨signs '*' (by simp),fit.2.whole⟩
  | typed type label =>
    have spaced : ∀ c ∈ ' ' :: label.toList, isLineBreak c = false :=
      List.forall_mem_cons.mpr ⟨signs ' ' (by simp),fit.2.whole⟩
    exact List.forall_mem_cons.mpr ⟨signs '/' (by simp),List.forall_mem_append.mpr ⟨type.nameWhole,spaced⟩⟩
  | choice prompt options =>
    obtain ⟨inline,-,-,each⟩ := fit
    have listed := Text.listedWhole (List.forall_mem_map.mpr fun option member => (each option member).2.whole)
    have spaced : ∀ c ∈ ' ' :: [',',' '].intercalate (options.map String.toList), isLineBreak c = false :=
      List.forall_mem_cons.mpr ⟨signs ' ' (by simp),listed⟩
    rw [item,Item.writeChoice]
    exact List.forall_mem_append.mpr ⟨inline.whole,List.forall_mem_cons.mpr ⟨signs '?' (by simp),spaced⟩⟩
  | divider => exact List.forall_mem_singleton.mpr (signs '-' (by simp))

theorem writeTrimmed {e : Entry} (fit : e.Fit) : Trimmed e.item.write := by
  have signs : ∀ c ∈ ['/','*','-','?'], isBlank c = false := by simp [isBlank]
  cases e with
  | plain label => exact fit.2.1.trimmed
  | required label =>
    have parts : (Entry.required label).item.write = ['*'] ++ label.toList := rfl
    rw [parts]
    refine Text.trimmedAround (labelSome fit.1) (fun c first => ?_) fit.2.trimmed.ends
    cases first
    exact signs '*' (by simp)
  | typed type label =>
    have parts : (Entry.typed type label).item.write = '/' :: type.name.toList ++ [' '] ++ label.toList := by
      simp [item,Item.write]
    rw [parts]
    refine Text.trimmedAround (labelSome fit.1) (fun c first => ?_) fit.2.trimmed.ends
    cases first
    exact signs '/' (by simp)
  | choice prompt options =>
    obtain ⟨inline,-,given,each⟩ := fit
    have several : options.map String.toList ≠ [] := by simpa using given
    obtain ⟨some,ends⟩ := Text.listedEnds several (List.forall_mem_map.mpr fun option member =>
      ⟨labelSome (each option member).1.some,(each option member).1.trimmed⟩)
    have parts : (Entry.choice prompt options).item.write =
        prompt.toList ++ ['?',' '] ++ [',',' '].intercalate (options.map String.toList) := by
      rw [item,Item.writeChoice,List.append_assoc]
      rfl
    rw [parts]
    refine Text.trimmedAround some (fun c first => ?_) ends
    cases letters : prompt.toList with
    | nil =>
      rw [letters] at first
      cases first
      exact signs '?' (by simp)
    | cons d rest =>
      rw [letters] at first
      cases first
      exact inline.trimmed.starts _ (congrArg List.head? letters)
  | divider => exact ⟨fun c first => by cases first; exact signs '-' (by simp),
      fun c last => by cases last; exact signs '-' (by simp)⟩

theorem ofLineWritten {e : Entry} (fit : e.Fit) : Item.ofLine e.item.write = some e.item := by
  cases e with
  | plain label =>
    obtain ⟨given,-,unsigned⟩ := fit
    have question : Item.ofLine label.toList = some (Item.ofQuestion label.toList) := by
      cases letters : label.toList with
      | nil => exact absurd letters (labelSome given)
      | cons c rest =>
        exact Item.ofLineUnsigned (fun sign => unsigned.starts c sign (congrArg List.head? letters)) rest
    exact question.trans (congrArg some (Item.ofQuestionPlain unsigned.states))
  | required label =>
    have read : Item.ofLine ('*' :: label.toList) = some (.required (String.ofList (trimChars label.toList))) := rfl
    rw [fit.2.trimmed.same,String.ofList_toList] at read
    exact read
  | typed type label => exact Item.ofMarkedWritten type fit.1 fit.2.trimmed
  | choice prompt options =>
    obtain ⟨inline,unsigned,given,each⟩ := fit
    have question : Item.ofLine (Item.choice (prompt ++ "?") options).write =
        some (Item.ofQuestion (Item.choice (prompt ++ "?") options).write) := by
      rw [Item.writeChoice]
      cases letters : prompt.toList with
      | nil => exact Item.ofLineUnsigned (by decide) _
      | cons c rest =>
        exact Item.ofLineUnsigned (fun sign => unsigned.starts c sign (congrArg List.head? letters)) _
    rw [item,question,Item.ofQuestionWritten inline.trimmed unsigned.states given fun option member => (each option member).1]
  | divider => rfl

end Entry

namespace Outline

def write (entries : List Entry) : String := "\n".intercalate (entries.map fun e => String.ofList e.item.write)

theorem parseLinesWritten {entries : List Entry} (fit : ∀ e ∈ entries, e.Fit) (line order : Nat) (m : Mint) :
    (parseLines line order m (entries.map (·.item.write))).1 =
      ⟨(entries.zip (m.ids entries.length)).mapIdx fun i p => p.1.field p.2 (order + i),[]⟩ := by
  induction entries generalizing line order m with
  | nil => rfl
  | cons e rest ih =>
    obtain ⟨here,later⟩ := List.forall_mem_cons.mp fit
    rw [List.map_cons,parseLines,(Entry.writeTrimmed here).same,Entry.ofLineWritten here]
    dsimp only
    rw [Entry.fieldMade]
    dsimp only
    rw [ih later (line + 1) (order + 1) m.fieldId.2,List.length_cons,Mint.ids,List.zip_cons_cons,List.mapIdx_cons]
    simp only [Nat.add_right_comm order]
    rfl

theorem linesOfWritten {entries : List Entry} (fit : ∀ e ∈ entries, e.Fit) :
    Text.lines (write entries).toList = entries.map (·.item.write) := by
  have letters : (write entries).toList = ['\n'].intercalate (entries.map (·.item.write)) := by
    simp [write,String.toList_intercalate,Function.comp_def]
  rw [letters]
  exact Text.linesWritten (List.forall_mem_map.mpr fun e member => Entry.writeWhole (fit e member))
    (List.forall_mem_map.mpr fun e member => Entry.writeSome (fit e member))

/-- What is written for a form is read back as its fields, numbered as they come, each under an id of its own and with
nothing to remark on. What a line does not say of its field is left as it is by default. -/
theorem writtenParsed {entries : List Entry} (fit : ∀ e ∈ entries, e.Fit) (m : Mint) :
    let ids := m.ids entries.length
    (parse (write entries) m).1 = ⟨(entries.zip ids).mapIdx fun order p => p.1.field p.2 order,[]⟩ ∧
    ids.Nodup ∧ ids.length = entries.length ∧
    ∀ e ∈ entries, ∀ id order, Field.readSettings (e.field id order).type (.object e.said) =
      .ok ((e.field id order).common,(e.field id order).kind) := by
  intro ids
  have read := parseLinesWritten fit 1 0 m
  simp only [Nat.zero_add] at read
  refine ⟨?_,m.idsDistinct entries.length,m.idsLength entries.length,fun e _ => e.settingsSaid⟩
  rw [parse,linesOfWritten fit]
  exact read

theorem mixedFormWritten :
    let entries : List Entry := [.plain "Your name",.required "Why? Tell, us",.typed .pictureChoice "/ - *",
      .choice "" ["Red","Dark - blue?"],.divider]
    let m := Mint.atSeconds 0
    (∀ e ∈ entries, e.Fit) ∧
    write entries = "Your name\n*Why? Tell, us\n/picture_choice / - *\n? Red, Dark - blue?\n-" ∧
    (parse (write entries) m).1.fields.map Field.nameless =
      [⟨"",none,"Your name",0,.plain false,.text⟩,⟨"",none,"Why? Tell, us",1,.plain true,.text⟩,
        ⟨"",none,"/ - *",2,.plain false,.pictureChoice [] []⟩,⟨"",none,"?",3,.plain false,.radio ["Red","Dark - blue?"]⟩,
        ⟨"",none,"",4,.plain false,.divider⟩] := by
  intro entries m
  have fit : ∀ e ∈ entries, e.Fit := by decide +kernel
  refine ⟨fit,rfl,?_⟩
  rw [(writtenParsed fit m).1]
  rfl

end Outline
end FormBuilder
