import FormBuilder.Proofs.Field.Carried
import FormBuilder.Proofs.Field.Ids
import FormBuilder.Proofs.Field.Renumbered
import FormBuilder.Proofs.Sanitize.Neat
import FormBuilder.Proofs.Text.Lines
import Mathlib.Data.List.TakeWhile
/-! Forms as text, line by line. What a line asks for depends on nothing but the line: the fields of a text are those that
its lines ask for, one at most each, numbered as they come. So the fields of two texts put together are those of the one
followed by those of the other. -/
namespace FormBuilder
open Text (Trimmed isBlank trimChars)

namespace Field

def nameless (f : Field) : Field := { f with id := "" }

def later (n : Nat) (f : Field) : Field := { f with order := f.order + n }

theorem renumberFromJoined (start : Nat) (fields others : List Field) :
    renumberFrom start (fields ++ others) = renumberFrom start fields ++ renumberFrom (start + fields.length) others := by
  induction fields generalizing start with
  | nil => rfl
  | cons f rest ih => rw [List.cons_append,renumberFrom,renumberFrom,ih,List.length_cons,Nat.add_right_comm]; rfl

theorem renumberFromLater (start n : Nat) (fields : List Field) :
    renumberFrom (start + n) fields = (renumberFrom start fields).map (later n) := by
  induction fields generalizing start with
  | nil => rfl
  | cons f rest ih => rw [renumberFrom,renumberFrom,List.map_cons,← ih,Nat.add_right_comm]; rfl

theorem renumberFromPlaces (start : Nat) (fields : List Field) :
    (renumberFrom start fields).map (·.order) = List.range' start fields.length := by
  induction fields generalizing start with
  | nil => rfl
  | cons f rest ih => rw [renumberFrom,List.map_cons,ih,List.length_cons,List.range'_succ]

theorem ofNameOwn {name : String} {t : FieldType} (known : FieldType.ofName? name = some t) : t.name = name := by
  simpa using List.find?_some known

end Field

namespace Item

def label : Item → String
  | plain label | required label | typed _ label | choice label _ => label
  | divider => ""

def config : Item → Object
  | plain _ | typed _ _ => [("required",.bool false)]
  | required _ => [("required",.bool true)]
  | choice _ options => [("required",.bool false),("options",.texts options)]
  | divider => []

def raw (item : Item) (id : String) (order : Nat) : Value :=
  .object [("type",.str item.kindName),("label",.str item.label),("config",.object item.config),("id",.str id),
    ("order",.ofNat order)]

end Item

namespace Field

theorem rawParsed {t : FieldType} {config : Object} {common : Common} {kind : Kind}
    (settings : readSettings t (.object config) = .ok (common,kind)) (label id : String) (order : Nat) (n : Mint) :
    parse (.object [("type",.str t.name),("label",.str label),("config",.object config),("id",.str id),
      ("order",.ofNat order)]) n = (.ok ⟨id,none,label,order,common,kind⟩,n) := by
  let raw : Object := [("type",.str t.name),("label",.str label),("config",.object config),("id",.str id),
    ("order",.ofNat order)]
  have type : raw.value? "type" = some (.str t.name) := rfl
  have unfolded : foldFlat raw = raw := rfl
  have parts : Parts "" t (foldFlat raw) ⟨id,none,label,order,common,kind⟩ := by
    rw [unfolded]
    refine ⟨rfl,rfl,rfl,?_,?_⟩
    · exact (Object.readAtCamel rfl 0 Scalar.nat).trans (Checked.underOk.mpr (Scalar.readNat order))
    · exact Checked.underOk.mpr settings
  have given : takesFresh (.object raw) = false := by
    rw [takesFresh,taggedKnown type]
    rfl
  rw [parse,given,if_neg Bool.false_ne_true,partsRead type parts]

theorem rawRefused {name : String} (unknown : FieldType.ofName? name = none) (rest : Object) (n : Mint) :
    parse (.object (("type",.str name) :: rest)) n = (.error [⟨.unknownTag,[]⟩],n) := by
  have tag : tagged (.object (("type",.str name) :: rest)) = .error [⟨.unknownTag,[]⟩] := by
    simp [tagged,Object.value?,unknown,Checked.fault]
  rw [parse,takesFresh,tag,if_neg Bool.false_ne_true,read,tag]

end Field

namespace Item
open FormBuilder.Field (readSettings)

theorem settingsPlain (t : FieldType) :
    readSettings t (.object [("required",.bool false)]) = .ok (.plain false,.plain t) := by cases t <;> rfl

theorem settingsChoice (options : List String) :
    readSettings .radio (.object [("required",.bool false),("options",.texts options)]) =
      .ok (.plain false,.radio options) := by
  have read : Object.readAt [("required",.bool false),("options",.texts options)] Key.options.names [] Scalar.texts =
      .ok options := readTextsAt rfl
  simp only [readSettings,Kind.read,Kind.optionList,read]
  rfl

theorem rawRead (item : Item) (id : String) (order : Nat) (n : Mint) : Field.parse (item.raw id order) n =
    ((item.field? id order).elim (.error [⟨.unknownTag,[]⟩]) .ok,n) := by
  cases item with
  | plain label => exact Field.rawParsed (t := .text) rfl label id order n
  | required label => exact Field.rawParsed (t := .text) rfl label id order n
  | typed name label =>
    cases known : FieldType.ofName? name with
    | none =>
      simp only [field?,shape,known]
      exact Field.rawRefused known _ n
    | some t =>
      simp only [field?,shape,known]
      rw [← Field.ofNameOwn known]
      exact Field.rawParsed (settingsPlain t) label id order n
  | choice label options => exact Field.rawParsed (t := .radio) (settingsChoice options) label id order n
  | divider => exact Field.rawParsed (t := .divider) rfl "" id order n

end Item

namespace Item

structure Listable (option : String) : Prop where
  some : option ≠ ""
  trimmed : Trimmed option.toList
  whole : ',' ∉ option.toList

theorem splitCommasSome (cs : List Char) : splitCommas cs ≠ [] := by
  cases cs with
  | nil => exact List.cons_ne_nil _ _
  | cons c rest =>
    unfold splitCommas
    split
    · exact List.cons_ne_nil _ _
    · split <;> exact List.cons_ne_nil _ _

theorem splitCommasWhole (cs : List Char) : ∀ part ∈ splitCommas cs, ',' ∉ part := by
  induction cs with
  | nil => simp [splitCommas]
  | cons c rest ih =>
    unfold splitCommas
    split
    · simp
    · rename_i first more parts
      rw [parts] at ih
      obtain ⟨here,later⟩ := List.forall_mem_cons.mp ih
      split
      · exact List.forall_mem_cons.mpr ⟨List.not_mem_nil,List.forall_mem_cons.mpr ⟨here,later⟩⟩
      · rename_i other
        refine List.forall_mem_cons.mpr ⟨fun member => ?_,later⟩
        rcases List.mem_cons.mp member with same | inside
        · exact other same.symm
        · exact here inside

theorem optionsListable (cs : List Char) : ∀ option ∈ optionsOf cs, Listable (String.ofList option) := by
  intro option member
  obtain ⟨among,some⟩ := List.mem_filter.mp member
  obtain ⟨part,inside,rfl⟩ := List.mem_map.mp among
  refine ⟨fun empty => ?_,?_,?_⟩
  · have nothing : trimChars part = [] := by simpa using congrArg String.toList empty
    rw [nothing] at some
    contradiction
  · rw [String.toList_ofList]
    exact Text.trimCharsTrimmed part
  · rw [String.toList_ofList]
    exact fun comma => splitCommasWhole cs part inside (Text.trimCharsAmong _ comma)

theorem questionChoice {cs : List Char} {label : String} {options : List String}
    (reads : ofQuestion cs = .choice label options) : options ≠ [] ∧ ∀ option ∈ options, Listable option := by
  unfold ofQuestion at reads
  split at reads
  · contradiction
  · rename_i mark after asks
    split at reads
    · contradiction
    · rename_i some
      obtain ⟨-,rfl⟩ := Item.choice.inj reads
      exact ⟨fun none => some (List.map_eq_nil_iff.mp none),List.forall_mem_map.mpr (optionsListable after)⟩

theorem questionTyped {cs : List Char} {name label : String} : ofQuestion cs ≠ .typed name label := by
  intro typed
  unfold ofQuestion at typed
  split at typed
  · contradiction
  · split at typed <;> contradiction

theorem ofLineTyped {cs : List Char} {name label : String} (reads : ofLine cs = some (.typed name label)) :
    cs.head? = some '/' := by
  unfold ofLine at reads
  split at reads
  · contradiction
  · rfl
  · cases reads
  · cases reads
  · exact absurd (Option.some.inj reads) questionTyped

theorem markedTyped {cs : List Char} {item : Item} (reads : ofMarked cs = some item) :
    ∃ name label, item = .typed name label := by
  unfold ofMarked at reads
  dsimp only at reads
  split at reads
  · contradiction
  · exact ⟨_,_,(Option.some.inj reads).symm⟩

theorem ofLineChoice {cs : List Char} {label : String} {options : List String}
    (reads : ofLine cs = some (.choice label options)) : options ≠ [] ∧ ∀ option ∈ options, Listable option := by
  unfold ofLine at reads
  split at reads
  · contradiction
  · obtain ⟨_,_,typed⟩ := markedTyped reads
    contradiction
  · cases reads
  · cases reads
  · exact questionChoice (Option.some.inj reads)

end Item

namespace Outline

def asked? (line : List Char) : Option Field := (Item.ofLine (trimChars line)).bind (fun item => item.field? "" 0)

theorem askedPlaced (item : Item) (id : String) (order : Nat) :
    item.field? id order = (item.field? "" 0).map (fun f => { f with id, order }) := by
  simp only [Item.field?,Option.map_map]
  rfl

theorem parseLinesAsked (line order : Nat) (m : Mint) (lines : List (List Char)) :
    (parseLines line order m lines).1.fields.map Field.nameless = Field.renumberFrom order (lines.filterMap asked?) := by
  induction lines generalizing line order m with
  | nil => rfl
  | cons raw rest ih =>
    unfold parseLines
    rw [List.filterMap_cons,asked?]
    split
    · rename_i none
      rw [none]
      exact ih (line + 1) order m
    · rename_i item reads
      rw [reads,Option.bind_some]
      have placed := askedPlaced item m.fieldId.1 order
      dsimp only
      cases made : item.field? "" 0 with
      | none =>
        rw [made,Option.map_none] at placed
        rw [placed]
        exact ih (line + 1) order _
      | some f =>
        rw [made,Option.map_some] at placed
        rw [placed]
        have bare : ({ f with id := "", order } : Field) = { f with order } := by rw [← Item.fieldId made]
        dsimp only
        rw [List.map_cons,ih,Field.renumberFrom,← bare]
        rfl

theorem parseAsked (text : String) (m : Mint) : (parse text m).1.fields.map Field.nameless =
    Field.renumber ((Text.lines text.toList).filterMap asked?) := parseLinesAsked 1 0 m _

theorem askedGiven {line : List Char} (asks : (asked? line).isSome = true) : line.all isBlank = false := by
  refine Bool.eq_false_iff.mpr fun blank => ?_
  have nothing : Text.dropBlank line = [] := List.dropWhile_eq_nil_iff.mpr (List.all_eq_true.mp blank)
  rw [asked?,trimChars,nothing] at asks
  contradiction

theorem askedFew (lines : List (List Char)) :
    (lines.filterMap asked?).length ≤ lines.countP (fun line => !line.all isBlank) := by
  rw [List.length_filterMap_eq_countP]
  exact List.countP_mono_left fun line _ asks => by simp [askedGiven asks]

theorem askedRadio {line : List Char} {f : Field} {options : List String} (asks : asked? line = some f)
    (radio : f.kind = .radio options) (unmarked : (trimChars line).head? ≠ some '/') :
    options ≠ [] ∧ ∀ option ∈ options, Item.Listable option := by
  obtain ⟨item,reads,made⟩ := Option.bind_eq_some_iff.mp asks
  obtain ⟨shape,shaped,rfl⟩ := Option.map_eq_some_iff.mp made
  cases item with
  | plain label | required label | divider =>
    cases Option.some.inj shaped
    cases radio
  | typed name label => exact absurd (Item.ofLineTyped reads) unmarked
  | choice label listed =>
    cases Option.some.inj shaped
    cases radio
    exact Item.ofLineChoice reads

theorem askedJoined (a b : String) : (Text.lines (a ++ "\n" ++ b).toList).filterMap asked? =
    (Text.lines a.toList).filterMap asked? ++ (Text.lines b.toList).filterMap asked? := by
  obtain ⟨gap,few,parts⟩ := Text.linesJoined a.toList b.toList
  have nothing : gap.filterMap asked? = [] := by rcases few with rfl | rfl <;> rfl
  have text : (a ++ "\n" ++ b).toList = a.toList ++ '\n' :: b.toList := by simp
  rw [text,parts,List.filterMap_append,List.filterMap_append,nothing,List.nil_append]

/-- Two texts with a line feed between them give the fields of the one and then those of the other, numbered on, whatever
ids are made up. Every text gives a field for some of its lines, one at most for each that is not blank, and numbers them
in order. What a line asks for is a field that any reader reads, or nothing is wrong with it but that its kind is unknown;
and a question that gives a radio gives it options, each fit to be listed. -/
theorem linesStandAlone (a b : String) (m first second : Mint) :
    let fields := (parse a first).1.fields
    (parse (a ++ "\n" ++ b) m).1.fields.map Field.nameless =
      (fields ++ (parse b second).1.fields.map (Field.later fields.length)).map Field.nameless ∧
    fields.map (·.order) = List.range fields.length ∧
    fields.map Field.nameless = Field.renumber ((Text.lines a.toList).filterMap asked?) ∧
    fields.length ≤ (Text.lines a.toList).countP (fun line => !line.all isBlank) ∧
    (∀ item id order n, Field.parse (Item.raw item id order) n =
      ((item.field? id order).elim (.error [⟨.unknownTag,[]⟩]) .ok,n)) ∧
    ∀ line f options, asked? line = some f → f.kind = .radio options → (trimChars line).head? ≠ some '/' →
      options ≠ [] ∧ ∀ option ∈ options, Item.Listable option := by
  intro fields
  have named : fields.map Field.nameless = Field.renumber ((Text.lines a.toList).filterMap asked?) := parseAsked a first
  have orders (fs : List Field) : (fs.map Field.nameless).map (·.order) = fs.map (·.order) := by
    rw [List.map_map]
    rfl
  have places : fields.map (·.order) = List.range' 0 ((Text.lines a.toList).filterMap asked?).length := by
    rw [← orders,named,Field.renumber,Field.renumberFromPlaces]
  have count : fields.length = ((Text.lines a.toList).filterMap asked?).length := by
    simpa using congrArg List.length places
  refine ⟨?_,?_,named,?_,Item.rawRead,fun line f options => askedRadio⟩
  · have shifted (n : Nat) (fs : List Field) :
        (fs.map (Field.later n)).map Field.nameless = (fs.map Field.nameless).map (Field.later n) := by
      rw [List.map_map,List.map_map]
      rfl
    rw [parseAsked,askedJoined,Field.renumber,Field.renumberFromJoined,Field.renumberFromLater,List.map_append,named,
      shifted,parseAsked,count]
    rfl
  · rw [places,count,List.range_eq_range']
  · rw [count]
    exact askedFew _

theorem questionAfterCarriageReturn :
    let m := Mint.atSeconds 0
    let color : Field := ⟨"",none,"Color?",0,.plain false,.radio ["Red","Blue"]⟩
    asked? " Color? Red,, Blue ".toList = some color ∧ color.kind = .radio ["Red","Blue"] ∧
    (trimChars " Color? Red,, Blue ".toList).head? ≠ some '/' ∧ (∀ option ∈ ["Red","Blue"], Item.Listable option) ∧
    (parse ("Name\r" ++ "\n" ++ "-\n Color? Red,, Blue ") m).1.fields.map Field.nameless =
      [⟨"",none,"Name",0,.plain false,.text⟩,⟨"",none,"",1,.plain false,.divider⟩,{ color with order := 2 }] := by
  intro m color
  have asks : asked? " Color? Red,, Blue ".toList = some color := rfl
  have unmarked : (trimChars " Color? Red,, Blue ".toList).head? ≠ some '/' := by decide
  obtain ⟨joined,-,-,-,-,radio⟩ := linesStandAlone "Name\r" "-\n Color? Red,, Blue " m m m
  obtain ⟨-,listable⟩ := radio _ color _ asks rfl unmarked
  exact ⟨asks,rfl,unmarked,listable,joined⟩

end Outline
end FormBuilder
