import FormBuilder.Proofs.Field.Carried
import FormBuilder.Proofs.Rule.Stored
import FormBuilder.Proofs.Schema.Verdicts
/-! Which texts of a submission are cleaned. Cleaning looks at an answer and at the items of an answer, no deeper, and
at no name in it: in answers that were taken, only those of file and matrix fields hold texts that it passes by. -/
namespace FormBuilder

namespace Value

mutual
def strings : Value → List String
  | .str s => [s]
  | .list items => itemStrings items
  | .object entries => entryStrings entries
  | .null | .bool _ | .int _ | .float _ => []

def itemStrings : List Value → List String
  | [] => []
  | v :: rest => v.strings ++ itemStrings rest

def entryStrings : List (String × Value) → List String
  | [] => []
  | (k,v) :: rest => k :: (v.strings ++ entryStrings rest)
end

mutual
def skeleton : Value → Value
  | .str _ => .str ""
  | .list items => .list (itemSkeletons items)
  | .object entries => .object (entrySkeletons entries)
  | v => v

def itemSkeletons : List Value → List Value
  | [] => []
  | v :: rest => v.skeleton :: itemSkeletons rest

def entrySkeletons : List (String × Value) → List (String × Value)
  | [] => []
  | (k,v) :: rest => (k,v.skeleton) :: entrySkeletons rest
end

theorem itemStringsAll (items : List Value) : itemStrings items = items.flatMap strings := by
  induction items with
  | nil => rfl
  | cons v rest ih => rw [itemStrings,ih,List.flatMap_cons]

theorem entryStringsAll (entries : Object) : entryStrings entries = entries.flatMap (fun e => e.1 :: e.2.strings) := by
  induction entries with
  | nil => rfl
  | cons e rest ih => rw [entryStrings,ih,List.flatMap_cons,List.cons_append]

theorem itemSkeletonsAll (items : List Value) : itemSkeletons items = items.map skeleton := by
  induction items with
  | nil => rfl
  | cons v rest ih => rw [itemSkeletons,ih,List.map_cons]

theorem entrySkeletonsAll (entries : Object) : entrySkeletons entries = entries.map (fun e => (e.1,e.2.skeleton)) := by
  induction entries with
  | nil => rfl
  | cons e rest ih => rw [entrySkeletons,ih,List.map_cons]

def text? : Value → Option String
  | .str s => some s
  | _ => none

def beneath : Value → List String
  | .str _ => []
  | v => v.strings

-- The texts that cleaning a value looks at,
def reached : Value → List String
  | .str s => [s]
  | .list items => items.filterMap text?
  | .object entries => entries.filterMap (fun e => text? e.2)
  | _ => []

-- and those it leaves as they are.
def unreached : Value → List String
  | .list items => items.flatMap beneath
  | .object entries => entries.flatMap (fun e => e.1 :: e.2.beneath)
  | _ => []

end Value

namespace Sanitize
open Value (strings skeleton beneath reached unreached)

theorem textStrings (f : String → String) (v : Value) (s : String) :
    s ∈ (textWith f v).strings ↔ s ∈ v.beneath ∨ ∃ t, v.text? = some t ∧ s = f t := by
  cases v with
  | str t => simp [textWith,strings,beneath,Value.text?]
  | _ => simp [textWith,beneath,Value.text?]

theorem valueStrings (f : String → String) (v : Value) (s : String) :
    s ∈ (valueWith f v).strings ↔ s ∈ v.unreached ∨ ∃ t ∈ v.reached, s = f t := by
  cases v with
  | str t => simp [valueWith,strings,unreached,reached]
  | list items =>
    simp only [valueWith,strings,Value.itemStringsAll,List.flatMap_map,List.mem_flatMap,textStrings,unreached,reached,
      List.mem_filterMap]
    constructor
    · rintro ⟨v,member,beneath | ⟨t,text,cleaned⟩⟩
      · exact .inl ⟨v,member,beneath⟩
      · exact .inr ⟨t,⟨v,member,text⟩,cleaned⟩
    · rintro (⟨v,member,beneath⟩ | ⟨t,⟨v,member,text⟩,cleaned⟩)
      · exact ⟨v,member,.inl beneath⟩
      · exact ⟨v,member,.inr ⟨t,text,cleaned⟩⟩
  | object entries =>
    simp only [valueWith,strings,Value.entryStringsAll,List.flatMap_map,List.mem_flatMap,List.mem_cons,textStrings,
      unreached,reached,List.mem_filterMap]
    constructor
    · rintro ⟨e,member,name | beneath | ⟨t,text,cleaned⟩⟩
      · exact .inl ⟨e,member,.inl name⟩
      · exact .inl ⟨e,member,.inr beneath⟩
      · exact .inr ⟨t,⟨e,member,text⟩,cleaned⟩
    · rintro (⟨e,member,name | beneath⟩ | ⟨t,⟨e,member,text⟩,cleaned⟩)
      · exact ⟨e,member,.inl name⟩
      · exact ⟨e,member,.inr (.inl beneath)⟩
      · exact ⟨e,member,.inr (.inr ⟨t,text,cleaned⟩)⟩
  | null | bool b | int n | float x => simp [valueWith,strings,unreached,reached]

theorem textSkeleton (f : String → String) (v : Value) : (textWith f v).skeleton = v.skeleton := by cases v <;> rfl

theorem valueSkeleton (f : String → String) (v : Value) : (valueWith f v).skeleton = v.skeleton := by
  cases v with
  | list items =>
    simp only [valueWith,skeleton,Value.itemSkeletonsAll,List.map_map]
    exact congrArg Value.list (List.map_congr_left fun v _ => textSkeleton f v)
  | object entries =>
    simp only [valueWith,skeleton,Value.entrySkeletonsAll,List.map_map]
    exact congrArg Value.object (List.map_congr_left fun e _ => congrArg (Prod.mk e.1) (textSkeleton f e.2))
  | null | bool b | int n | float x | str s => rfl

def Unmarked (s : String) : Prop := ∀ c ∈ s.toList, isBracket c = false

theorem cleanWithUnmarked (reader : String → Option String) (text : String) : Unmarked (cleanWith reader text) := by
  intro c member
  rw [cleanWith,String.toList_ofList] at member
  have kept := (List.mem_filter.mp (Text.trimCharsAmong c member)).2
  simpa using kept

theorem valueUnmarked (reader : String → Option String) (v : Value) :
    (∀ s ∈ (valueWith (cleanWith reader) v).strings, Unmarked s) ↔ ∀ s ∈ v.unreached, Unmarked s := by
  simp only [valueStrings]
  constructor
  · exact fun all s passedBy => all s (.inl passedBy)
  · rintro unmarked s (passedBy | ⟨t,-,rfl⟩)
    · exact unmarked s passedBy
    · exact cleanWithUnmarked reader t

end Sanitize

inductive Field.PassedBy (f : Field) : Value → String → Prop
  | upload {made s} (file : f.type = .file) : PassedBy f made s
  | row {entries s v} (matrix : f.type = .matrix) (row : (s,v) ∈ entries) : PassedBy f (.object entries) s

theorem Field.unreachedMade {f : Field} {given made : Value} (asked : f.isLayout = false)
    (took : f.verdict given = .ok made) : ∀ s ∈ made.unreached, f.PassedBy made s := by
  intro s passedBy
  by_cases judged : f.type = .file
  · exact .upload judged
  rcases verdictMade judged took with ⟨rfl,-⟩ | check
  · cases passedBy
  obtain ⟨id,row,label,order,common,kind⟩ := f
  cases kind with
  | file types most => exact absurd rfl judged
  | pageBreak | divider => cases asked
  | number least most =>
    obtain ⟨n,rfl,-⟩ := Rule.numberAgain check
    cases n <;> cases passedBy
  | rating scale =>
    obtain ⟨n,rfl,-⟩ := Rule.ratingAgain check
    cases passedBy
  | checkbox options | ranking options =>
    obtain ⟨items,-,rfl,texts⟩ := Rule.optionsTook check
    obtain ⟨v,member,beneath⟩ := List.mem_flatMap.mp passedBy
    have text := List.all_eq_true.mp texts v member
    cases v with
    | str t => cases beneath
    | _ => cases text
  | matrix rows columns =>
    obtain ⟨entries,-,rfl,texts⟩ := Rule.rowsTook check
    obtain ⟨⟨k,v⟩,member,beneath⟩ := List.mem_flatMap.mp passedBy
    have text := List.all_eq_true.mp texts _ member
    cases v with
    | str t =>
      cases List.mem_singleton.mp beneath
      exact .row rfl member
    | _ => cases text
  | text | longtext help | email | url | date | phone | radio options | dropdown options | pictureChoice options images
  | signature =>
    obtain ⟨t,-,rfl,-⟩ := Rule.textTook check
    cases passedBy

namespace Sanitize

/-- Cleaning what passed leaves keys, nesting and all that is no text as they were. It leaves no bracket in an answer
exactly when there is none in the texts it does not reach: those inside lists and objects of a file's answer, names
there, and the rows that a matrix was answered for. -/
theorem answersCleaned {fields : List Field} {payload : Value} {data : Object}
    (passed : validateSubmission fields payload = .ok data) :
    (submission data).map (fun e => (e.1,e.2.skeleton)) = data.map (fun e => (e.1,e.2.skeleton)) ∧
    ∀ key made, (key,made) ∈ data → (key,valueWith clean made) ∈ submission data ∧
      (∀ s, s ∈ (valueWith clean made).strings ↔ s ∈ made.unreached ∨ ∃ t ∈ made.reached, s = clean t) ∧
      ((∀ s ∈ (valueWith clean made).strings, Unmarked s) ↔ ∀ s ∈ made.unreached, Unmarked s) ∧
      ∃ f ∈ fields, f.valueKey = key ∧ ∀ s ∈ made.unreached, f.PassedBy made s := by
  obtain ⟨given,rfl⟩ := Schema.passedObject passed
  constructor
  · rw [submission,submissionWith,List.map_map]
    exact List.map_congr_left fun e _ => congrArg (Prod.mk e.1) (valueSkeleton clean e.2)
  · intro key made member
    obtain ⟨f,among,asked,own,judged⟩ := Schema.keptMade passed member
    refine ⟨List.mem_map_of_mem (f := fun e => (e.1,valueWith clean e.2)) member,valueStrings clean made,
      valueUnmarked read made,f,among,own,Field.unreachedMade asked judged⟩

theorem markupKept :
    let upload : Field := ⟨"a",none,"Doc",0,⟨false,none,none⟩,.file [] none⟩
    let table : Field := ⟨"b",none,"Grid",1,⟨false,none,none⟩,.matrix [] []⟩
    let line : Field := ⟨"c",none,"Name",2,⟨false,none,none⟩,.text⟩
    let payload : Object := [("doc",.list [.list [.str "<b>x</b>"]]),("grid",.object [("<b>Row</b>",.str "<i>x</i>")]),
      ("name",.str "<b>n</b>")]
    ∃ data doc grid name, validateSubmission [upload,table,line] (.object payload) = .ok data ∧
      ("doc",doc) ∈ submission data ∧ ("grid",grid) ∈ submission data ∧ ("name",name) ∈ submission data ∧
      (¬ ∀ s ∈ doc.strings, Unmarked s) ∧ (¬ ∀ s ∈ grid.strings, Unmarked s) ∧ ∀ s ∈ name.strings, Unmarked s := by
  intro upload table line payload
  have doc : Text.valueKey "Doc" = "doc" := (Text.valueKeyAscii (by decide)).trans (by decide)
  have grid : Text.valueKey "Grid" = "grid" := (Text.valueKeyAscii (by decide)).trans (by decide)
  have name : Text.valueKey "Name" = "name" := (Text.valueKeyAscii (by decide)).trans (by decide)
  have slots : Schema.slotsFrom 0 [upload,table,line] =
      [⟨"field_0","doc",upload.verdict⟩,⟨"field_1","grid",table.verdict⟩,⟨"field_2","name",line.verdict⟩] := by
    simp only [upload,table,line,Schema.slotsFrom,Field.valueKey,doc,grid,name]
    rfl
  have passed : validateSubmission [upload,table,line] (.object payload) = .ok payload := by
    rw [validateSubmission,Schema.compile,slots]
    rfl
  obtain ⟨-,cleaned⟩ := answersCleaned passed
  obtain ⟨upload,-,uploadLeft,-⟩ := cleaned "doc" _ List.mem_cons_self
  obtain ⟨table,-,tableLeft,-⟩ := cleaned "grid" _ (List.mem_cons_of_mem _ List.mem_cons_self)
  obtain ⟨line,-,lineLeft,-⟩ := cleaned "name" _ (List.mem_cons_of_mem _ (List.mem_cons_of_mem _ List.mem_cons_self))
  refine ⟨payload,_,_,_,passed,upload,table,line,fun unmarked => ?_,fun unmarked => ?_,lineLeft.mpr ?_⟩
  · have bracket := uploadLeft.mp unmarked "<b>x</b>" List.mem_cons_self '<' (by decide)
    contradiction
  · have bracket := tableLeft.mp unmarked "<b>Row</b>" List.mem_cons_self '<' (by decide)
    contradiction
  · simp [Value.unreached]

end Sanitize
end FormBuilder
