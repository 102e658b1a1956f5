import FormBuilder.Field.Initial
import FormBuilder.Proofs.Schema.Slots
import Mathlib.Data.List.Forall2
/-! A compiled schema judges a payload as its fields do one by one. Nothing of a field counts but its label,
whether it is required, its kind, and the bounds of its kind. -/
namespace FormBuilder

def Kind.asked : Kind → Kind
  | .number least most => .number least most
  | .rating scale => .rating scale
  | k => .plain k.type

structure Field.SameQuestion (f g : Field) : Prop where
  label : f.label = g.label
  required : f.required = g.required
  kind : f.kind.asked = g.kind.asked

def Field.judged (payload : Object) (f : Field) : Verdict := f.verdict ((payload.value? f.valueKey).getD .null)

theorem Field.verdictAsked (f : Field) : Field.verdict { f with kind := f.kind.asked } = f.verdict := by
  funext v
  obtain ⟨id,row,label,order,common,kind⟩ := f
  cases kind with
  | checkbox options => cases v <;> rfl
  | _ => rfl

theorem Field.sameVerdict {f g : Field} (same : SameQuestion f g) : f.verdict = g.verdict := by
  obtain ⟨label,required,kind⟩ := same
  rw [← verdictAsked f,← verdictAsked g,kind]
  obtain ⟨_,_,_,_,⟨_,_,_⟩,_⟩ := f
  obtain ⟨_,_,_,_,⟨_,_,_⟩,_⟩ := g
  cases label
  cases required
  rfl

theorem Field.sameLayout {f g : Field} (same : f.kind.asked = g.kind.asked) : f.isLayout = g.isLayout := by
  have type (k : Kind) : k.asked.type = k.type := by cases k <;> rfl
  simp only [isLayout,Field.type,← type f.kind,← type g.kind,same]

theorem Field.sameSlots {fields others : List Field} (same : List.Forall₂ SameQuestion fields others) (place : Nat) :
    Schema.slotsFrom place fields = Schema.slotsFrom place others := by
  induction same generalizing place with
  | nil => rfl
  | cons head _ ih =>
    rw [Schema.slotsFrom,Schema.slotsFrom,ih,sameLayout head.kind,sameVerdict head,valueKey,valueKey,head.label]

structure Field.SameEnd (payload other : Object) (f g : Field) : Prop where
  layout : f.isLayout = g.isLayout
  key : f.valueKey = g.valueKey
  verdict : f.isLayout = false → f.judged payload = g.judged other

namespace Schema

theorem validateJudges (fields : List Field) (payload : Object) :
    let slots := slotsFrom 0 fields
    validateSubmission fields (.object payload) =
      if (refusals payload slots).isEmpty then .ok (answers (makings payload slots) slots)
      else .error (report slots (refusals payload slots)) := by
  intro slots
  have judged := judgeTaken (slotsDistinct 0 fields) payload
  simp only [validateSubmission,compile,validate]
  rw [judged]
  cases (refusals payload slots).isEmpty <;> rfl

theorem validateAlone {f : Field} (asked : f.isLayout = false) {given made : Value} (took : f.verdict given = .ok made)
    (there : made.present = some made) :
    validateSubmission [f] (.object [(f.valueKey,given)]) = .ok [(f.valueKey,made)] := by
  have slots : slotsFrom 0 [f] = [⟨slotName 0,f.valueKey,f.verdict⟩] := by
    rw [slotsFrom,asked]
    rfl
  have judges := validateJudges [f] [(f.valueKey,given)]
  simp only [slots] at judges
  rw [judges]
  cases made with
  | null => contradiction
  | _ => simp [refusals,makings,named,Slot.verdict,Object.valueCons,took,refused?,made?,answers,Object.put]

def settled (payload : Object) (slot : Slot) : Slot := ⟨slot.name,slot.key,fun _ => Slot.verdict payload slot⟩

theorem judgedSettled (payload : Object) (slots : List Slot) :
    refusals [] (slots.map (settled payload)) = refusals payload slots ∧
    makings [] (slots.map (settled payload)) = makings payload slots := by
  simp [refusals,makings,named,List.filterMap_map,Function.comp_def,settled,Slot.verdict]

theorem reportSettled (payload : Object) (slots : List Slot) (refusals : List (String × Refusal)) :
    report (slots.map (settled payload)) refusals = report slots refusals := by
  simp [report,keyOf,List.find?_map,Function.comp_def,settled]

theorem answersSettled (payload judged : Object) (slots : List Slot) :
    answers judged (slots.map (settled payload)) = answers judged slots := by
  rw [answers,List.foldl_map,answers]
  rfl

theorem fieldsSettled {payload other : Object} {fields others : List Field}
    (same : List.Forall₂ (Field.SameEnd payload other) fields others) (place : Nat) :
    (slotsFrom place fields).map (settled payload) = (slotsFrom place others).map (settled other) := by
  induction same generalizing place with
  | nil => rfl
  | cons head rest ih =>
    rw [slotsFrom,slotsFrom,← head.layout]
    split
    · exact ih (place + 1)
    · rename_i asked
      have own (payload : Object) (f : Field) : settled payload ⟨slotName place,f.valueKey,f.verdict⟩ =
          ⟨slotName place,f.valueKey,fun _ => f.judged payload⟩ := rfl
      rw [List.map_cons,List.map_cons,ih,own,own,head.key,head.verdict (Bool.eq_false_iff.mpr asked)]

theorem validateAlike {payload other : Object} {fields others : List Field}
    (same : List.Forall₂ (Field.SameEnd payload other) fields others) :
    validateSubmission fields (.object payload) = validateSubmission others (.object other) := by
  have outcome (fields : List Field) (payload : Object) :
      validateSubmission fields (.object payload) =
        let slots := (slotsFrom 0 fields).map (settled payload)
        if (refusals [] slots).isEmpty then .ok (answers (makings [] slots) slots)
        else .error (report slots (refusals [] slots)) := by
    dsimp only
    rw [(judgedSettled payload _).1,(judgedSettled payload _).2,reportSettled,answersSettled]
    exact validateJudges fields payload
  rw [outcome,outcome,fieldsSettled same]

theorem slotsToFields (fields : List Field) (pick : String → (Value → Verdict) → Option α) :
    (slotsFrom 0 fields).filterMap (fun slot => pick slot.key slot.rule) =
      (fields.filter (fun f => !f.isLayout)).filterMap (fun f => pick f.valueKey f.verdict) := by
  have same := congrArg (List.filterMap (fun asked => pick asked.1 asked.2)) (slotsAsked 0 fields)
  rw [List.filterMap_map,List.filterMap_map] at same
  exact same

theorem noRefusals (fields : List Field) (payload : Object) :
    (refusals payload (slotsFrom 0 fields)).isEmpty = true ↔
      ∀ f ∈ fields.filter (fun f => !f.isLayout), ∃ v, f.judged payload = .ok v := by
  have accepted (verdict : Verdict) : refused? verdict = none ↔ ∃ v, verdict = .ok v := by
    cases verdict <;> simp [refused?]
  have fieldwise := slotsToFields fields (fun key rule => refused? (rule ((payload.value? key).getD .null)))
  have nothing : (refusals payload (slotsFrom 0 fields)).isEmpty = true ↔
      (slotsFrom 0 fields).filterMap (fun slot => refused? (Slot.verdict payload slot)) = [] := by
    simp [refusals,List.filterMap_eq_nil_iff]
  rw [nothing]
  simp only [Slot.verdict,fieldwise,List.filterMap_eq_nil_iff,accepted]
  rfl

theorem reportFields (fields : List Field) (payload : Object) :
    report (slotsFrom 0 fields) (refusals payload (slotsFrom 0 fields)) =
      (fields.filter (fun f => !f.isLayout)).filterMap
        (fun f => (refused? (f.judged payload)).map (fun e => ⟨f.valueKey,e.message⟩)) :=
  (reportRefusals (slotsDistinct 0 fields) payload).trans (slotsToFields fields
    (fun key rule => (refused? (rule ((payload.value? key).getD .null))).map (fun e => FieldError.mk key e.message)))

theorem answersFields (fields : List Field) (payload : Object) (key : String) :
    let slots := slotsFrom 0 fields
    (answers (makings payload slots) slots).value? key =
      (((fields.filter (fun f => !f.isLayout)).filter (fun f => f.valueKey == key)).filterMap
        (fun f => kept? (f.judged payload))).getLast? := by
  intro slots
  have made : ∀ slot ∈ slots,
      (((makings payload slots).value? slot.name).getD .null).present = kept? (Slot.verdict payload slot) := by
    intro slot member
    rw [makings,namedValue _ (slotsDistinct 0 fields) slot member,kept?]
    cases made? (Slot.verdict payload slot) <;> rfl
  have slotwise : (slots.filter (fun slot => slot.key == key)).filterMap
      (fun slot => (((makings payload slots).value? slot.name).getD .null).present) =
      (slots.filter (fun slot => slot.key == key)).filterMap (fun slot => kept? (Slot.verdict payload slot)) :=
    List.filterMap_congr fun slot member => made slot (List.mem_filter.mp member).1
  have fieldwise := slotsToFields fields (fun own rule =>
    if own == key then kept? (rule ((payload.value? own).getD .null)) else none)
  rw [answersValue,slotwise,List.filterMap_filter,List.filterMap_filter]
  exact congrArg List.getLast? fieldwise

theorem passesWhen (fields : List Field) (payload : Object) :
    (∃ data, validateSubmission fields (.object payload) = .ok data) ↔
      ∀ f ∈ fields.filter (fun f => !f.isLayout), ∃ v, f.judged payload = .ok v := by
  have judges := validateJudges fields payload
  dsimp only at judges
  rw [← noRefusals,judges]
  split
  · rename_i none
    exact ⟨fun _ => none,fun _ => ⟨_,rfl⟩⟩
  · rename_i some
    exact ⟨fun ⟨_,passed⟩ => (nomatch passed),fun none => absurd none some⟩

theorem refusedFor {fields : List Field} {payload : Object} {errors : List FieldError}
    (refused : validateSubmission fields (.object payload) = .error errors) :
    errors = (fields.filter (fun f => !f.isLayout)).filterMap
      (fun f => (refused? (f.judged payload)).map (fun e => ⟨f.valueKey,e.message⟩)) := by
  have judges := validateJudges fields payload
  dsimp only at judges
  rw [refused,reportFields] at judges
  split at judges
  · contradiction
  · exact Except.error.inj judges

theorem passedObject {fields : List Field} {payload : Value} {answers : Object}
    (passed : validateSubmission fields payload = .ok answers) : ∃ given, payload = .object given := by
  cases payload with
  | object given => exact ⟨given,rfl⟩
  | _ => cases passed

theorem keptUnder {fields : List Field} {payload data : Object}
    (passed : validateSubmission fields (.object payload) = .ok data) :
    (data.map (·.1)).Nodup ∧ ∀ key, data.value? key =
      (((fields.filter (fun f => !f.isLayout)).filter (fun f => f.valueKey == key)).filterMap
        (fun f => kept? (f.judged payload))).getLast? := by
  have judges := validateJudges fields payload
  dsimp only at judges
  rw [passed] at judges
  split at judges
  · rw [Except.ok.inj judges]
    exact ⟨answersDistinct _ _,answersFields fields payload⟩
  · contradiction

theorem keptMade {fields : List Field} {payload data : Object} {e : String × Value}
    (passed : validateSubmission fields (.object payload) = .ok data) (member : e ∈ data) :
    ∃ f ∈ fields, f.isLayout = false ∧ f.valueKey = e.1 ∧ f.judged payload = .ok e.2 := by
  obtain ⟨distinct,kept⟩ := keptUnder passed
  have last := (kept e.1).symm.trans (Object.valueMember distinct member)
  obtain ⟨f,among,kept⟩ := List.mem_filterMap.mp (List.mem_of_getLast? last)
  obtain ⟨asked,key⟩ := List.mem_filter.mp among
  obtain ⟨given,asked⟩ := List.mem_filter.mp asked
  refine ⟨f,given,by simpa using asked,beq_iff_eq.mp key,?_⟩
  cases judged : f.judged payload with
  | error refusal => simp [judged,kept?,made?] at kept
  | ok made =>
    rw [judged] at kept
    rcases presentCases made with ⟨absent,-⟩ | present
    · exact absurd (absent.symm.trans kept) (by simp)
    · rw [Option.some.inj (present.symm.trans kept)]

theorem keyAlone {asked : List Field} (distinct : (asked.map Field.valueKey).Nodup) :
    ∀ f ∈ asked, asked.filter (fun g => g.valueKey == f.valueKey) = [f] := by
  induction asked with
  | nil => simp
  | cons head rest ih =>
    obtain ⟨fresh,distinct⟩ := List.nodup_cons.mp distinct
    intro f member
    rcases List.mem_cons.mp member with rfl | later
    · have none : ∀ g ∈ rest, ¬(g.valueKey == f.valueKey) = true := fun g among same =>
        fresh (List.mem_map.mpr ⟨g,among,beq_iff_eq.mp same⟩)
      rw [List.filter_cons,if_pos (beq_self_eq_true _),List.filter_eq_nil_iff.mpr none]
    · have other : ¬(head.valueKey == f.valueKey) = true := fun same =>
        fresh (List.mem_map.mpr ⟨f,later,(beq_iff_eq.mp same).symm⟩)
      rw [List.filter_cons,if_neg other,ih distinct f later]

theorem keptAlone {fields : List Field} {payload data : Object}
    (distinct : ((fields.filter (fun f => !f.isLayout)).map Field.valueKey).Nodup)
    (passed : validateSubmission fields (.object payload) = .ok data) :
    ∀ f ∈ fields.filter (fun f => !f.isLayout), data.value? f.valueKey = kept? (f.judged payload) := by
  intro f asked
  rw [(keptUnder passed).2,keyAlone distinct f asked]
  cases kept : kept? (f.judged payload) <;> simp [kept]

theorem validateCongr {fields : List Field} {payload other : Object}
    (same : ∀ f ∈ fields.filter (fun f => !f.isLayout),
      (payload.value? f.valueKey).getD .null = (other.value? f.valueKey).getD .null) :
    validateSubmission fields (.object payload) = validateSubmission fields (.object other) := by
  refine validateAlike (List.forall₂_same.mpr fun f member => ⟨rfl,rfl,fun asked => ?_⟩)
  have own : f ∈ fields.filter (fun f => !f.isLayout) := List.mem_filter.mpr ⟨member,by simp [asked]⟩
  exact congrArg f.verdict (same f own)

end Schema
open Schema (refused? kept?)

/-- A payload passes exactly when every field that is asked accepts the entry under its key, null standing for
none. Otherwise every field that refuses is reported once, in order. What passes is kept under its key, from
the last field of the key that made anything of it. Entries that no field reads make no difference, nor does
anything of a field besides its label, its kind with its bounds, and whether it is required. -/
theorem verdictsDecide (fields : List Field) (payload : Object) :
    let asked := fields.filter (fun f => !f.isLayout)
    let answer (payload : Object) (f : Field) : Value := (payload.value? f.valueKey).getD .null
    ((∃ data, validateSubmission fields (.object payload) = .ok data) ↔
      ∀ f ∈ asked, ∃ v, f.verdict (answer payload f) = .ok v) ∧
    (∀ errors, validateSubmission fields (.object payload) = .error errors →
      errors = asked.filterMap (fun f =>
        (refused? (f.verdict (answer payload f))).map (fun e => ⟨f.valueKey,e.message⟩))) ∧
    (∀ data, validateSubmission fields (.object payload) = .ok data →
      (data.map (·.1)).Nodup ∧ ∀ key, data.value? key =
        ((asked.filter (fun f => f.valueKey == key)).filterMap (fun f => kept? (f.verdict (answer payload f)))).getLast?) ∧
    (∀ other, (∀ f ∈ asked, answer payload f = answer other f) →
      validateSubmission fields (.object payload) = validateSubmission fields (.object other)) ∧
    (∀ others, List.Forall₂ Field.SameQuestion fields others →
      validateSubmission fields (.object payload) = validateSubmission others (.object payload)) := by
  refine ⟨Schema.passesWhen fields payload,fun _ => Schema.refusedFor,fun _ => Schema.keptUnder,
    fun _ => Schema.validateCongr,?_⟩
  intro others same
  simp only [validateSubmission,Schema.compile,Field.sameSlots same]

end FormBuilder
