import FormBuilder.Proofs.Object
import FormBuilder.Schema
import Mathlib.Data.List.Basic
/-! What the slots of a schema come to. The names of slots are distinct, so each slot is given the entry
under its own key, its refusal is reported under that key, and its answer is kept under it. -/
namespace FormBuilder.Schema

theorem slotNameInjective {a b : Nat} (same : slotName a = slotName b) : a = b := by
  have digits : Nat.toDigits 10 a = Nat.toDigits 10 b := by
    have texts := congrArg String.toList same
    simpa [slotName,Nat.repr] using texts
  have back := congrArg (Nat.ofDigitChars 10 · 0) digits
  simpa [Nat.ofDigitChars_toDigits] using back

theorem slotPlaces (place : Nat) (fields : List Field) :
    ∀ slot ∈ slotsFrom place fields, ∃ n, place ≤ n ∧ slot.name = slotName n := by
  induction fields generalizing place with
  | nil => simp [slotsFrom]
  | cons f rest ih =>
    have later : ∀ slot ∈ slotsFrom (place + 1) rest, ∃ n, place ≤ n ∧ slot.name = slotName n := by
      intro slot member
      obtain ⟨n,above,named⟩ := ih (place + 1) slot member
      exact ⟨n,by omega,named⟩
    unfold slotsFrom
    split
    · exact later
    · exact List.forall_mem_cons.mpr ⟨⟨place,Nat.le_refl place,rfl⟩,later⟩

def Distinct (slots : List Slot) : Prop := (slots.map (·.name)).Nodup

theorem slotsDistinct (place : Nat) (fields : List Field) : Distinct (slotsFrom place fields) := by
  induction fields generalizing place with
  | nil => exact List.nodup_nil
  | cons f rest ih =>
    unfold slotsFrom
    split
    · exact ih (place + 1)
    · refine List.nodup_cons.mpr ⟨?_,ih (place + 1)⟩
      intro again
      obtain ⟨slot,member,same⟩ := List.mem_map.mp again
      obtain ⟨n,above,named⟩ := slotPlaces (place + 1) rest slot member
      have := slotNameInjective (named.symm.trans same)
      omega

theorem slotThere {fields : List Field} {place : Nat} {f : Field} (there : fields[place]? = some f)
    (asked : f.isLayout = false) (start : Nat) :
    ⟨slotName (start + place),f.valueKey,f.verdict⟩ ∈ slotsFrom start fields := by
  induction fields generalizing start place with
  | nil => simp at there
  | cons head rest ih =>
    cases place with
    | zero =>
      cases Option.some.inj there
      simp [slotsFrom,asked]
    | succ place =>
      have later := ih there (start + 1)
      rw [Nat.add_right_comm,Nat.add_assoc] at later
      unfold slotsFrom
      split
      · exact later
      · exact List.mem_cons_of_mem _ later

theorem slotsAsked (place : Nat) (fields : List Field) :
    (slotsFrom place fields).map (fun slot => (slot.key,slot.rule)) =
      (fields.filter (fun f => !f.isLayout)).map (fun f => (f.valueKey,f.verdict)) := by
  induction fields generalizing place with
  | nil => rfl
  | cons f rest ih =>
    unfold slotsFrom
    cases layout : f.isLayout <;> simp [layout,ih]

def named (give : Slot → Option Value) (slots : List Slot) : Object :=
  slots.filterMap (fun slot => (give slot).map (fun v => (slot.name,v)))

theorem namedElsewhere (give : Slot → Option Value) {slots : List Slot} {name : String}
    (other : name ∉ slots.map (·.name)) : (named give slots).value? name = none := by
  rw [Object.valueNone]
  intro e member same
  obtain ⟨slot,among,given⟩ := List.mem_filterMap.mp member
  obtain ⟨v,-,rfl⟩ := Option.map_eq_some_iff.mp given
  exact other (List.mem_map.mpr ⟨slot,among,same⟩)

theorem namedValue (give : Slot → Option Value) {slots : List Slot} (distinct : Distinct slots) :
    ∀ slot ∈ slots, (named give slots).value? slot.name = give slot := by
  induction slots with
  | nil => simp
  | cons head rest ih =>
    obtain ⟨fresh,distinct⟩ := List.nodup_cons.mp distinct
    have first : named give (head :: rest) = ((give head).map (fun v => (head.name,v))).toList ++ named give rest := by
      rw [named,List.filterMap_cons]
      cases give head <;> rfl
    intro slot member
    rw [first,Object.valueAppend]
    rcases List.mem_cons.mp member with rfl | later
    · rw [namedElsewhere give fresh,Option.or_none]
      cases give slot <;> simp [Object.valueCons]
    · have other : head.name ≠ slot.name := fun same => fresh (List.mem_map.mpr ⟨slot,later,same.symm⟩)
      have ih := ih distinct slot later
      cases give head <;> simpa [Object.valueCons,other] using ih

def refused? : Verdict → Option Refusal
  | .ok _ => none
  | .error e => some e

def made? : Verdict → Option Value
  | .ok v => some v
  | .error _ => none

def Slot.verdict (payload : Object) (slot : Slot) : Verdict := slot.rule ((payload.value? slot.key).getD .null)

def refusals (payload : Object) (slots : List Slot) : List (String × Refusal) :=
  slots.filterMap (fun slot => (refused? (Slot.verdict payload slot)).map (fun e => (slot.name,e)))

def makings (payload : Object) : List Slot → Object := named (fun slot => made? (Slot.verdict payload slot))

theorem judgeReads {given payload : Object} {slots : List Slot}
    (read : ∀ slot ∈ slots, given.value? slot.name = payload.value? slot.key) :
    judge given slots =
      if (refusals payload slots).isEmpty then .ok (makings payload slots) else .error (refusals payload slots) := by
  induction slots with
  | nil => rfl
  | cons slot rest ih =>
    obtain ⟨here,later⟩ := List.forall_mem_cons.mp read
    have ih := ih later
    have own : slot.rule ((given.value? slot.name).getD .null) = Slot.verdict payload slot := by
      rw [here,Slot.verdict]
    cases verdict : Slot.verdict payload slot with
    | ok v =>
      have spared : refusals payload (slot :: rest) = refusals payload rest := by
        simp [refusals,verdict,refused?]
      have made : makings payload (slot :: rest) = (slot.name,v) :: makings payload rest := by
        simp [makings,named,verdict,made?]
      rw [judge,own,verdict,ih,spared,made]
      cases (refusals payload rest).isEmpty <;> rfl
    | error e =>
      have noted : refusals payload (slot :: rest) = (slot.name,e) :: refusals payload rest := by
        simp [refusals,verdict,refused?]
      rw [judge,own,verdict,ih,noted]
      cases nothing : (refusals payload rest).isEmpty with
      | true =>
        rw [List.isEmpty_iff.mp nothing]
        rfl
      | false => rfl

theorem judgeTaken {slots : List Slot} (distinct : Distinct slots) (payload : Object) :
    judge (taken payload slots) slots =
      if (refusals payload slots).isEmpty then .ok (makings payload slots) else .error (refusals payload slots) :=
  judgeReads (namedValue (fun slot => payload.value? slot.key) distinct)

theorem keyOfSlot {slots : List Slot} (distinct : Distinct slots) :
    ∀ slot ∈ slots, keyOf slots slot.name = slot.key := by
  induction slots with
  | nil => simp
  | cons head rest ih =>
    obtain ⟨fresh,distinct⟩ := List.nodup_cons.mp distinct
    intro slot member
    rcases List.mem_cons.mp member with rfl | later
    · simp [keyOf]
    · have other : (head.name == slot.name) = false := beq_eq_false_iff_ne.mpr fun same =>
        fresh (List.mem_map.mpr ⟨slot,later,same.symm⟩)
      have known := ih distinct slot later
      simp only [keyOf,List.find?_cons,other] at known ⊢
      exact known

theorem reportRefusals {slots : List Slot} (distinct : Distinct slots) (payload : Object) :
    report slots (refusals payload slots) =
      slots.filterMap (fun slot => (refused? (Slot.verdict payload slot)).map (fun e => ⟨slot.key,e.message⟩)) := by
  rw [report,refusals,List.map_filterMap]
  refine List.filterMap_congr fun slot member => ?_
  rw [Option.map_map]
  congr 1
  funext e
  simp [keyOfSlot distinct slot member]

def kept? (verdict : Verdict) : Option Value := (made? verdict).bind Value.present

def keep (judged data : Object) (slot : Slot) : Object :=
  match ((judged.value? slot.name).getD .null).present with
  | none => data
  | some v => data.put slot.key v

theorem answersKept (judged : Object) (slots : List Slot) : answers judged slots = slots.foldl (keep judged) [] := by
  unfold answers
  congr 1
  funext data slot
  unfold keep
  cases (judged.value? slot.name).getD .null <;> rfl

theorem answersDistinct (judged : Object) (slots : List Slot) : ((answers judged slots).map (·.1)).Nodup := by
  have step (slots : List Slot) (data : Object) (distinct : (data.map (·.1)).Nodup) :
      ((slots.foldl (keep judged) data).map (·.1)).Nodup := by
    induction slots generalizing data with
    | nil => exact distinct
    | cons slot rest ih =>
      refine ih (keep judged data slot) ?_
      unfold keep
      split
      · exact distinct
      · exact Object.putDistinct distinct _ _
  rw [answersKept]
  exact step slots [] List.nodup_nil

theorem answersValue (judged : Object) (slots : List Slot) (key : String) :
    (answers judged slots).value? key = ((slots.filter (fun slot => slot.key == key)).filterMap
      (fun slot => ((judged.value? slot.name).getD .null).present)).getLast? := by
  have step (slots : List Slot) (data : Object) :
      (slots.foldl (keep judged) data).value? key = ((slots.filter (fun slot => slot.key == key)).filterMap
        (fun slot => ((judged.value? slot.name).getD .null).present)).getLast?.or (data.value? key) := by
    induction slots generalizing data with
    | nil => simp
    | cons slot rest ih =>
      rw [List.foldl_cons,ih]
      cases own : ((judged.value? slot.name).getD .null).present with
      | none => by_cases same : slot.key = key <;> simp [keep,own,same]
      | some v =>
        by_cases same : slot.key = key
        · simp [keep,own,same,Object.valuePut,List.getLast?_cons]
        · simp [keep,own,same,Object.valuePut]
  rw [answersKept,step,Object.valueNil,Option.or_none]

end FormBuilder.Schema
