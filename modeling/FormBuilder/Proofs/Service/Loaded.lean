import FormBuilder.Proofs.Editor.Undone
import FormBuilder.Proofs.Service.Keys
/-! The ways in which a list of fields is taken in: by an editor, by the service, and by the store. Each of them
puts the fields in one and the same sequence, and an editor's snapshot opens as the editor it was taken of. -/
namespace FormBuilder

namespace Field

theorem arrangePasses {fields : List Field} (distinct : (fields.map (·.id)).Nodup) :
    arrange fields = .ok (renumber ((sorted fields).map cleaned)) := if_pos (decide_eq_true distinct)

theorem sortedCleanedIds (fields : List Field) :
    (renumber ((sorted fields).map cleaned)).map (·.id) = (sorted fields).map (·.id) := by
  rw [Editor.renumberIds,cleanedIds]

theorem keptIds {fields back : List Field} (kept : List.Forall₂ (fun f g => ∃ row : Int, g = f.kept row) fields back) :
    back.map (·.id) = fields.map (·.id) := keptMap (fun _ _ => rfl) kept

end Field

namespace Store

theorem storedIds {s : Store} (unlocked : s.fieldsLocked = false) (now : Int) {form : Int} (inside : fits form = true)
    (there : ∃ r ∈ s.forms, r.id = form) {fields : List Field} (distinct : (fields.map (·.id)).Nodup)
    (small : ∀ f ∈ fields, f.order < Nat.pow 2 63) (holds : s.Holds fields) :
    ∃ back, (s.replaceFields now form fields).2.1 = .ok back ∧
      (s.replaceFields now form fields).1.getFields form = .ok back ∧
      back.map (·.id) = (Field.sorted fields).map (·.id) := by
  have passes := (writeFaultNone unlocked).mpr
    ⟨inside,fun f member => fitsOrder (small f member),holds,writable there distinct⟩
  obtain ⟨same,outcome⟩ := replaceFieldsWritten passes now
  obtain ⟨back,read,kept⟩ := getFieldsReplaced s now form (Field.sortedInOrder fields).ascending
  exact ⟨back,outcome.trans read,same ▸ read,Field.keptIds kept⟩

theorem unheldRefused {s : Store} (unlocked : s.fieldsLocked = false) (now : Int) {form : Int} (inside : fits form = true)
    {fields : List Field} (small : ∀ f ∈ fields, f.order < Nat.pow 2 63) (unheld : ¬ s.Holds fields) :
    (s.replaceFields now form fields).1 = s ∧
    ∃ why, (s.replaceFields now form fields).2.1 = .error (.unwritableFields form why) := by
  cases fails : s.writeFault? form (Field.sorted fields) with
  | none =>
    obtain ⟨-,-,holds,-⟩ := (writeFaultNone unlocked).mp fails
    exact absurd holds unheld
  | some fault =>
    obtain ⟨why,rfl⟩ := writeFaultOwn inside (fun f member => fitsOrder (small f member)) fails
    obtain ⟨same,outcome⟩ := replaceFieldsFailed fails now
    exact ⟨same,why,outcome⟩

end Store

namespace Editor

theorem arrangedSorted (fields : List Field) : (arranged fields).map (·.id) = (Field.sorted fields).map (·.id) :=
  renumberIds _

theorem arrangedInPlace {fields : List Field} (dense : Field.InPlace fields) : arranged fields = fields := by
  have numbered : Field.Alike fields (Field.renumber fields) := Field.renumberFromAlike 0 fields
  rw [arranged,dense.inOrder]
  exact (dense.exact (Field.renumberInPlace fields) numbered).symm

theorem setFieldsRead {items : Value} {raws : List Value} {m n : Mint} {fields : List Field}
    (parts : items.parts = .ok raws) (read : Field.parseAll raws m = (.ok fields,n)) (e : Editor) :
    e.setFields items m = .silent (e.replaceFields fields) n .nothing := by
  simp only [setFields,parts,read]

theorem snapshotTaken {e : Editor} {title : String} {description : Option String} (named : e.title = .str title)
    (described : e.description = .ofOption .str description) :
    e.snapshot = .ok ⟨title,description,e.settings,e.fields⟩ := by
  have about : Scalar.optional Scalar.text e.description = .ok description := by
    rw [described]
    cases description <;> rfl
  simp only [snapshot,named,about]
  rfl

end Editor

theorem Service.prepareRead {items : Value} {raws : List Value} {m n : Mint} {fields : List Field}
    (parts : items.parts = .ok raws) (read : Field.parseAll raws m = (.ok fields,n)) :
    prepare (.raw items) m = ((prepare (.ready fields) n).1,n) := by
  simp only [prepare,parts,Field.prepare,read]

structure TakenAs (fields : List Field) (ids : List String) : Prop where
  opened : ∀ title description settings, (Editor.ofParts fields title description settings).ids = ids
  replaced : ∀ e : Editor, (e.replaceFields fields).ids = ids
  prepared : ∀ m, ∃ prepared, Service.prepare (.ready fields) m = (.ok prepared,m) ∧ prepared.map (·.id) = ids
  stored : ∀ (s : Store) (now form : Int), s.fieldsLocked = false → Store.fits form = true →
    (∃ r ∈ s.forms, r.id = form) →
    (s.Holds fields → ∃ back, (s.replaceFields now form fields).2.1 = .ok back ∧
      (s.replaceFields now form fields).1.getFields form = .ok back ∧ back.map (·.id) = ids) ∧
    (¬ s.Holds fields → (s.replaceFields now form fields).1 = s ∧
      ∃ why, (s.replaceFields now form fields).2.1 = .error (.unwritableFields form why))
  read : ∀ (items : Value) (raws : List Value) (m n : Mint), items.parts = .ok raws →
    Field.parseAll raws m = (.ok fields,n) → (∀ e : Editor, (e.setFields items m).editor.ids = ids) ∧
      ∃ prepared, Service.prepare (.raw items) m = (.ok prepared,n) ∧ prepared.map (·.id) = ids

theorem takenSorted {fields : List Field} (distinct : (fields.map (·.id)).Nodup)
    (small : ∀ f ∈ fields, f.order < Nat.pow 2 63) : TakenAs fields ((Field.sorted fields).map (·.id)) := by
  have prepared (m : Mint) : Service.prepare (.ready fields) m =
      (.ok (Field.renumber ((Field.sorted fields).map Field.cleaned)),m) := by
    rw [Service.prepare,Field.arrangePasses distinct]
    rfl
  refine {
    opened := fun _ _ _ => Editor.arrangedSorted fields
    replaced := fun _ => Editor.arrangedSorted fields
    prepared := fun m => ⟨_,prepared m,Field.sortedCleanedIds fields⟩
    stored := fun s now form unlocked inside there =>
      ⟨Store.storedIds unlocked now inside there distinct small,Store.unheldRefused unlocked now inside small⟩
    read := fun items raws m n parts read => ⟨fun e => ?_,_,?_,Field.sortedCleanedIds fields⟩ }
  · rw [Editor.setFieldsRead parts read]
    exact Editor.arrangedSorted fields
  · rw [Service.prepareRead parts read,prepared n]

/-- Fields of distinct ids, whatever their orders, come in one sequence wherever they are taken in: by order, and
fields of equal order as they came. An editor opens them so, takes them so in place of its own, the service prepares
them so, and a form has them so once they were stored, which a store that can hold them does; whether they come as
fields or are read from data makes no difference. And an editor whose fields stand at their orders, with a text for a
title and a text or nothing for a description, can be saved, and what was saved opens with the same fields, title,
description and settings, with nothing to save, and would be saved as the same again. -/
theorem loadersAgree :
    (∀ fields : List Field, (fields.map (·.id)).Nodup → (∀ f ∈ fields, f.order < Nat.pow 2 63) →
      ∃ asked, (∀ other, Field.InOrder fields other ↔ other = asked) ∧ TakenAs fields (asked.map (·.id))) ∧
    (∀ (e : Editor) (title : String) (description : Option String), Field.InPlace e.fields → e.title = .str title →
      e.description = .ofOption .str description → ∃ snapshot, e.snapshot = .ok snapshot ∧
        let back := Editor.ofSnapshot snapshot
        back.fields = e.fields ∧ back.title = e.title ∧ back.description = e.description ∧
        back.settings = e.settings ∧ back.dirty = false ∧ back.snapshot = .ok snapshot) := by
  constructor
  · intro fields distinct small
    have order := Field.sortedInOrder fields
    refine ⟨_,fun other => ⟨order.only,?_⟩,takenSorted distinct small⟩
    rintro rfl
    exact order
  · intro e title description dense named described
    have same : Editor.arranged e.fields = e.fields := Editor.arrangedInPlace dense
    have again : (Editor.ofSnapshot ⟨title,description,e.settings,e.fields⟩).snapshot =
        .ok ⟨title,description,e.settings,Editor.arranged e.fields⟩ := Editor.snapshotTaken rfl rfl
    refine ⟨_,Editor.snapshotTaken named described,same,named.symm,described.symm,rfl,rfl,?_⟩
    rw [again,same]

theorem tiesTakenAsTheyCome :
    let field (id : String) (order : Nat) : Field := ⟨id,none,"Q",order,⟨false,none,none⟩,.text⟩
    let fields := [field "c" 7,field "a" 2,field "d" 7,field "b" 2]
    let e : Editor := ⟨[field "a" 0,field "b" 1],.str "T",.null,.default,some "a",true,false,false,3⟩
    TakenAs fields ["a","b","c","d"] ∧ ∃ snapshot, e.snapshot = .ok snapshot ∧
      (Editor.ofSnapshot snapshot).fields = e.fields ∧ (Editor.ofSnapshot snapshot).dirty = false := by
  intro field fields e
  have small : ∀ f ∈ fields, f.order < Nat.pow 2 63 := by decide
  obtain ⟨asked,only,taken⟩ := loadersAgree.1 fields (by decide) small
  have order : Field.InOrder fields [field "a" 2,field "b" 2,field "c" 7,field "d" 7] := by
    refine ⟨by decide,fun n => ?_⟩
    by_cases two : n = 2
    · subst two; rfl
    · by_cases seven : n = 7
      · subst seven; rfl
      · simp [fields,field,Ne.symm two,Ne.symm seven]
  rw [← (only _).mp order] at taken
  have dense : Field.InPlace e.fields := Field.renumberInPlace [field "a" 0,field "b" 1]
  obtain ⟨snapshot,ok,same,-,-,-,clean,-⟩ := loadersAgree.2 e "T" none dense rfl rfl
  exact ⟨taken,snapshot,ok,same,clean⟩

end FormBuilder
