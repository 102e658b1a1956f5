import FormBuilder.Proofs.Editor.Collisions
import FormBuilder.Proofs.Editor.Forward
import FormBuilder.Proofs.Schema.Slots
import FormBuilder.Proofs.Service.Reloaded
/-! The keys that are shown while a form is edited, and the keys under which its answers are read once it was saved.
Labels are cleaned on their way into the store, so the two are the same as far as the labels were clean before. -/
namespace FormBuilder

namespace Field

theorem InPlace.inOrder {fields : List Field} (inPlace : InPlace fields) : sorted fields = fields := by
  refine List.mergeSort_of_pairwise (List.pairwise_iff_getElem.mpr fun i j early late before => decide_eq_true ?_)
  rw [inPlace i _ (List.getElem?_eq_getElem early),inPlace j _ (List.getElem?_eq_getElem late)]
  exact before.le

def savedIn (f : Field) (order : Nat) (row : Int) : Field := { cleaned f with order }.kept row

theorem savedInKey (f : Field) (order : Nat) (row : Int) :
    (f.savedIn order row).id = f.id ∧ (f.savedIn order row).isLayout = f.isLayout ∧
      (f.savedIn order row).valueKey = f.savedKey := by
  simp only [savedIn,kept,cleaned,isLayout,type,valueKey,savedKey,true_and,and_true]
  cases f.kind <;> rfl

theorem renumberedSaved {start : Nat} {fields back : List Field}
    (kept : List.Forall₂ (fun f g => ∃ row : Int, g = f.kept row) (renumberFrom start (fields.map cleaned)) back) :
    List.Forall₂ (fun f g => ∃ order row, g = f.savedIn order row) fields back := by
  induction fields generalizing start back with
  | nil =>
    cases kept
    exact .nil
  | cons f rest ih =>
    obtain ⟨g,others,⟨row,rfl⟩,later,rfl⟩ := List.forall₂_cons_left_iff.mp kept
    exact .cons ⟨start,row,rfl⟩ (ih later)

theorem arrangedSaved {fields prepared back : List Field} (arranged : arrange fields = .ok prepared)
    (kept : List.Forall₂ (fun f g => ∃ row : Int, g = f.kept row) prepared back) :
    (fields.map (·.id)).Nodup ∧ Editor.Saved (sorted fields) back := by
  unfold arrange at arranged
  split at arranged
  · rename_i distinct
    cases arranged
    refine ⟨of_decide_eq_true distinct,(renumberedSaved kept).imp ?_⟩
    rintro f g ⟨order,row,rfl⟩
    exact savedInKey f order row
  · contradiction

end Field

namespace Editor

theorem savedSlot {fields others : List Field} (saved : Saved (Field.sorted fields) others) {f : Field}
    (among : f ∈ fields) (asked : f.isLayout = false) : ∃ place g, others[place]? = some g ∧ g.id = f.id ∧
      ⟨Schema.slotName place,f.savedKey,g.verdict⟩ ∈ (Schema.compile others).slots := by
  obtain ⟨place,inside,own⟩ := List.mem_iff_getElem.mp (Store.sortedMember.mpr among)
  have reach : place < others.length := saved.length_eq ▸ inside
  obtain ⟨id,layout,key⟩ := saved.get inside reach
  rw [List.get_eq_getElem,List.get_eq_getElem,own] at id layout key
  have there : others[place]? = some others[place] := List.getElem?_eq_getElem reach
  have slot := Schema.slotThere there (layout.trans asked) 0
  rw [Nat.zero_add,key] at slot
  exact ⟨place,_,there,id,slot⟩

theorem snapshotFields {e : Editor} {snapshot : Snapshot} (taken : e.snapshot = .ok snapshot) :
    snapshot.fields = e.fields := by
  obtain ⟨title,description,-,-,rfl⟩ := Checked.bothOk.mp taken
  rfl

theorem valueKeyOwn {e : Editor} (distinct : (e.fields.map (·.id)).Nodup) {f : Field} (among : f ∈ e.fields) :
    e.valueKey? f.id = some f.valueKey := by
  rw [valueKey?,field?,Field.findOwn distinct among,Option.map_some]

end Editor

namespace Service
open Store (WellKept fits)

/-- Saving a form keeps the key of a field exactly when its label is clean, and keeps the collisions exactly when all
the labels in them are. Otherwise answers are read under keys that were not shown while the form was edited. -/
theorem cleanLabelsKeepKeys (limiter : Option (Limiter Double)) (m : Mint) (moves : List Move) {owner : String}
    {form : Int} {e : Editor} {snapshot : Snapshot} {saved : Form} (taken : e.snapshot = .ok snapshot)
    (ok : (((start limiter m).play moves).saveSnapshot owner form snapshot).2 = .ok saved) :
    ∃ now, (((start limiter m).play moves).saveSnapshot owner form snapshot).1.getForm owner form = .ok now ∧
      (∀ f ∈ e.fields, f.isLayout = false → ∃ place g, now.fields[place]? = some g ∧ g.id = f.id ∧
        ⟨Schema.slotName place,f.savedKey,g.verdict⟩ ∈ (Schema.compile now.fields).slots ∧
        (e.valueKey? f.id = some f.savedKey ↔ Sanitize.clean f.label = f.label)) ∧
      ((∀ key id, Editor.Collides e.fields key id ↔ Editor.Collides now.fields key id) ↔
        Field.CleanTogether e.fields) ∧
      (Field.InPlace e.fields → ((∀ group, group ∈ e.keyCollisions ↔ group ∈ Editor.collisions now.fields) ↔
        Field.CleanTogether e.fields)) := by
  obtain ⟨old,now,prepared,-,found,arranged,savedAs⟩ := saveSnapshotReloads (playKept (startKept limiter m) moves) ok
  rw [Editor.snapshotFields taken] at arranged
  obtain ⟨distinct,saved⟩ := Field.arrangedSaved arranged savedAs.fields
  refine ⟨now,found,fun f among asked => ?_,Editor.savedCollides distinct saved,fun inPlace =>
    Editor.savedCollisions distinct inPlace.inOrder saved⟩
  obtain ⟨place,g,there,id,slot⟩ := Editor.savedSlot saved among asked
  refine ⟨place,g,there,id,slot,?_⟩
  rw [Editor.valueKeyOwn distinct among,Option.some_inj]
  exact f.savedKeyOwn

theorem paddedLabelTakesKey :
    let s := (start none (.atSeconds 0)).play [.ask (.createForm "alice" (.str "T") .null (.object []) (.ready []))]
    let padded : Field := ⟨"a",none," Name",0,⟨false,none,none⟩,.text⟩
    let plain : Field := ⟨"b",none,"Name",1,⟨false,none,none⟩,.text⟩
    let e : Editor := ⟨[padded,plain],.str "T",.null,.default,none,true,false,false,2⟩
    let snapshot : Snapshot := ⟨"T",none,.default,[padded,plain]⟩
    e.snapshot = .ok snapshot ∧ (∃ saved, (s.saveSnapshot "alice" 1 snapshot).2 = .ok saved) ∧
    ∃ now, (s.saveSnapshot "alice" 1 snapshot).1.getForm "alice" 1 = .ok now ∧
      e.valueKey? "a" = some "_name" ∧ (∃ slot ∈ (Schema.compile now.fields).slots, slot.key = "name") ∧
      e.keyCollisions = [] ∧ ¬ ∀ group, group ∈ e.keyCollisions ↔ group ∈ Editor.collisions now.fields := by
  intro s padded plain e snapshot
  have kept : WellKept s.store := playKept (startKept none (.atSeconds 0)) _
  obtain ⟨old,found⟩ := passed (x := s.owned "alice" 1) (by decide +kernel)
  obtain ⟨p,patch⟩ := passed (x := readPatch (snapshotUpdate snapshot).patch) (by decide +kernel)
  obtain ⟨prepared,arranged⟩ := passed (x := Field.arrange snapshot.fields) (by decide +kernel)
  have fit : ∀ f ∈ prepared, fits f.order = true := fun f member =>
    fitsBelow ((Field.arrangeDistinct arranged).2 f member) (by decide)
  have holds : s.store.Holds prepared := arrangedHolds arranged (by decide) (by decide +kernel)
  have apart : Settings.Apart snapshot.settings.extra := by simp [Settings.Apart,snapshot,Settings.default]
  obtain ⟨saved,ok⟩ := saveSnapshotPasses kept found patch arranged fit holds apart List.nodup_nil
  have taken : e.snapshot = .ok snapshot := rfl
  obtain ⟨now,reads,keys,-,groups⟩ := cleanLabelsKeepKeys none (.atSeconds 0) _ taken ok
  have shownKey : padded.valueKey = "_name" := (Text.valueKeyAscii (by decide)).trans (by decide)
  have plainKey : plain.valueKey = "name" := (Text.valueKeyAscii (by decide)).trans (by decide)
  have trimmed : Sanitize.clean " Name" = "Name" := by decide +kernel
  have own : padded.savedKey = "name" := (congrArg Text.valueKey trimmed).trans plainKey
  have same : plain.savedKey = "name" := (congrArg Text.valueKey (by decide +kernel)).trans plainKey
  obtain ⟨place,g,-,-,slot,-⟩ := keys padded List.mem_cons_self rfl
  have inPlace : Field.InPlace e.fields := by
    rintro (_ | _ | i) f there
    · cases there; rfl
    · cases there; rfl
    · simp [e] at there
  have alone : e.keyCollisions = [] := by
    have asked : padded.isLayout = false ∧ plain.isLayout = false := ⟨rfl,rfl⟩
    simp [e,Editor.keyCollisions,Editor.collisions,Editor.keyGroups,asked,Editor.addToGroup,shownKey,plainKey]
  refine ⟨taken,⟨saved,ok⟩,now,reads,congrArg some shownKey,⟨_,slot,own⟩,alone,fun agree => ?_⟩
  have clean := (groups inPlace).mp agree padded List.mem_cons_self plain (by simp [e]) rfl rfl (by decide)
    (.inr (own.trans same.symm))
  exact absurd (trimmed.symm.trans clean) (by decide)

end Service
end FormBuilder
