import FormBuilder.Proofs.Editor.Shown
/-! The edits that change which fields there are and how they follow each other, told by the lists before and after,
and taken back. Fields are compared but for their orders: where each stands at its order, the list then says it all. -/
namespace FormBuilder

namespace Field

def unordered (f : Field) : Field := { f with order := 0 }

def Alike (fields others : List Field) : Prop := fields.map unordered = others.map unordered

theorem Alike.ids {fields others : List Field} (alike : Alike fields others) : fields.map (·.id) = others.map (·.id) := by
  simpa [Function.comp_def,unordered] using congrArg (List.map (·.id)) alike

theorem renumberFromAlike (start : Nat) (fields : List Field) : Alike fields (renumberFrom start fields) := by
  induction fields generalizing start with
  | nil => rfl
  | cons f rest ih => exact congrArg (f.unordered :: ·) (ih (start + 1))

theorem InPlace.exact {fields others : List Field} (inPlace : InPlace fields) (placed : InPlace others)
    (alike : Alike fields others) : fields = others := by
  refine List.ext_getElem? fun i => ?_
  have same : fields[i]?.map unordered = others[i]?.map unordered := by
    rw [← List.getElem?_map,← List.getElem?_map,alike]
  cases left : fields[i]? with
  | none =>
    rw [left] at same
    exact (Option.map_eq_none_iff.mp same.symm).symm
  | some f =>
    rw [left] at same
    obtain ⟨g,right,own⟩ := Option.map_eq_some_iff.mp same.symm
    have order : g.order = f.order := (placed i g right).trans (inPlace i f left).symm
    have back (h : Field) : h = { h.unordered with order := h.order } := rfl
    rw [right,back f,back g,own,order]

theorem alikeErased {fields others : List Field} (alike : Alike fields others) (i : Nat) :
    Alike (fields.eraseIdx i) (others.eraseIdx i) := by
  unfold Alike at alike ⊢
  rw [← List.eraseIdx_map,← List.eraseIdx_map,alike]

structure Inserted (before after : List Field) (position : Nat) (f : Field) : Prop where
  there : after[position]? = some { f with order := position }
  others : Alike before (after.eraseIdx position)
  inPlace : InPlace after

structure Moved (before after : List Field) (source target : Nat) : Prop where
  there : ∃ f, before[source]? = some f ∧ after[target]? = some { f with order := target }
  others : Alike (before.eraseIdx source) (after.eraseIdx target)
  inPlace : InPlace after

theorem insertedAt {fields : List Field} {position : Nat} (inside : position ≤ fields.length) (f : Field) :
    Inserted fields (renumber (fields.insertIdx position f)) position f := by
  refine ⟨?_,?_,renumberInPlace _⟩
  · rw [renumber,renumberFromAt,List.getElem?_insertIdx_self,if_pos inside,Option.map_some,Nat.zero_add]
  · have others := alikeErased (renumberFromAlike 0 (fields.insertIdx position f)) position
    rwa [List.eraseIdx_insertIdx_self] at others

theorem Inserted.ids {before after : List Field} {position : Nat} {f : Field} (inserted : Inserted before after position f) :
    (after.map (·.id)).Perm (f.id :: before.map (·.id)) := by
  have perm := Editor.removedPerm inserted.there
  rw [← inserted.others.ids] at perm
  exact perm.symm

theorem movedAt {fields : List Field} {source target : Nat} (left : source < fields.length)
    (entered : target < fields.length) : Moved fields (renumber (Editor.moved fields source target)) source target := by
  have there := List.getElem?_eq_getElem left
  have short := List.length_eraseIdx_add_one left
  have room : target ≤ (fields.eraseIdx source).length := by omega
  have inserted := insertedAt room fields[source]
  rw [Editor.moved,there]
  exact ⟨⟨_,there,inserted.there⟩,inserted.others,inserted.inPlace⟩

theorem Moved.length {before after : List Field} {source target : Nat} (moved : Moved before after source target) :
    after.length = before.length := by
  obtain ⟨f,start,final⟩ := moved.there
  have left := List.length_eraseIdx_add_one (List.getElem?_eq_some_iff.mp start).1
  have entered := List.length_eraseIdx_add_one (List.getElem?_eq_some_iff.mp final).1
  have others := congrArg List.length moved.others
  simp only [List.length_map] at others
  omega

theorem Moved.back {before between after : List Field} {source target : Nat} (moved : Moved before between source target)
    (back : Moved between after target source) : Alike before after := by
  have whole {fields : List Field} {i : Nat} {f : Field} (there : fields[i]? = some f) :
      fields.map unordered = ((fields.eraseIdx i).map unordered).insertIdx i f.unordered := by
    obtain ⟨inside,rfl⟩ := List.getElem?_eq_some_iff.mp there
    rw [← List.map_insertIdx,List.insertIdx_eraseIdx_getElem]
  obtain ⟨f,start,left⟩ := moved.there
  obtain ⟨g,held,final⟩ := back.there
  cases Option.some.inj (left.symm.trans held)
  have others : Alike (before.eraseIdx source) (after.eraseIdx source) := moved.others.trans back.others
  unfold Alike at others ⊢
  rw [whole start,whole final,others]
  rfl

theorem othersErased {fields : List Field} (distinct : (fields.map (·.id)).Nodup) {i : Nat} {f : Field}
    (there : fields[i]? = some f) : fields.filter (fun g => g.id != f.id) = fields.eraseIdx i := by
  induction fields generalizing i with
  | nil => simp at there
  | cons head rest ih =>
    obtain ⟨once,distinct⟩ := List.nodup_cons.mp distinct
    cases i with
    | zero =>
      cases there
      have others : ∀ g ∈ rest, (g.id != f.id) = true := fun g member => by
        simpa using fun same => once (List.mem_map.mpr ⟨g,member,same⟩)
      rw [List.filter_cons_of_neg (by simp),List.filter_eq_self.mpr others]
      rfl
    | succ i =>
      rw [List.getElem?_cons_succ] at there
      have other : head.id ≠ f.id := fun same =>
        once (List.mem_map.mpr ⟨f,List.mem_of_getElem? there,same.symm⟩)
      rw [List.filter_cons_of_pos (by simpa using other),ih distinct there]
      rfl

end Field

namespace Editor

theorem clampExact (size : Nat) (n : Int) : (clamp size (some n) : Int) = max 0 (min n size) := by
  show ((if n < 0 then 0 else Nat.min n.toNat size : Nat) : Int) = _
  have least : Nat.min n.toNat size = min n.toNat size := rfl
  split <;> omega

theorem placedInserted (e : Editor) (f : Field) {position : Nat} (inside : position ≤ e.fields.length) :
    Field.Inserted e.fields (e.placed f position).fields position f := Field.insertedAt inside f

theorem reorderMoved (e : Editor) (m : Mint) {source target : Nat} (left : source < e.fields.length)
    (entered : target < e.fields.length) :
    Field.Moved e.fields (e.reorder source target m).editor.fields source target := by
  have inside : (inRange source e.fields.length && inRange target e.fields.length) = true := by
    simp [inRange,left,entered]
  rw [reorder,if_pos inside]
  exact Field.movedAt left entered

theorem duplicateInserted {e : Editor} (distinct : e.ids.Nodup) (m : Mint) {i : Nat} {f : Field}
    (there : e.fields[i]? = some f) : (e.duplicate f.id m).reply =
        .ok (.field { f with id := m.fieldId.1, persistedId := none, order := i + 1 }) ∧
      Field.Inserted e.fields (e.duplicate f.id m).editor.fields (i + 1)
        { f with id := m.fieldId.1, persistedId := none } := by
  have inside : i + 1 ≤ e.fields.length := (List.getElem?_eq_some_iff.mp there).1
  have found : e.field? f.id = some f := Field.findOwn distinct (List.mem_of_getElem? there)
  have placed := placedInserted e { f with id := m.fieldId.1, persistedId := none, order := i + 1 } inside
  simp only [duplicate,indexOwn distinct there,found]
  exact ⟨rfl,placed.there,placed.others,placed.inPlace⟩

theorem deleteOthers {e : Editor} (dense : Field.InPlace e.fields) (distinct : e.ids.Nodup) (gone : String) (m : Mint) :
    Field.Alike (e.fields.filter (fun f => f.id != gone)) (e.delete gone m).editor.fields ∧
    Field.InPlace (e.delete gone m).editor.fields := by
  unfold delete
  split
  · rename_i index
    have others : ∀ f ∈ e.fields, (f.id != gone) = true := fun f member => by
      simpa using List.findIdx?_eq_none_iff.mp index f member
    rw [List.filter_eq_self.mpr others]
    exact ⟨rfl,dense⟩
  · rename_i i index
    obtain ⟨f,there,rfl,-⟩ := indexFound index
    rw [Field.othersErased distinct there]
    exact ⟨Field.renumberFromAlike 0 _,Field.renumberInPlace _⟩

theorem insertedUndone {e t : Editor} (dense : Field.InPlace e.fields) (distinct : e.ids.Nodup) {position : Nat} {f : Field}
    (inserted : Field.Inserted e.fields t.fields position f) (fresh : f.id ∉ e.ids) (m : Mint) :
    (t.delete f.id m).editor.fields = e.fields := by
  have once : t.ids.Nodup := inserted.ids.nodup_iff.mpr (List.nodup_cons.mpr ⟨fresh,distinct⟩)
  obtain ⟨others,inPlace⟩ := deleteOthers inserted.inPlace once f.id m
  have left : t.fields.filter (fun g => g.id != f.id) = t.fields.eraseIdx position :=
    Field.othersErased once (f := { f with order := position }) inserted.there
  exact (dense.exact inPlace (inserted.others.trans (left ▸ others))).symm

theorem reorderUndone {e : Editor} (dense : Field.InPlace e.fields) (source target : Int) (m n : Mint) :
    ((e.reorder source target m).editor.reorder target source n).editor.fields = e.fields := by
  by_cases inside : (inRange source e.fields.length && inRange target e.fields.length) = true
  · simp only [Bool.and_eq_true,inRange,decide_eq_true_eq] at inside
    obtain ⟨⟨above,left⟩,beyond,entered⟩ := inside
    lift source to Nat using above
    lift target to Nat using beyond
    rw [Int.ofNat_lt] at left entered
    have moved := reorderMoved e m left entered
    have kept := moved.length
    have back := reorderMoved (e.reorder source target m).editor n (kept ▸ entered) (kept ▸ left)
    exact (dense.exact back.inPlace (moved.back back)).symm
  · have stays (m : Mint) : (e.reorder source target m).editor = e := by
      rw [reorder,if_neg inside]
      rfl
    rw [Bool.and_comm] at inside
    rw [stays,reorder,if_neg inside]
    rfl

/-- In a form whose fields stand at their orders under distinct ids, the edits are what they are on lists. A new field
comes to the position asked for, as far as there is one; a field that is deleted goes, and no other; a copy comes right
behind its source; a field that is moved comes to its target. All others stay as they are but for their orders, in the
sequence they had. Moving back, and deleting what was added or copied under an id of its own, restores the fields. -/
theorem editsAreUndone (e : Editor) (m : Mint) (dense : Field.InPlace e.fields) (distinct : e.ids.Nodup) :
    (∀ (type : FieldType) (position : Option Int), ∃ (place : Nat) (f : Field),
      (position = none → place = e.fields.length) ∧
      (∀ n, position = some n → (place : Int) = max 0 (min n e.fields.length)) ∧
      f.id = m.fieldId.1 ∧ f.type = type ∧ (e.add type position m).reply = .ok (.field f) ∧
      Field.Inserted e.fields (e.add type position m).editor.fields place f) ∧
    (∀ id, Field.Alike (e.fields.filter (fun f => f.id != id)) (e.delete id m).editor.fields ∧
      Field.InPlace (e.delete id m).editor.fields) ∧
    (∀ i f, e.fields[i]? = some f →
      (e.duplicate f.id m).reply = .ok (.field { f with id := m.fieldId.1, persistedId := none, order := i + 1 }) ∧
      Field.Inserted e.fields (e.duplicate f.id m).editor.fields (i + 1)
        { f with id := m.fieldId.1, persistedId := none }) ∧
    (∀ source target : Nat, source < e.fields.length → target < e.fields.length →
      Field.Moved e.fields (e.reorder source target m).editor.fields source target) ∧
    (∀ source target n, ((e.reorder source target m).editor.reorder target source n).editor.fields = e.fields) ∧
    (m.fieldId.1 ∉ e.ids →
      (∀ type position n, ((e.add type position m).editor.delete m.fieldId.1 n).editor.fields = e.fields) ∧
      ∀ source ∈ e.ids, ∀ n, ((e.duplicate source m).editor.delete m.fieldId.1 n).editor.fields = e.fields) := by
  have added (type : FieldType) (position : Option Int) : Field.Inserted e.fields (e.add type position m).editor.fields
      (clamp e.fields.length position) (Field.initial m.fieldId.1 type (clamp e.fields.length position)) :=
    placedInserted e _ (clampInside _ position)
  refine ⟨fun type position => ?_,fun id => deleteOthers dense distinct id m,
    fun i f there => duplicateInserted distinct m there,fun source target left entered => reorderMoved e m left entered,
    fun source target n => reorderUndone dense source target m n,fun fresh => ⟨fun type position n => ?_,?_⟩⟩
  · refine ⟨_,_,fun none => ?_,fun n some => ?_,rfl,?_,rfl,added type position⟩
    · rw [none]
      rfl
    · rw [some]
      exact clampExact _ n
    · exact Kind.typeInitial type
  · exact insertedUndone dense distinct (added type position) fresh n
  · intro source known n
    obtain ⟨f,member,rfl⟩ := List.mem_map.mp known
    obtain ⟨i,there⟩ := List.getElem?_of_mem member
    exact insertedUndone dense distinct (duplicateInserted distinct m there).2 fresh n

theorem movedThereAndBack :
    let field (id : String) (order : Nat) : Field := ⟨id,none,"Q",order,⟨true,some "?",none⟩,.text⟩
    let e : Editor := ⟨[field "a" 0,field "b" 1,field "c" 2],.str "T",.null,.default,none,false,false,false,0⟩
    let m := Mint.atSeconds 0
    Field.InPlace e.fields ∧ e.ids.Nodup ∧ m.fieldId.1 ∉ e.ids ∧
    Field.Moved e.fields (e.reorder 0 2 m).editor.fields 0 2 ∧
    ((e.reorder 0 2 m).editor.reorder 2 0 m).editor.fields = e.fields ∧
    ((e.add .rating (some (-4)) m).editor.delete m.fieldId.1 m).editor.fields = e.fields ∧
    ((e.duplicate "b" m).editor.delete m.fieldId.1 m).editor.fields = e.fields := by
  intro field e m
  have dense : Field.InPlace e.fields := Field.renumberInPlace [field "a" 0,field "b" 1,field "c" 2]
  have distinct : e.ids.Nodup := by decide
  have fresh : m.fieldId.1 ∉ e.ids := by decide +kernel
  obtain ⟨-,-,-,moves,back,undone⟩ := editsAreUndone e m dense distinct
  obtain ⟨added,copied⟩ := undone fresh
  exact ⟨dense,distinct,fresh,moves 0 2 (by decide) (by decide),back 0 2 m,added .rating (some (-4)) m,
    copied "b" (by decide) m⟩

end Editor
end FormBuilder
