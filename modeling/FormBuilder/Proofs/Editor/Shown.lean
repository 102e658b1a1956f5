import FormBuilder.Proofs.Editor.Forward
/-! What is shown while the form is edited. A field is looked up by its id and read by its key, so where fields stand
and how they are numbered does not count. A new field that no condition asks about changes nothing for the others, and
one that goes away can only bring those back into sight that asked about it. -/
namespace FormBuilder

namespace Field

def asksAbout (f : Field) (id : String) : Prop := ∃ c, f.condition = some c ∧ c.target = id

def keyOf? (fields : List Field) (id : String) : Option String := (find? fields id).map valueKey

theorem visibleAsks {f g : Field} {fields others : List Field} (condition : f.condition = g.condition)
    (keys : ∀ id, f.asksAbout id → keyOf? fields id = keyOf? others id) (answers : Object) :
    f.isVisible answers fields = g.isVisible answers others := by
  have holds (c : Condition) (fields : List Field) : c.holds answers fields =
      ((keyOf? fields c.target).map (fun key => Condition.compare c.operator (answers.value? key) c.value)).getD true := by
    unfold Condition.holds keyOf?
    cases find? fields c.target <;> rfl
  unfold isVisible
  rw [← condition]
  cases asked : f.condition with
  | none => rfl
  | some c =>
    dsimp only
    rw [holds,holds,keys c.target ⟨c,asked,rfl⟩]

theorem visibleUnlessFound {f : Field} {fields : List Field} {id : String} (asks : f.asksAbout id)
    (gone : find? fields id = none) (answers : Object) : f.isVisible answers fields = true := by
  obtain ⟨c,asked,rfl⟩ := asks
  simp only [isVisible,asked,Condition.holds,gone]

def shown (fields : List Field) (answers : Object) : List String := (visible fields answers).map (·.id)

theorem shownOwn {fields : List Field} (distinct : (fields.map (·.id)).Nodup) {f : Field} (member : f ∈ fields)
    (answers : Object) : f.id ∈ shown fields answers ↔ f.isVisible answers fields = true := by
  rw [shown,visible,List.mem_map]
  constructor
  · rintro ⟨g,among,same⟩
    obtain ⟨there,visible⟩ := List.mem_filter.mp among
    rwa [List.inj_on_of_nodup_map distinct there member same] at visible
  · exact fun visible => ⟨f,List.mem_filter.mpr ⟨member,visible⟩,rfl⟩

theorem renumberFromShown (start : Nat) (fields looked : List Field) (answers : Object) :
    ((renumberFrom start fields).filter (fun f => f.isVisible answers looked)).map (·.id) =
      (fields.filter (fun f => f.isVisible answers looked)).map (·.id) := by
  induction fields generalizing start with
  | nil => rfl
  | cons f rest ih =>
    have same : ({ f with order := start } : Field).isVisible answers looked = f.isVisible answers looked := rfl
    rw [renumberFrom,List.filter_cons,List.filter_cons,same]
    split
    · rw [List.map_cons,List.map_cons,ih]
    · exact ih (start + 1)

theorem renumberFromKeys (start : Nat) (fields : List Field) (id : String) :
    keyOf? (renumberFrom start fields) id = keyOf? fields id := by
  induction fields generalizing start with
  | nil => rfl
  | cons f rest ih =>
    unfold keyOf? find? at ih ⊢
    rw [renumberFrom,List.find?_cons,List.find?_cons]
    cases f.id == id
    · exact ih (start + 1)
    · rfl

theorem renumberShown (fields : List Field) (answers : Object) : shown (renumber fields) answers = shown fields answers := by
  have same : ∀ f ∈ fields, f.isVisible answers (renumber fields) = f.isVisible answers fields := fun f _ =>
    visibleAsks rfl (fun id _ => renumberFromKeys 0 fields id) answers
  rw [shown,visible,renumber,renumberFromShown,← renumber,List.filter_congr same]
  rfl

theorem distinctPerm {fields others : List Field} (perm : fields.Perm others) (distinct : (others.map (·.id)).Nodup) :
    (fields.map (·.id)).Nodup := (perm.map (·.id)).nodup_iff.mpr distinct

theorem findPerm {fields others : List Field} (perm : fields.Perm others) (distinct : (fields.map (·.id)).Nodup)
    (id : String) : find? fields id = find? others id := by
  cases found : find? others id with
  | none =>
    refine List.find?_eq_none.mpr fun f member => ?_
    exact List.find?_eq_none.mp found f (perm.mem_iff.mp member)
  | some f =>
    have own : f.id = id := by simpa using List.find?_some found
    rw [← own,findOwn distinct (perm.mem_iff.mpr (List.mem_of_find?_eq_some found))]

theorem shownPerm {fields others : List Field} (perm : fields.Perm others) (distinct : (fields.map (·.id)).Nodup)
    (answers : Object) : (shown fields answers).Perm (shown others answers) := by
  have same : ∀ f ∈ fields, f.isVisible answers fields = f.isVisible answers others := fun f _ =>
    visibleAsks rfl (fun id _ => congrArg (Option.map valueKey) (findPerm perm distinct id)) answers
  rw [shown,visible,List.filter_congr same]
  exact (perm.filter _).map _

theorem findAfter {f : Field} {rest : List Field} {id : String} (other : f.id ≠ id) :
    find? (f :: rest) id = find? rest id := by
  rw [find?,List.find?_cons,beq_false_of_ne other]
  rfl

theorem shownBesides {f : Field} {rest : List Field} (unasked : ∀ g ∈ f :: rest, ¬ g.asksAbout f.id) (answers : Object) :
    shown (f :: rest) answers = (if f.isVisible answers rest then [f.id] else []) ++ shown rest answers := by
  have same : ∀ g ∈ f :: rest, g.isVisible answers (f :: rest) = g.isVisible answers rest := fun g member =>
    visibleAsks rfl (fun id asks => congrArg (Option.map valueKey)
      (findAfter fun own => unasked g member (own ▸ asks))) answers
  rw [shown,visible,List.filter_congr same,List.filter_cons]
  split <;> rfl

theorem shownWithout {f : Field} {rest : List Field} (distinct : ((f :: rest).map (·.id)).Nodup) (g : Field)
    (answers : Object) : g.isVisible answers rest = true ↔ g.asksAbout f.id ∨ g.isVisible answers (f :: rest) = true := by
  by_cases asks : g.asksAbout f.id
  · have gone : find? rest f.id = none := by
      refine List.find?_eq_none.mpr fun h among same => (List.nodup_cons.mp distinct).1 ?_
      exact List.mem_map.mpr ⟨h,among,beq_iff_eq.mp same⟩
    simp [asks,visibleUnlessFound asks gone answers]
  · have same : g.isVisible answers (f :: rest) = g.isVisible answers rest :=
      visibleAsks rfl (fun id other => congrArg (Option.map valueKey) (findAfter fun own => asks (own ▸ other))) answers
    simp [asks,same]

end Field

namespace Editor

def shown (e : Editor) (answers : Object) : List String := Field.shown e.fields answers

structure Fresh (e : Editor) (m : Mint) : Prop where
  unused : m.fieldId.1 ∉ e.ids
  unasked : ∀ f ∈ e.fields, ¬ f.asksAbout m.fieldId.1

theorem placedShown {e : Editor} {m : Mint} (distinct : e.ids.Nodup) (fresh : Fresh e m) {f : Field}
    (own : f.id = m.fieldId.1) (free : ¬ f.asksAbout m.fieldId.1) {position : Nat} (inside : position ≤ e.fields.length)
    (answers : Object) : ((e.placed f position).shown answers).Perm
      ((if f.isVisible answers e.fields then [m.fieldId.1] else []) ++ e.shown answers) := by
  have perm : (e.fields.insertIdx position f).Perm (f :: e.fields) := List.perm_insertIdx f e.fields inside
  have unused : f.id ∉ e.ids := own ▸ fresh.unused
  have all := Field.distinctPerm perm (List.nodup_cons.mpr ⟨unused,distinct⟩)
  have unasked : ∀ g ∈ f :: e.fields, ¬ g.asksAbout f.id := own ▸ List.forall_mem_cons.mpr ⟨free,fresh.unasked⟩
  have fields : (e.placed f position).fields = Field.renumber (e.fields.insertIdx position f) := rfl
  rw [shown,fields,Field.renumberShown,shown,← own,← Field.shownBesides unasked]
  exact Field.shownPerm perm all answers

theorem addShown {e : Editor} {m : Mint} (distinct : e.ids.Nodup) (fresh : Fresh e m) (type : FieldType)
    (position : Option Int) (answers : Object) :
    ((e.add type position m).editor.shown answers).Perm (m.fieldId.1 :: e.shown answers) := by
  refine placedShown (f := Field.initial m.fieldId.1 type _) distinct fresh rfl ?_ (clampInside _ position) answers
  rintro ⟨c,asked,-⟩
  cases asked

theorem duplicateShown {e : Editor} {m : Mint} (distinct : e.ids.Nodup) (fresh : Fresh e m) {f : Field}
    (member : f ∈ e.fields) (answers : Object) : ((e.duplicate f.id m).editor.shown answers).Perm
      ((if f.id ∈ e.shown answers then [m.fieldId.1] else []) ++ e.shown answers) := by
  obtain ⟨i,there⟩ := List.getElem?_of_mem member
  have inside : i + 1 ≤ e.fields.length := (List.getElem?_eq_some_iff.mp there).1
  have found : e.field? f.id = some f := Field.findOwn distinct member
  have copied : (e.duplicate f.id m).editor =
      e.placed { f with id := m.fieldId.1, persistedId := none, order := i + 1 } (i + 1) := by
    simp only [duplicate,indexOwn distinct there,found]
    rfl
  have same : ({ f with id := m.fieldId.1, persistedId := none, order := i + 1 } : Field).isVisible answers e.fields =
      f.isVisible answers e.fields := rfl
  have own := Field.shownOwn distinct member answers
  have placed := placedShown (f := { f with id := m.fieldId.1, persistedId := none, order := i + 1 }) distinct fresh rfl
    (fresh.unasked f member) inside answers
  rw [copied]
  simpa only [same,own,shown] using placed

theorem movedPerm {fields : List Field} {source target : Nat} (left : source < fields.length)
    (entered : target < fields.length) : (moved fields source target).Perm fields := by
  have short := List.length_eraseIdx_add_one left
  rw [moved,List.getElem?_eq_getElem left]
  exact (List.perm_insertIdx _ _ (by omega)).trans (List.getElem_cons_eraseIdx_perm left)

theorem reorderShown {e : Editor} {m : Mint} (distinct : e.ids.Nodup) (source target : Int) (answers : Object) :
    ((e.reorder source target m).editor.shown answers).Perm (e.shown answers) := by
  unfold reorder
  split
  · rename_i inside
    simp only [Bool.and_eq_true,inRange,decide_eq_true_eq] at inside
    have perm : (moved e.fields source.toNat target.toNat).Perm e.fields := movedPerm (by omega) (by omega)
    simp only [Outcome.silent,touch,shown,Field.renumberShown]
    exact Field.shownPerm perm (Field.distinctPerm perm distinct) answers
  · exact .refl _

theorem deleteShown {e : Editor} {m : Mint} (distinct : e.ids.Nodup) {f : Field} (member : f ∈ e.fields) {gone : String}
    (other : f.id ≠ gone) (answers : Object) :
    f.id ∈ (e.delete gone m).editor.shown answers ↔ f.asksAbout gone ∨ f.id ∈ e.shown answers := by
  have own := Field.shownOwn distinct member answers
  unfold delete
  split
  · rename_i index
    have absent : Field.find? e.fields gone = none := List.find?_eq_none.mpr fun g among same => by
      simpa [same] using List.findIdx?_eq_none_iff.mp index g among
    constructor
    · exact .inr
    · rintro (asks | still)
      · exact own.mpr (Field.visibleUnlessFound asks absent answers)
      · exact still
  · rename_i i index
    obtain ⟨g,there,rfl,-⟩ := indexFound index
    obtain ⟨inside,rfl⟩ := List.getElem?_eq_some_iff.mp there
    have perm := List.getElem_cons_eraseIdx_perm inside
    have all := Field.distinctPerm perm distinct
    have among : f ∈ e.fields.eraseIdx i := by
      rcases List.mem_cons.mp (perm.mem_iff.mpr member) with rfl | left
      · exact absurd rfl other
      · exact left
    have before : f.id ∈ e.shown answers ↔ f.isVisible answers (e.fields[i] :: e.fields.eraseIdx i) = true := by
      have kept := (Field.shownPerm perm all answers).mem_iff (a := f.id)
      rw [shown,← kept,Field.shownOwn all (List.mem_cons_of_mem _ among)]
    have rest := (List.nodup_cons.mp all).2
    simp only [Outcome.silent,touch,shown,Field.renumberShown]
    rw [Field.shownOwn rest among,Field.shownWithout all,← before,shown]

/-- What is shown keeps the order of the form. As long as ids are distinct, moving a field shows and hides none. Where
nothing asks about the id that is made up next, a new field is shown and a copy is shown when its source is, and both
leave all others as they were. After a field was deleted, those are shown that asked about it, and those that were. -/
theorem editsKeepShown (e : Editor) (m : Mint) (answers : Object) :
    (Field.visible e.fields answers).Sublist e.fields ∧
    (e.ids.Nodup →
      (∀ source target, ((e.reorder source target m).editor.shown answers).Perm (e.shown answers)) ∧
      (Fresh e m → ∀ type position, let t := (e.add type position m).editor
        m.fieldId.1 ∈ t.shown answers ∧ ∀ id ∈ e.ids, id ∈ t.shown answers ↔ id ∈ e.shown answers) ∧
      (Fresh e m → ∀ source ∈ e.ids, let t := (e.duplicate source m).editor
        (m.fieldId.1 ∈ t.shown answers ↔ source ∈ e.shown answers) ∧
        ∀ id ∈ e.ids, id ∈ t.shown answers ↔ id ∈ e.shown answers) ∧
      ∀ gone, ∀ f ∈ e.fields, f.id ≠ gone →
        (f.id ∈ (e.delete gone m).editor.shown answers ↔ f.asksAbout gone ∨ f.id ∈ e.shown answers)) := by
  refine ⟨List.filter_sublist,fun distinct => ⟨fun source target => ?_,fun fresh type position => ?_,
    fun fresh source there => ?_,fun gone f member other => ?_⟩⟩
  · exact reorderShown distinct source target answers
  · have added := addShown distinct fresh type position answers
    refine ⟨added.mem_iff.mpr List.mem_cons_self,fun id known => ?_⟩
    have other : id ≠ m.fieldId.1 := fun same => fresh.unused (same ▸ known)
    simp [added.mem_iff,other]
  · obtain ⟨f,member,rfl⟩ := List.mem_map.mp there
    have copied := duplicateShown distinct fresh member answers
    have new : m.fieldId.1 ∉ e.shown answers := fun among => by
      obtain ⟨g,visible,same⟩ := List.mem_map.mp among
      exact fresh.unused (List.mem_map.mpr ⟨g,(List.mem_filter.mp visible).1,same⟩)
    refine ⟨?_,fun id known => ?_⟩
    · rw [copied.mem_iff]
      split <;> simp [*]
    · have other : id ≠ m.fieldId.1 := fun same => fresh.unused (same ▸ known)
      rw [copied.mem_iff]
      split <;> simp [other]
  · exact deleteShown distinct member other answers

theorem deletedTargetShows :
    let first : Field := ⟨"a",none,"A",0,⟨false,none,none⟩,.text⟩
    let second : Field := ⟨"b",none,"B",1,⟨false,none,some ⟨"a",.equals,.str "x"⟩⟩,.text⟩
    let e : Editor := ⟨[first,second],.str "T",.null,.default,none,false,false,false,0⟩
    let m := Mint.atSeconds 0
    let answers : Object := [("a",.str "y")]
    e.ids.Nodup ∧ Fresh e m ∧ "b" ∉ e.shown answers ∧ "b" ∉ (e.reorder 1 0 m).editor.shown answers ∧
    "b" ∉ (e.add .rating none m).editor.shown answers ∧ m.fieldId.1 ∉ (e.duplicate "b" m).editor.shown answers ∧
    "b" ∈ (e.delete "a" m).editor.shown answers := by
  intro first second e m answers
  have key : Text.valueKey "A" = "a" := (Text.valueKeyAscii (by decide)).trans (by decide)
  have distinct : e.ids.Nodup := by decide
  have other : "a" ≠ m.fieldId.1 := by decide +kernel
  have fresh : Fresh e m := by
    refine ⟨by decide +kernel,?_⟩
    simp only [e,List.forall_mem_cons,List.not_mem_nil,false_implies,implies_true,and_true]
    constructor
    · rintro ⟨c,asked,-⟩
      cases asked
    · rintro ⟨c,asked,target⟩
      cases asked
      exact other target
  have hidden : "b" ∉ e.shown answers := by
    have own := Field.shownOwn (f := second) distinct (by simp [e]) answers
    have judged : second.isVisible answers e.fields = false := by
      have found : Field.find? e.fields "a" = some first := rfl
      simp [second,Field.isVisible,Field.condition,Condition.holds,found,first,Field.valueKey,key,answers,Object.valueCons,
        Condition.compare,Answer.display,Value.display]
    exact fun among => absurd (own.mp among) (by simp [judged])
  obtain ⟨-,kept⟩ := editsKeepShown e m answers
  obtain ⟨moved,added,copied,deleted⟩ := kept distinct
  refine ⟨distinct,fresh,hidden,?_,?_,?_,?_⟩
  · exact fun among => hidden ((moved 1 0).mem_iff.mp among)
  · exact fun among => hidden (((added fresh .rating none).2 "b" (by decide)).mp among)
  · exact fun among => hidden ((copied fresh "b" (by decide)).1.mp among)
  · exact (deleted "a" second (by simp [e]) (by decide)).mpr (.inl ⟨_,rfl,rfl⟩)

end Editor
end FormBuilder
