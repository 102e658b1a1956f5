import FormBuilder.Proofs.Editor.Order
import FormBuilder.Visibility
/-! Conditions that point back. When every condition asks about a field before its own, each field is shown or not by
the answers before it, so one pass over the form settles them all. -/
namespace FormBuilder

namespace Field

theorem findOwn {fields : List Field} (distinct : (fields.map (·.id)).Nodup) {f : Field} (member : f ∈ fields) :
    find? fields f.id = some f := by
  cases found : find? fields f.id with
  | none => exact absurd (beq_self_eq_true f.id) (List.find?_eq_none.mp found f member)
  | some g =>
    have same : g.id = f.id := by simpa using List.find?_some found
    rw [List.inj_on_of_nodup_map distinct (List.mem_of_find?_eq_some found) member same]

theorem findEarlier {fields : List Field} {id : String} {t : Field} (found : find? fields id = some t) {i : Nat}
    (early : t ∈ fields.take i) : find? (fields.take i) id = some t := by
  have parts : find? fields id = (find? (fields.take i) id).or (find? (fields.drop i) id) := by
    rw [find?,find?,find?,← List.find?_append,List.take_append_drop]
  cases before : find? (fields.take i) id with
  | some u => rw [← found,parts,before,Option.some_or]
  | none => exact absurd (List.find?_some found) (List.find?_eq_none.mp before t early)

theorem InPlace.earlier {fields : List Field} (inPlace : InPlace fields) {t : Field} (member : t ∈ fields) {i : Nat}
    (before : t.order < i) : t ∈ fields.take i := by
  obtain ⟨j,there⟩ := List.getElem?_of_mem member
  have order := inPlace j t there
  exact List.mem_of_getElem? ((List.getElem?_take_of_lt (by omega)).trans there)

theorem idsSet {fields : List Field} {i : Nat} {f g : Field} (there : fields[i]? = some f) (same : g.id = f.id) :
    (fields.set i g).map (·.id) = fields.map (·.id) := by
  have own : (fields.map (·.id))[i]? = some g.id := by rw [List.getElem?_map,there,Option.map_some,same]
  obtain ⟨inside,own⟩ := List.getElem?_eq_some_iff.mp own
  rw [List.map_set,← own,List.set_getElem_self]

end Field

namespace Editor

theorem pointsBack {fields : List Field} {f : Field} {id : String} :
    pointsForward fields f id = false ↔ ∃ t, Field.find? fields id = some t ∧ t.order < f.order := by
  unfold pointsForward
  cases Field.find? fields id <;> simp

theorem forwardMember {e : Editor} {f : Field} {id : String} : (f,id) ∈ e.forwardReferences ↔
    f ∈ e.fields ∧ ∃ c, f.condition = some c ∧ c.target = id ∧ pointsForward e.fields f id = true := by
  rw [forwardReferences,List.mem_filterMap]
  constructor
  · rintro ⟨g,member,listed⟩
    obtain ⟨c,asked,listed⟩ := Option.bind_eq_some_iff.mp listed
    split at listed
    · rename_i forward
      cases listed
      exact ⟨member,c,asked,rfl,forward⟩
    · contradiction
  · rintro ⟨member,c,asked,rfl,forward⟩
    exact ⟨f,member,Option.bind_eq_some_iff.mpr ⟨c,asked,if_pos forward⟩⟩

theorem targetEarlier {e : Editor} (inPlace : Field.InPlace e.fields) (none : e.forwardReferences = []) {i : Nat}
    {f : Field} (there : e.fields[i]? = some f) {c : Condition} (asked : f.condition = some c) :
    ∃ t ∈ e.fields.take i, Field.find? e.fields c.target = some t ∧ Field.find? (e.fields.take i) c.target = some t := by
  have back : pointsForward e.fields f c.target = false := by
    refine Bool.eq_false_iff.mpr fun forward => ?_
    have listed := forwardMember.mpr ⟨List.mem_of_getElem? there,c,asked,rfl,forward⟩
    rw [none] at listed
    cases listed
  obtain ⟨t,found,before⟩ := pointsBack.mp back
  rw [inPlace i f there] at before
  have early := inPlace.earlier (List.mem_of_find?_eq_some found) before
  exact ⟨t,early,found,Field.findEarlier found early⟩

theorem visibleEarlier {e : Editor} (inPlace : Field.InPlace e.fields) (none : e.forwardReferences = []) {i : Nat}
    {f : Field} (there : e.fields[i]? = some f) (a b : Object)
    (agree : ∀ g ∈ e.fields.take i, a.value? g.valueKey = b.value? g.valueKey) :
    f.isVisible a (e.fields.take i) = f.isVisible b e.fields := by
  unfold Field.isVisible
  cases asked : f.condition with
  | none => rfl
  | some c =>
    obtain ⟨t,early,found,before⟩ := targetEarlier inPlace none there asked
    simp only [Condition.holds,found,before,agree t early]

theorem candidateFound {e : Editor} (distinct : e.ids.Nodup) {f : Field} (member : f ∈ e.fields) {id : String}
    (candidate : id ∈ (e.candidates f.id).map (·.id)) : ∃ t ∈ e.fields, t.id = id ∧ t.order < f.order := by
  obtain ⟨t,among,rfl⟩ := List.mem_map.mp candidate
  have own : e.field? f.id = some f := Field.findOwn distinct member
  simp only [candidates,own,Option.map_some,Option.getD_some,List.mem_filter,Bool.and_eq_true,decide_eq_true_eq] at among
  exact ⟨t,among.1,rfl,among.2.1⟩

theorem indexOwn {e : Editor} (distinct : e.ids.Nodup) {i : Nat} {f : Field} (there : e.fields[i]? = some f) :
    e.indexOf? f.id = some i := by
  cases index : e.indexOf? f.id with
  | none =>
    have other := List.findIdx?_eq_none_iff.mp index f (List.mem_of_getElem? there)
    exact absurd other (by simp)
  | some j =>
    obtain ⟨g,found,same,-⟩ := indexFound index
    have alike : e.ids[j]? = e.ids[i]? := by
      rw [ids,List.getElem?_map,List.getElem?_map,found,there,Option.map_some,Option.map_some,same]
    have inside : j < e.ids.length := by
      rw [ids,List.length_map]
      exact (List.getElem?_eq_some_iff.mp found).1
    rw [(List.getElem?_inj inside distinct).mp alike]

theorem candidatePointsBack {e : Editor} (distinct : e.ids.Nodup) {i : Nat} {f g : Field} (there : e.fields[i]? = some f)
    (id : g.id = f.id) (order : g.order = f.order) {c : Condition} (asked : g.condition = some c)
    (candidate : c.target ∈ (e.candidates f.id).map (·.id)) :
    ∀ r ∈ ({ e with fields := e.fields.set i g }).forwardReferences, r.1.id ≠ f.id := by
  obtain ⟨t,member,target,before⟩ := candidateFound distinct (List.mem_of_getElem? there) candidate
  have distinct : ((e.fields.set i g).map (·.id)).Nodup := Field.idsSet there id ▸ distinct
  have inside := (List.getElem?_eq_some_iff.mp there).1
  have kept : t ∈ e.fields.set i g := by
    obtain ⟨j,found⟩ := List.getElem?_of_mem member
    have other : i ≠ j := by
      rintro rfl
      cases there.symm.trans found
      exact absurd before (Nat.lt_irrefl _)
    exact List.mem_of_getElem? ((List.getElem?_set_ne other).trans found)
  rintro ⟨h,asks⟩ listed same
  obtain ⟨among,d,own,rfl,forward⟩ := forwardMember.mp listed
  have set : g ∈ e.fields.set i g := List.mem_of_getElem? (List.getElem?_set_self inside)
  cases List.inj_on_of_nodup_map distinct among set (same.trans id.symm)
  cases own.symm.trans asked
  have back : pointsForward (e.fields.set i g) g c.target = false :=
    pointsBack.mpr ⟨t,target ▸ Field.findOwn distinct kept,order ▸ before⟩
  exact absurd forward (Bool.eq_false_iff.mp back)

theorem updatePointsBack {e : Editor} (distinct : e.ids.Nodup) {i : Nat} {f g : Field} (there : e.fields[i]? = some f)
    {changes : Object} (sparesId : Guarded changes "id") (sparesOrder : Guarded changes "order") (m : Mint)
    (now : (e.update f.id (.object changes) m).editor.fields[i]? = some g) {c : Condition} (asked : g.condition = some c)
    (candidate : c.target ∈ (e.candidates f.id).map (·.id)) :
    ∀ r ∈ (e.update f.id (.object changes) m).editor.forwardReferences, r.1.id ≠ f.id := by
  have updated := updateUpdated e f.id (.object changes) m
  generalize (e.update f.id (.object changes) m).editor = t,(e.update f.id (.object changes) m).reply = reply at updated now ⊢
  cases updated with
  | refused =>
    cases there.symm.trans now
    have same : e.fields.set i f = e.fields := by
      obtain ⟨inside,own⟩ := List.getElem?_eq_some_iff.mp there
      rw [← own,List.set_getElem_self]
    have back := candidatePointsBack distinct there rfl rfl asked candidate
    rwa [same] at back
  | changed same index was placed =>
    cases same
    cases index.symm.trans (indexOwn distinct there)
    cases was.symm.trans there
    have inside := (List.getElem?_eq_some_iff.mp there).1
    cases (List.getElem?_set_self inside).symm.trans now
    have ⟨id,order,_⟩ := placed.same
    exact candidatePointsBack distinct there (id (slippedSpares.mpr sparesId)) (order (slippedSpares.mpr sparesOrder))
      asked candidate

/-- Where orders are dense and no condition points forward, answers under the keys of the fields before a field decide
whether it is shown, and so do these fields alone. A condition given to a field, in its place or by an update that spares
its id and its order, never points forward when it asks about one of the candidates for the field. -/
theorem earlierAnswersDecide (e : Editor) :
    (Field.InPlace e.fields → e.forwardReferences = [] → ∀ i f, e.fields[i]? = some f →
      (∀ answers, f.isVisible answers (e.fields.take i) = f.isVisible answers e.fields) ∧
      ∀ a b : Object, (∀ g ∈ e.fields.take i, a.value? g.valueKey = b.value? g.valueKey) →
        f.isVisible a e.fields = f.isVisible b e.fields) ∧
    (e.ids.Nodup → ∀ i f, e.fields[i]? = some f →
      (∀ g c, g.id = f.id → g.order = f.order → g.condition = some c → c.target ∈ (e.candidates f.id).map (·.id) →
        ∀ r ∈ ({ e with fields := e.fields.set i g }).forwardReferences, r.1.id ≠ f.id) ∧
      ∀ changes m, let t := (e.update f.id (.object changes) m).editor
        Guarded changes "id" → Guarded changes "order" → ∀ g c, t.fields[i]? = some g → g.condition = some c →
          c.target ∈ (e.candidates f.id).map (·.id) → ∀ r ∈ t.forwardReferences, r.1.id ≠ f.id) := by
  refine ⟨fun inPlace none i f there => ⟨fun answers => ?_,fun a b agree => ?_⟩,fun distinct i f there => ⟨?_,?_⟩⟩
  · exact visibleEarlier inPlace none there answers answers fun _ _ => rfl
  · rw [← visibleEarlier inPlace none there a a fun _ _ => rfl]
    exact visibleEarlier inPlace none there a b agree
  · intro g c id order asked candidate
    exact candidatePointsBack distinct there id order asked candidate
  · intro changes m t sparesId sparesOrder g c now asked candidate
    exact updatePointsBack distinct there sparesId sparesOrder m now asked candidate

theorem chainPointsBack :
    let first : Field := ⟨"a",none,"A",0,⟨false,none,none⟩,.text⟩
    let second : Field := ⟨"b",none,"B",1,⟨false,none,some ⟨"a",.equals,.str "x"⟩⟩,.text⟩
    let third : Field := ⟨"c",none,"C",2,⟨false,none,none⟩,.text⟩
    let e : Editor := ⟨[first,second,third],.str "T",.null,.default,none,false,false,false,0⟩
    let changes : Object := [("condition",.object [("target_field_id",.str "b"),("value",.str "y")])]
    let t := (e.update "c" (.object changes) (.atSeconds 0)).editor
    second.isVisible [("a",.str "x"),("b",.str "y")] [first] = second.isVisible [("a",.str "x"),("b",.str "y")] e.fields ∧
    second.isVisible [("a",.str "x"),("b",.str "y")] e.fields = second.isVisible [("a",.str "x"),("c",.str "z")] e.fields ∧
    (∃ g, t.fields[2]? = some g ∧ g.condition.map (·.target) = some "b") ∧ ∀ r ∈ t.forwardReferences, r.1.id ≠ "c" := by
  intro first second third e changes t
  have a : Text.valueKey "A" = "a" := (Text.valueKeyAscii (by decide)).trans (by decide)
  have condition : Text.underscored "condition" = "condition" := (Text.underscoredAscii (by decide)).trans (by decide)
  have inPlace : Field.InPlace e.fields := by
    intro i f there
    match i with
    | 0 | 1 | 2 => cases there; rfl
    | n + 3 => cases there
  have none : e.forwardReferences = [] := List.isEmpty_iff.mp (by decide)
  have distinct : e.ids.Nodup := by decide
  obtain ⟨earlier,given⟩ := earlierAnswersDecide e
  obtain ⟨alone,agree⟩ := earlier inPlace none 1 second rfl
  have index : e.indexOf? "c" = some 2 := by decide
  have renamed : changes.renameKeys Text.underscored = changes := by
    simp [changes,Object.renameKeys,Object.put,condition]
  have through : Field.apply third changes =
      .ok (.ok { third with common := ⟨false,.none,some ⟨"b",.equals,.str "y"⟩⟩ }) := by
    rw [Field.apply,Field.changed,renamed]
    rfl
  have changed : t.fields[2]? = some { third with common := ⟨false,.none,some ⟨"b",.equals,.str "y"⟩⟩ } := by
    have free : permitted (.object changes) = .ok changes := rfl
    have found : e.field? "c" = some third := rfl
    simp only [t,update,index,found,free,through,Except.bind]
    rfl
  refine ⟨alone _,?_,⟨_,changed,rfl⟩,?_⟩
  · exact agree _ _ (by simp [e,first,Field.valueKey,a,Object.valueCons])
  · refine (given distinct 2 third rfl).2 changes (.atSeconds 0) ?_ ?_ _ _ changed rfl (by decide)
    · simp [Guarded,changes,condition]
    · simp [Guarded,changes,condition]

end Editor
end FormBuilder
