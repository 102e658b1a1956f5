import FormBuilder.Editor
import FormBuilder.Proofs.Field.Changed
/-! What an update of a field can reach. It never reaches another field. Of the field it is about, it leaves the id,
the order and the row alone as long as these are asked for in the spellings that are guarded; names are told apart
before they are respelled, so under any other spelling they are changed like the rest. -/
namespace FormBuilder.Editor

theorem indexFound {e : Editor} {id : String} {i : Nat} (index : e.indexOf? id = some i) :
    ∃ f, e.fields[i]? = some f ∧ f.id = id ∧ e.field? id = some f := by
  obtain ⟨inside,own,before⟩ := List.findIdx?_eq_some_iff_getElem.mp index
  have found : e.field? id = some e.fields[i] :=
    List.find?_eq_some_iff_getElem.mpr ⟨own,i,inside,rfl,fun j earlier => by simpa using before j earlier⟩
  exact ⟨e.fields[i],List.getElem?_eq_getElem inside,beq_iff_eq.mp own,found⟩

def slipped (changes : Object) : Object := changes.filter (fun c => !protectedKeys.contains c.1)

theorem sparedSlipped {changes : Object} {name : String} (spares : Field.Spares changes name) :
    Field.Spares (slipped changes) name := fun c member => spares c (List.mem_filter.mp member).1

-- Whether all spellings of a name that are used are guarded.
def Guarded (changes : Object) (name : String) : Prop := ∀ c ∈ changes, Text.underscored c.1 = name → c.1 ∈ protectedKeys

theorem slippedSpares {changes : Object} {name : String} : Field.Spares (slipped changes) name ↔ Guarded changes name := by
  simp only [Field.Spares,Guarded,slipped,List.mem_filter,Bool.not_eq_true',List.contains_eq_mem,decide_eq_false_iff_not]
  constructor
  · intro spares c member same
    exact Classical.byContradiction fun free => spares c ⟨member,free⟩ same
  · rintro guarded c ⟨member,free⟩ same
    exact free (guarded c member same)

inductive Updated (e : Editor) (id : String) (changes : Value) : Editor × Except EditFault Reply → Prop where
  | refused {reply} (none : ∀ g, reply ≠ .ok (.field g)) : Updated e id changes (e,reply)
  | changed {i f g o} (asked : changes = .object o) (index : e.indexOf? id = some i) (there : e.fields[i]? = some f)
      (placed : Field.Placed (slipped o) f g) :
      Updated e id changes ({ e with fields := e.fields.set i g }.touch,.ok (.field g))

theorem updateUpdated (e : Editor) (id : String) (changes : Value) (m : Mint) :
    Updated e id changes ((e.update id changes m).editor,(e.update id changes m).reply) := by
  unfold update
  split
  · rename_i i f index found
    obtain ⟨g,there,-,same⟩ := indexFound index
    cases Option.some.inj (found.symm.trans same)
    split
    · exact .refused (by simp [Outcome.failed])
    · exact .refused (by simp)
    · rename_i updated applied
      cases changes with
      | object o => exact .changed rfl index there (Field.applyPlaced applied)
      | _ => contradiction
  · exact .refused (by simp [Outcome.silent])

/-- An update leaves every other field as it is, and each in its place. The field it is about keeps its id, its order
and its row wherever all spellings of them that are used are guarded; asked for in another spelling, each of them
becomes what was asked last. -/
theorem updateReachesOne (e : Editor) (id : String) (changes : Value) (m : Mint) :
    let t := (e.update id changes m).editor
    t.fields.length = e.fields.length ∧
    (∀ j, e.indexOf? id ≠ some j → t.fields[j]? = e.fields[j]?) ∧
    ∀ i f, e.indexOf? id = some i → e.fields[i]? = some f →
      match (e.update id changes m).reply with
      | .ok (.field g) => ∃ o, changes = .object o ∧ t.fields[i]? = some g ∧ Field.Placed (slipped o) f g ∧
          (Guarded o "id" → g.id = f.id) ∧ (Guarded o "order" → g.order = f.order) ∧
          (Guarded o "persisted_id" → g.persistedId = f.persistedId)
      | _ => t.fields[i]? = some f := by
  intro t
  have updated : Updated e id changes (t,(e.update id changes m).reply) := updateUpdated e id changes m
  generalize t = t,(e.update id changes m).reply = reply at updated ⊢
  cases updated with
  | refused none =>
    refine ⟨rfl,fun _ _ => rfl,fun i f _ there => ?_⟩
    split
    · exact absurd rfl (none _)
    · exact there
  | changed asked index there placed =>
    rename_i i f g o
    refine ⟨List.length_set,fun j other => List.getElem?_set_ne ?_,fun k h own was => ?_⟩
    · rintro rfl
      exact other index
    cases Option.some.inj (index.symm.trans own)
    cases Option.some.inj (there.symm.trans was)
    obtain ⟨ownId,ownOrder,ownRow⟩ := placed.same
    have inside := (List.getElem?_eq_some_iff.mp there).1
    exact ⟨o,asked,List.getElem?_set_self inside,placed,fun guarded => ownId (slippedSpares.mpr guarded),
      fun guarded => ownOrder (slippedSpares.mpr guarded),fun guarded => ownRow (slippedSpares.mpr guarded)⟩

theorem capitalsSlipPast :
    let a : Field := ⟨"a",none,"A",0,⟨false,none,none⟩,.text⟩
    let b : Field := ⟨"b",none,"B",1,⟨false,none,none⟩,.text⟩
    let e : Editor := ⟨[a,b],.str "T",.null,.default,none,false,false,false,0⟩
    let changes : Object := [("ID",.str "b"),("Order",.int 5),("persisted-id",.str "9")]
    let o := e.update "a" (.object changes) (.atSeconds 0)
    e.indexOf? "a" = some 0 ∧ e.fields[0]? = some a ∧ o.editor.fields[1]? = some b ∧
    ∃ g, o.editor.fields[0]? = some g ∧ Field.Placed (slipped changes) a g ∧ g.id = "b" ∧ g.order = 5 ∧
      g.persistedId = some "9" := by
  intro a b e changes o
  have id : Text.underscored "ID" = "id" := (Text.underscoredAscii (by decide)).trans (by decide)
  have order : Text.underscored "Order" = "order" := (Text.underscoredAscii (by decide)).trans (by decide)
  have row : Text.underscored "persisted-id" = "persisted_id" := (Text.underscoredAscii (by decide)).trans (by decide)
  have index : e.indexOf? "a" = some 0 := by decide
  have renamed : changes.renameKeys Text.underscored = [("id",.str "b"),("order",.int 5),("persisted_id",.str "9")] := by
    simp [changes,Object.renameKeys,Object.put,id,order,row]
  have through : Field.apply a changes = .ok (.ok ⟨"b",some "9","A",5,⟨false,none,none⟩,.text⟩) := by
    rw [Field.apply,Field.changed,renamed]
    rfl
  have reply : o.reply = .ok (.field ⟨"b",some "9","A",5,⟨false,none,none⟩,.text⟩) := by
    have free : permitted (.object changes) = .ok changes := rfl
    have found : e.field? "a" = some a := rfl
    simp only [o,update,index,found,free,through,Except.bind]
    rfl
  obtain ⟨-,others,own⟩ := updateReachesOne e "a" (.object changes) (.atSeconds 0)
  have own := own 0 a index rfl
  rw [show (e.update "a" (.object changes) (.atSeconds 0)).reply = _ from reply] at own
  obtain ⟨_,same,there,placed,-⟩ := own
  cases same
  exact ⟨index,rfl,others 1 (by simp [index]),_,there,placed,rfl,rfl,rfl⟩

end FormBuilder.Editor
