import FormBuilder.Proofs.Editor.Guarded
import FormBuilder.Proofs.Field.Ids
import FormBuilder.Proofs.Field.Renumbered
import FormBuilder.Proofs.Text.Lower
import Mathlib.Data.List.Permutation
/-! The form being edited, under any run of operations: every field stands at its order, no two fields share
an id, and what is selected is there. -/
namespace FormBuilder

def Field.InPlace (fields : List Field) : Prop := ∀ (i : Nat) (f : Field), fields[i]? = some f → f.order = i

theorem Field.renumberInPlace (fields : List Field) : InPlace (renumber fields) := by
  intro i f there
  rw [renumber,renumberFromAt] at there
  obtain ⟨g,-,rfl⟩ := Option.map_eq_some_iff.mp there
  exact Nat.zero_add i

namespace Editor

def ids (e : Editor) : List String := e.fields.map (·.id)

inductive Operation where
  | command (c : Command)
  | replaceFields (fields : List Field)
  | markSaved
  | reset

namespace Operation

def given : Operation → List String
  | command (.setFields items) => (items.parts.toOption.getD []).filterMap Field.givenId?
  | replaceFields fields => fields.map (·.id)
  | _ => []

def SparesPlaces : Operation → Prop
  | command (.update _ (.object changes)) => Field.Spares changes "id" ∧ Field.Spares changes "order"
  | _ => True

end Operation

def operate (e : Editor) (m : Mint) : Operation → Editor × Mint
  | .command c => ((e.run m c).editor,(e.run m c).mint)
  | .replaceFields fields => (e.replaceFields fields,m)
  | .markSaved => (e.markSaved,m)
  | .reset => (e.reset,m)

inductive Shape (e : Editor) (m : Mint) (op : Operation) : Editor × Mint → Prop where
  | kept {t n} (fields : t.fields = e.fields) (selected : t.selected = e.selected ∨ t.selected = none) : Shape e m op (t,n)
  | selected {t n id} (asked : op = .command (.select id)) (fields : t.fields = e.fields) (selected : t.selected = id) :
      Shape e m op (t,n)
  | placed {t position f} (inside : position ≤ e.fields.length) (made : f.id = m.fieldId.1)
      (fields : t.fields = Field.renumber (e.fields.insertIdx position f)) (selected : t.selected = some f.id) :
      Shape e m op (t,m.fieldId.2)
  | removed {t n i f} (there : e.fields[i]? = some f) (fields : t.fields = Field.renumber (e.fields.eraseIdx i))
      (selected : t.selected = if e.selected = some f.id then none else e.selected) : Shape e m op (t,n)
  | moved {t n source target f} (there : e.fields[source]? = some f) (inside : target < e.fields.length)
      (fields : t.fields = Field.renumber ((e.fields.eraseIdx source).insertIdx target f))
      (selected : t.selected = e.selected) : Shape e m op (t,n)
  | updated {t n i f g id changes} (asked : op = .command (.update id (.object changes))) (there : e.fields[i]? = some f)
      (keeps : Field.Spares changes "id" → Field.Spares changes "order" → g.id = f.id ∧ g.order = f.order)
      (fields : t.fields = e.fields.set i g) (selected : t.selected = e.selected) : Shape e m op (t,n)
  | replaced {t n fields among} (ids : (fields.map (·.id)).Perm among) (known : among.Sublist (op.given ++ m.handedOut n))
      (arranged : t.fields = arranged fields) (selected : ∀ id, t.selected = some id → id ∈ t.ids) : Shape e m op (t,n)

theorem clampInside (size : Nat) (position : Option Int) : clamp size position ≤ size := by
  cases position with
  | none => exact Nat.le_refl size
  | some n =>
    show (if n < 0 then 0 else Nat.min n.toNat size) ≤ size
    split
    · exact Nat.zero_le size
    · exact Nat.min_le_right _ size

theorem replaceFieldsShape (e : Editor) {m n : Mint} {op : Operation} {fields : List Field} {among : List String}
    (ids : (fields.map (·.id)).Perm among) (known : among.Sublist (op.given ++ m.handedOut n)) :
    Shape e m op (e.replaceFields fields,n) := by
  refine .replaced ids known rfl fun id selected => ?_
  obtain ⟨-,there⟩ := Option.filter_eq_some_iff.mp selected
  obtain ⟨f,found⟩ := Option.isSome_iff_exists.mp there
  have same : f.id = id := by simpa using List.find?_some found
  exact List.mem_map.mpr ⟨f,List.mem_of_find?_eq_some found,same⟩

theorem addShape (e : Editor) (m : Mint) (op : Operation) (type : Value) (position : Option Int) :
    Shape e m op ((e.run m (.add type position)).editor,(e.run m (.add type position)).mint) := by
  unfold run
  dsimp only
  split
  · split
    · exact .placed (clampInside _ _) rfl rfl rfl
    · exact .kept rfl (.inl rfl)
  · exact .kept rfl (.inl rfl)

theorem updateSettingsShape (e : Editor) (m : Mint) (op : Operation) (changes : Value) :
    Shape e m op ((e.updateSettings changes m).editor,(e.updateSettings changes m).mint) := by
  unfold updateSettings
  split
  · split
    · exact .kept rfl (.inl rfl)
    · exact .kept rfl (.inl rfl)
  · exact .kept rfl (.inl rfl)

theorem updateShape (e : Editor) (m : Mint) (id : String) (changes : Value) :
    Shape e m (.command (.update id changes)) ((e.update id changes m).editor,(e.update id changes m).mint) := by
  have updated : Updated e id changes ((e.update id changes m).editor,(e.update id changes m).reply) :=
    updateUpdated e id changes m
  generalize (e.update id changes m).editor = t,(e.update id changes m).reply = reply at updated ⊢
  cases updated with
  | refused none => exact .kept rfl (.inl rfl)
  | changed asked index there placed =>
    subst asked
    refine .updated rfl there (fun id order => ?_) rfl rfl
    exact ⟨placed.same.1 (sparedSlipped id),placed.same.2.1 (sparedSlipped order)⟩

theorem deleteShape (e : Editor) (m : Mint) (op : Operation) (id : String) :
    Shape e m op ((e.delete id m).editor,(e.delete id m).mint) := by
  unfold delete
  split
  · exact .kept rfl (.inl rfl)
  · rename_i i index
    obtain ⟨f,there,rfl,-⟩ := indexFound index
    exact .removed there rfl rfl

theorem duplicateShape (e : Editor) (m : Mint) (op : Operation) (id : String) :
    Shape e m op ((e.duplicate id m).editor,(e.duplicate id m).mint) := by
  unfold duplicate
  split
  · rename_i i f index found
    obtain ⟨g,there,-⟩ := indexFound index
    have inside := (List.getElem?_eq_some_iff.mp there).1
    exact .placed inside rfl rfl rfl
  · exact .kept rfl (.inl rfl)

theorem reorderShape (e : Editor) (m : Mint) (op : Operation) (source target : Int) :
    Shape e m op ((e.reorder source target m).editor,(e.reorder source target m).mint) := by
  unfold reorder
  split
  · rename_i inside
    simp only [Bool.and_eq_true,inRange,decide_eq_true_eq] at inside
    have left : source.toNat < e.fields.length := by omega
    have entered : target.toNat < e.fields.length := by omega
    have there := List.getElem?_eq_getElem left
    exact .moved there entered (by simp only [Outcome.silent,touch,moved,there]) rfl
  · exact .kept rfl (.inl rfl)

theorem setFieldsShape (e : Editor) (m : Mint) (items : Value) :
    Shape e m (.command (.setFields items)) ((e.setFields items m).editor,(e.setFields items m).mint) := by
  unfold setFields
  split
  · exact .kept rfl (.inl rfl)
  · rename_i parts split
    split
    · exact .kept rfl (.inl rfl)
    · rename_i fields n read
      refine replaceFieldsShape e (Field.parseAllIds read).2 ?_
      simp only [Operation.given,split,Except.toOption,Option.getD_some]
      exact .refl _

theorem operateShape (e : Editor) (m : Mint) (op : Operation) : Shape e m op (e.operate m op) := by
  cases op with
  | replaceFields fields => exact replaceFieldsShape e (.refl _) (List.sublist_append_left _ _)
  | markSaved => exact .kept rfl (.inl rfl)
  | reset =>
    have empty : (([] : List Field).map (·.id)).Perm [] := .refl []
    exact .replaced empty (List.nil_sublist _) rfl nofun
  | command c =>
    cases c with
    | add type position => exact addShape e m _ type position
    | update id changes => exact updateShape e m id changes
    | delete id => exact deleteShape e m _ id
    | duplicate id => exact duplicateShape e m _ id
    | reorder source target => exact reorderShape e m _ source target
    | select id => exact .selected rfl rfl rfl
    | setFields items => exact setFieldsShape e m items
    | applyText text =>
      have drawn := (Outline.parseLinesIds 1 0 m (Text.lines text.toList)).2
      exact replaceFieldsShape e (.refl _) (drawn.trans (List.sublist_append_right _ _))
    | setTitle title => exact .kept rfl (.inl rfl)
    | setDescription description => exact .kept rfl (.inl rfl)
    | updateSettings changes => exact updateSettingsShape e m _ changes
    | togglePreview =>
      refine .kept rfl ?_
      show (if e.preview then e.selected else none) = e.selected ∨ (if e.preview then e.selected else none) = none
      split
      · exact .inl rfl
      · exact .inr rfl

theorem shapeInPlace {e : Editor} {m : Mint} {op : Operation} {out : Editor × Mint} (shape : Shape e m op out)
    (inPlace : Field.InPlace e.fields) (spares : op.SparesPlaces) : Field.InPlace out.1.fields := by
  cases shape with
  | kept fields selected => exact fields ▸ inPlace
  | selected asked fields selected => exact fields ▸ inPlace
  | placed inside made fields selected => exact fields ▸ Field.renumberInPlace _
  | removed there fields selected => exact fields ▸ Field.renumberInPlace _
  | moved there inside fields selected => exact fields ▸ Field.renumberInPlace _
  | replaced ids known arranged selected => exact arranged ▸ Field.renumberInPlace _
  | updated asked there keeps fields selected =>
    rename_i t n i f g id changes
    subst asked
    have order : g.order = f.order := (keeps spares.1 spares.2).2
    intro j h found
    rw [fields,List.getElem?_set] at found
    split at found
    · rename_i same
      split at found
      · cases found
        rw [order,← same]
        exact inPlace i f there
      · contradiction
    · exact inPlace j h found

-- Nothing is taken twice: the ids passed in are distinct, those made up are new, and only what is there is selected.
structure Careful (e : Editor) (m : Mint) (op : Operation) : Prop where
  given : op.given.Nodup
  distinct : (m.handedOut (e.operate m op).2).Nodup
  fresh : ∀ id ∈ m.handedOut (e.operate m op).2, id ∉ e.ids ∧ id ∉ op.given
  selects : ∀ id, op = .command (.select (some id)) → id ∈ e.ids

structure Sound (e : Editor) : Prop where
  distinct : e.ids.Nodup
  selected : ∀ id, e.selected = some id → id ∈ e.ids

theorem renumberIds (fields : List Field) : (Field.renumber fields).map (·.id) = fields.map (·.id) :=
  Field.renumberFromIds 0 fields

theorem arrangedIds (fields : List Field) : ((arranged fields).map (·.id)).Perm (fields.map (·.id)) :=
  (renumberIds _).symm ▸ Field.sortedIds fields

theorem permSound {e t : Editor} (sound : Sound e) (ids : t.ids.Perm e.ids) (selected : t.selected = e.selected) : Sound t :=
  ⟨ids.nodup_iff.mpr sound.distinct,fun id own => ids.mem_iff.mpr (sound.selected id (selected ▸ own))⟩

theorem removedPerm {fields : List Field} {i : Nat} {f : Field} (there : fields[i]? = some f) :
    (f.id :: (fields.eraseIdx i).map (·.id)).Perm (fields.map (·.id)) := by
  obtain ⟨inside,rfl⟩ := List.getElem?_eq_some_iff.mp there
  exact (List.getElem_cons_eraseIdx_perm inside).map (·.id)

theorem placedPerm {fields : List Field} {position : Nat} (inside : position ≤ fields.length) (f : Field) :
    ((fields.insertIdx position f).map (·.id)).Perm (f.id :: fields.map (·.id)) :=
  (List.perm_insertIdx f fields inside).map (·.id)

theorem shapeSound {e : Editor} {m : Mint} {op : Operation} (shape : Shape e m op (e.operate m op)) (sound : Sound e)
    (careful : Careful e m op) (spares : op.SparesPlaces) : Sound (e.operate m op).1 := by
  generalize out : e.operate m op = after at shape
  have distinct := careful.distinct
  have fresh := careful.fresh
  rw [out] at distinct fresh
  cases shape with
  | kept fields selected =>
    rcases selected with same | none
    · exact permSound sound (by rw [ids,fields,ids]) same
    · exact ⟨by rw [ids,fields]; exact sound.distinct,by simp [none]⟩
  | selected asked fields selected =>
    refine ⟨by rw [ids,fields]; exact sound.distinct,fun id own => ?_⟩
    rw [ids,fields]
    exact careful.selects id (by rw [asked,← selected,own])
  | placed inside made fields selected =>
    rename_i t position f
    have perm : t.ids.Perm (f.id :: e.ids) := by
      rw [ids,fields,renumberIds]
      exact placedPerm inside f
    have new : f.id ∉ e.ids := by
      rw [Mint.handedOne,← made] at fresh
      exact (fresh f.id (List.mem_singleton_self _)).1
    refine ⟨perm.nodup_iff.mpr (List.nodup_cons.mpr ⟨new,sound.distinct⟩),fun id own => ?_⟩
    rw [selected] at own
    exact perm.mem_iff.mpr (Option.some.inj own ▸ List.mem_cons_self)
  | removed there fields selected =>
    rename_i t n i f
    have own : t.ids = (e.fields.eraseIdx i).map (·.id) := by rw [ids,fields,renumberIds]
    have perm := removedPerm there
    refine ⟨own ▸ (List.nodup_cons.mp (perm.nodup_iff.mpr sound.distinct)).2,fun id still => ?_⟩
    rw [selected] at still
    split at still
    · contradiction
    · rename_i other
      have among := perm.mem_iff.mpr (sound.selected id still)
      rcases List.mem_cons.mp among with rfl | left
      · exact absurd still other
      · exact own ▸ left
  | moved there inside fields selected =>
    rename_i t n source target f
    have short := List.length_eraseIdx_add_one (List.getElem?_eq_some_iff.mp there).1
    refine permSound sound ?_ selected
    rw [ids,fields,renumberIds]
    exact (placedPerm (by omega) f).trans (removedPerm there)
  | updated asked there keeps fields selected =>
    rename_i t n i f g id changes
    subst asked
    obtain ⟨inside,rfl⟩ := List.getElem?_eq_some_iff.mp there
    have own : t.ids = e.ids := by
      rw [ids,fields,List.map_set,(keeps spares.1 spares.2).1,ids]
      exact (congrArg _ (List.getElem_map _)).symm.trans (List.set_getElem_self (by simpa using inside))
    exact permSound sound (by rw [own]) selected
  | replaced same known arranged selected =>
    rename_i t n fields among
    have all : (op.given ++ m.handedOut n).Nodup := List.nodup_append.mpr
      ⟨careful.given,distinct,fun id given other made same => (fresh other made).2 (same ▸ given)⟩
    refine ⟨?_,selected⟩
    rw [ids,arranged]
    exact ((arrangedIds fields).trans same).nodup_iff.mpr (all.sublist known)

def operateAll (e : Editor) : List (Mint × Operation) → Editor
  | [] => e
  | (m,op) :: rest => operateAll (e.operate m op).1 rest

def AllCareful (e : Editor) : List (Mint × Operation) → Prop
  | [] => True
  | (m,op) :: rest => Careful e m op ∧ AllCareful (e.operate m op).1 rest

theorem operateAllInPlace {e : Editor} (inPlace : Field.InPlace e.fields) {run : List (Mint × Operation)}
    (spares : ∀ step ∈ run, step.2.SparesPlaces) : Field.InPlace (e.operateAll run).fields := by
  induction run generalizing e with
  | nil => exact inPlace
  | cons step rest ih =>
    obtain ⟨first,others⟩ := List.forall_mem_cons.mp spares
    exact ih (shapeInPlace (operateShape e step.1 step.2) inPlace first) others

theorem operateAllSound {e : Editor} (sound : Sound e) {run : List (Mint × Operation)} (careful : e.AllCareful run)
    (spares : ∀ step ∈ run, step.2.SparesPlaces) : Sound (e.operateAll run) := by
  induction run generalizing e with
  | nil => exact sound
  | cons step rest ih =>
    obtain ⟨first,others⟩ := List.forall_mem_cons.mp spares
    exact ih (shapeSound (operateShape e step.1 step.2) sound careful.1 first) careful.2 others

/-- Whatever is done to an editor, each field stands at its order, as long as no change of a field asks for another
id or order. If nothing is taken twice, the ids stay distinct and the selection is none or a field that is there. -/
theorem runKeepsOrder (fields : List Field) (title description : Value) (settings : Settings)
    (run : List (Mint × Operation)) (spares : ∀ step ∈ run, step.2.SparesPlaces) :
    let e := ofParts fields title description settings
    Field.InPlace (e.operateAll run).fields ∧
    ((fields.map (·.id)).Nodup → e.AllCareful run → Sound (e.operateAll run)) := by
  intro e
  refine ⟨operateAllInPlace (Field.renumberInPlace _) spares,fun distinct careful => ?_⟩
  have sound : Sound e := ⟨(arrangedIds fields).nodup_iff.mpr distinct,by simp [e,ofParts]⟩
  exact operateAllSound sound careful spares

theorem updateMint (e : Editor) (id : String) (changes : Value) (m : Mint) : (e.update id changes m).mint = m := by
  unfold update
  split
  · split <;> rfl
  · rfl

theorem editedListKeepsOrder :
    let fields : List Field := [⟨"a",none,"A",7,⟨false,none,none⟩,.text⟩,⟨"b",none,"B",3,⟨false,none,none⟩,.text⟩]
    let e := ofParts fields .null .null .default
    let m := Mint.atSeconds 0
    let run : List (Mint × Operation) := [(m,.command (.add (.str "rating") (some (-4)))),
      (m,.command (.select (some "b"))),(m,.command (.reorder 0 2)),(m.fieldId.2,.command (.duplicate "a")),
      (m,.command (.delete "b")),(m,.command (.update "a" (.object [("Label",.str "Q"),("type",.str "email")])))]
    (∀ step ∈ run, step.2.SparesPlaces) ∧ (fields.map (·.id)).Nodup ∧ e.AllCareful run ∧
    Field.InPlace (e.operateAll run).fields ∧ Sound (e.operateAll run) := by
  intro fields e m run
  have label : Text.underscored "Label" = "label" := (Text.underscoredAscii (by decide)).trans (by decide)
  have type : Text.underscored "type" = "type" := (Text.underscoredAscii (by decide)).trans (by decide)
  have spares : ∀ step ∈ run, step.2.SparesPlaces := by
    simp only [run,List.forall_mem_cons,List.not_mem_nil,false_implies,implies_true,and_true,true_and,
      Operation.SparesPlaces,Field.Spares,label,type]
    decide
  have distinct : (fields.map (·.id)).Nodup := by decide
  have start : e = ⟨[⟨"b",none,"B",0,⟨false,none,none⟩,.text⟩,⟨"a",none,"A",1,⟨false,none,none⟩,.text⟩],
    .null,.null,.default,none,false,false,false,0⟩ := by
    simp only [e,fields]
    cbv
  have careful : e.AllCareful run := by
    rw [start]
    refine ⟨⟨by decide,by decide +kernel,by decide +kernel,by simp⟩,⟨by decide,by decide,by decide,?_⟩,
      ⟨by decide,by decide +kernel,by decide +kernel,by simp⟩,⟨by decide,by decide +kernel,by decide +kernel,by simp⟩,
      ⟨by decide,by decide +kernel,by decide +kernel,by simp⟩,?_,trivial⟩
    · rintro id same
      cases same
      decide +kernel
    · have unused (e : Editor) (id : String) (changes : Value) :
          m.handedOut (e.operate m (.command (.update id changes))).2 = [] := by
        rw [operate,Editor.run,updateMint,Mint.handedNone]
      exact ⟨by decide,by rw [unused]; exact List.nodup_nil,by rw [unused]; exact List.forall_mem_nil _,by simp⟩
  obtain ⟨inPlace,sound⟩ := runKeepsOrder fields .null .null .default run spares
  exact ⟨spares,distinct,careful,inPlace,sound distinct careful⟩

end Editor
end FormBuilder
