import FormBuilder.Proofs.Editor.Collisions
import FormBuilder.Proofs.Schema.Slots
import FormBuilder.Store.Basic
/-! Three looks at keys that fields share. The editor groups the fields by their keys, the schema only writes the keys
down one after the other, and the store tells of each field that takes over a key, naming the one that had it last. All
three come to the same: a key is shared if it is written down more than once, and who takes it over from whom are the
neighbours in its group. -/
namespace FormBuilder

namespace Field

theorem renumberFromHaving (key : String) (start : Nat) (fields : List Field) :
    having valueKey (renumberFrom start fields) key = having valueKey fields key := by
  induction fields generalizing start with
  | nil => rfl
  | cons f rest ih =>
    have layout : ({ f with order := start } : Field).isLayout = f.isLayout := rfl
    have own : ({ f with order := start } : Field).valueKey = f.valueKey := rfl
    unfold having at ih ⊢
    rw [renumberFrom,List.filter_cons,List.filter_cons,layout]
    split
    · rw [List.filter_cons,List.filter_cons,own]
      split
      · rw [List.map_cons,List.map_cons,ih]
      · exact ih (start + 1)
    · exact ih (start + 1)

end Field

namespace Schema

theorem keysAsked (fields : List Field) :
    (compile fields).keys = (fields.filter (fun f => !f.isLayout)).map Field.valueKey := by
  have asked := congrArg (List.map Prod.fst) (slotsAsked 0 fields)
  simpa [Function.comp_def,keys,compile] using asked

theorem keysCount (fields : List Field) (key : String) :
    (compile fields).keys.count key = (Field.having Field.valueKey fields key).length := by
  rw [keysAsked,Field.having,List.length_map,← List.countP_eq_length_filter,List.count,List.countP_map]
  rfl

end Schema

namespace Editor
open FormBuilder.Field (having)

theorem collisionKeysDistinct (fields : List Field) : ((collisions fields).map Prod.fst).Nodup := by
  have known : ((keyGroups fields).map Prod.fst).Nodup := by
    rw [groupsHaving,List.map_map,Function.comp_def,List.map_id']
    exact eraseDupsDistinct _
  exact known.sublist (List.filter_sublist.map _)

theorem collisionKeys {fields : List Field} {key : String} :
    key ∈ (collisions fields).map Prod.fst ↔ 1 < (having Field.valueKey fields key).length := by
  constructor
  · intro member
    obtain ⟨⟨_,ids⟩,among,rfl⟩ := List.mem_map.mp member
    obtain ⟨rfl,several⟩ := collisionsMember.mp among
    exact several
  · intro several
    exact List.mem_map.mpr ⟨(key,_),collisionsMember.mpr ⟨rfl,several⟩,rfl⟩

theorem arrangedHaving (fields : List Field) (key : String) :
    (having Field.valueKey (arranged fields) key).length = (having Field.valueKey fields key).length := by
  rw [arranged,Field.renumber,Field.renumberFromHaving]
  exact (Field.havingPerm (List.mergeSort_perm fields _) _ key).length_eq

end Editor

namespace Store
open FormBuilder.Field (having)

def neighbours (ids : List String) : List (String × String) := ids.zip ids.tail

theorem neighboursLength (ids : List String) : (neighbours ids).length = ids.length - 1 := by
  rw [neighbours,List.length_zip,List.length_tail,Nat.min_eq_right (Nat.sub_le _ _)]

structure Takeover where
  key : String
  earlier : String
  later : String

def Takeover.notice (form : Int) (t : Takeover) : Notice := collisionNotice form t.earlier t.later t.key

def takeovers (holders : List (String × String)) : List Field → List Takeover
  | [] => []
  | f :: rest =>
    if f.isLayout then takeovers holders rest
    else
      let later := takeovers ((f.valueKey,f.id) :: holders) rest
      match holders.find? (fun h => h.1 == f.valueKey) with
      | none => later
      | some h => ⟨f.valueKey,h.2,f.id⟩ :: later

theorem noticesTakeovers (form : Int) (holders : List (String × String)) (fields : List Field) :
    collisionNotices form holders fields = (takeovers holders fields).map (Takeover.notice form) := by
  induction fields generalizing holders with
  | nil => rfl
  | cons f rest ih =>
    unfold collisionNotices takeovers
    split
    · exact ih holders
    · dsimp only
      cases holders.find? (fun h => h.1 == f.valueKey) with
      | none => exact ih _
      | some h => exact congrArg _ (ih _)

def holder (holders : List (String × String)) (key : String) : List String :=
  ((holders.find? (fun h => h.1 == key)).map Prod.snd).toList

theorem takeoversUnder (key : String) (holders : List (String × String)) (fields : List Field) :
    (takeovers holders fields).filter (fun t => t.key == key) =
      (neighbours (holder holders key ++ having Field.valueKey fields key)).map (fun p => ⟨key,p.1,p.2⟩) := by
  induction fields generalizing holders with
  | nil =>
    rw [holder]
    cases holders.find? (fun h => h.1 == key) <;> rfl
  | cons f rest ih =>
    unfold takeovers
    split
    · rename_i layout
      rw [ih]
      simp [having,layout]
    · rename_i asked
      have later := ih ((f.valueKey,f.id) :: holders)
      by_cases own : f.valueKey = key
      · subst own
        have joins : having Field.valueKey (f :: rest) f.valueKey = f.id :: having Field.valueKey rest f.valueKey := by
          simp [having,asked]
        have last : holder ((f.valueKey,f.id) :: holders) f.valueKey = [f.id] := by simp [holder]
        rw [last] at later
        dsimp only
        split
        · rename_i nobody
          rw [later,joins,holder,nobody]
          rfl
        · rename_i h found
          rw [List.filter_cons_of_pos (by simp),later,joins,holder,found]
          rfl
      · have passes : having Field.valueKey (f :: rest) key = having Field.valueKey rest key := by
          simp [having,asked,own]
        have last : holder ((f.valueKey,f.id) :: holders) key = holder holders key := by simp [holder,own]
        rw [last] at later
        rw [passes,← later]
        dsimp only
        split
        · rfl
        · rw [List.filter_cons_of_neg (by simpa using own)]

theorem groupedPerm {keys : List String} (distinct : keys.Nodup) {l : List Takeover} (known : ∀ t ∈ l, t.key ∈ keys) :
    l.Perm (keys.flatMap (fun key => l.filter (fun t => t.key == key))) := by
  induction keys generalizing l with
  | nil =>
    have empty : l = [] := List.eq_nil_iff_forall_not_mem.mpr fun t member => List.not_mem_nil (known t member)
    rw [empty]
    exact .refl []
  | cons key rest ih =>
    obtain ⟨fresh,distinct⟩ := List.nodup_cons.mp distinct
    have others : ∀ t ∈ l.filter (fun t => !(t.key == key)), t.key ∈ rest := by
      intro t member
      obtain ⟨among,other⟩ := List.mem_filter.mp member
      exact (List.mem_cons.mp (known t among)).resolve_left (by simpa using other)
    have same : ∀ k ∈ rest, (l.filter (fun t => !(t.key == key))).filter (fun t => t.key == k) =
        l.filter (fun t => t.key == k) := by
      intro k member
      rw [List.filter_filter]
      refine List.filter_congr fun t _ => ?_
      by_cases own : t.key = k
      · have apart : k ≠ key := fun one => fresh (one ▸ member)
        simp [own,apart]
      · simp [own]
    rw [List.flatMap_cons]
    have grouped := ih distinct others
    rw [List.flatMap_congr same] at grouped
    exact (List.filter_append_perm (fun t => t.key == key) l).symm.trans (grouped.append_left _)

theorem noticesGrouped (form : Int) (fields : List Field) :
    (collisionNotices form [] fields).Perm ((Editor.collisions fields).flatMap (fun g =>
      (neighbours g.2).map (fun p => collisionNotice form p.1 p.2 g.1))) := by
  have under (key : String) := takeoversUnder key [] fields
  have known : ∀ t ∈ takeovers [] fields, t.key ∈ (Editor.collisions fields).map Prod.fst := by
    intro t member
    have own : t ∈ (takeovers [] fields).filter (fun u => u.key == t.key) := List.mem_filter.mpr ⟨member,by simp⟩
    rw [under] at own
    have some := List.length_pos_of_mem own
    rw [List.length_map,neighboursLength] at some
    exact Editor.collisionKeys.mpr (Nat.lt_of_sub_pos some)
  have grouped := (groupedPerm (Editor.collisionKeysDistinct fields) known).map (Takeover.notice form)
  rw [noticesTakeovers]
  refine grouped.trans (.of_eq ?_)
  rw [List.map_flatMap,List.flatMap_map]
  refine List.flatMap_congr fun g member => ?_
  obtain ⟨ids,-⟩ := Editor.collisionsMember.mp member
  rw [under,List.map_map,ids]
  rfl

theorem renumberFromNotices (form : Int) (holders : List (String × String)) (start : Nat) (fields : List Field) :
    collisionNotices form holders (Field.renumberFrom start fields) = collisionNotices form holders fields := by
  induction fields generalizing holders start with
  | nil => rfl
  | cons f rest ih =>
    have layout : ({ f with order := start } : Field).isLayout = f.isLayout := rfl
    have own : ({ f with order := start } : Field).valueKey = f.valueKey := rfl
    unfold Field.renumberFrom collisionNotices
    dsimp only
    rw [layout,own,ih,ih]

theorem groupedLength (form : Int) (groups : List (String × List String)) :
    (groups.flatMap (fun g => (neighbours g.2).map (fun p => collisionNotice form p.1 p.2 g.1))).length =
      (groups.map (fun g => g.2.length - 1)).sum := by
  simp only [List.length_flatMap,List.length_map,neighboursLength]

theorem replaceFieldsNotices (s : Store) (now form : Int) (fields : List Field) :
    (s.replaceFields now form fields).2.2 = collisionNotices form [] (Field.sorted fields) := by
  unfold replaceFields
  dsimp only
  split <;> rfl

/-- The keys that the editor shows as shared are those that the schema has more than once, each with all the fields of
that key in their order. Whatever becomes of the fields in the store, it gives one notice for each two neighbours under a
shared key, and so none exactly if all keys of the schema are distinct. -/
theorem collisionChecksAgree (fields : List Field) (title description : Value) (settings : Settings) (s : Store)
    (now form : Int) :
    let e := Editor.ofParts fields title description settings
    let keys := (Schema.compile fields).keys
    let notices := (s.replaceFields now form fields).2.2
    (e.keyCollisions.map Prod.fst).Nodup ∧
    (∀ key, key ∈ e.keyCollisions.map Prod.fst ↔ 1 < keys.count key) ∧
    (∀ key ids, (key,ids) ∈ e.keyCollisions ↔ ids = having Field.valueKey e.fields key ∧ 1 < ids.length) ∧
    notices.Perm (e.keyCollisions.flatMap (fun g =>
      (neighbours g.2).map (fun p => collisionNotice form p.1 p.2 g.1))) ∧
    notices.length = (e.keyCollisions.map (fun g => g.2.length - 1)).sum ∧
    (notices = [] ↔ keys.Nodup) := by
  intro e keys notices
  have told : notices.Perm (e.keyCollisions.flatMap (fun g =>
      (neighbours g.2).map (fun p => collisionNotice form p.1 p.2 g.1))) := by
    have grouped := noticesGrouped form e.fields
    rwa [show e.fields = Field.renumberFrom 0 (Field.sorted fields) from rfl,renumberFromNotices,
      ← replaceFieldsNotices s now] at grouped
  have count : notices.length = (e.keyCollisions.map (fun g => g.2.length - 1)).sum :=
    told.length_eq.trans (groupedLength form e.keyCollisions)
  have shared (key : String) : key ∈ e.keyCollisions.map Prod.fst ↔ 1 < keys.count key := by
    rw [Schema.keysCount,← Editor.arrangedHaving fields key]
    exact Editor.collisionKeys
  have unshared : e.keyCollisions = [] ↔ keys.Nodup := by
    rw [List.nodup_iff_count_le_one,← List.map_eq_nil_iff (f := Prod.fst),List.eq_nil_iff_forall_not_mem]
    exact forall_congr' fun key => (not_congr (shared key)).trans Nat.not_lt
  refine ⟨Editor.collisionKeysDistinct e.fields,shared,fun key ids => Editor.collisionsMember,told,count,?_⟩
  rw [← unshared]
  constructor
  · intro quiet
    refine List.eq_nil_iff_forall_not_mem.mpr fun g member => ?_
    have several := (Editor.collisionsMember.mp member).2
    rw [quiet] at told
    have alone := List.map_eq_nil_iff.mp (List.flatMap_eq_nil_iff.mp told.symm.eq_nil g member)
    rw [← List.length_eq_zero_iff,neighboursLength] at alone
    omega
  · intro none
    rwa [none,List.flatMap_nil,List.perm_nil] at told

end Store
end FormBuilder
