import FormBuilder.Editor
import FormBuilder.Proofs.Text.Keys
import Mathlib.Data.List.Induction
import Mathlib.Data.List.Nodup
/-! Keys that several fields share. The fields that hold answers are grouped by their keys: each key comes once, in the
order in which keys first come, with the ids of all its fields. Once the labels are cleaned the same fields share the
same keys exactly when the labels that are mixed up in it were clean before. -/
namespace FormBuilder

namespace Field

def having (key : Field → String) (fields : List Field) (k : String) : List String :=
  ((fields.filter (fun f => !f.isLayout)).filter (fun f => key f == k)).map (·.id)

theorem havingMember {key : Field → String} {fields : List Field} {k id : String} :
    id ∈ having key fields k ↔ ∃ f ∈ fields, f.isLayout = false ∧ key f = k ∧ f.id = id := by
  simp only [having,List.mem_map,List.mem_filter,Bool.not_eq_true',beq_iff_eq,and_assoc]

theorem havingPerm {fields others : List Field} (perm : fields.Perm others) (key : Field → String) (k : String) :
    (having key fields k).Perm (having key others k) := ((perm.filter _).filter _).map _

end Field

namespace Editor
open FormBuilder.Field (having)

theorem eraseDupsLast (keys : List String) (key : String) :
    (keys ++ [key]).eraseDups = if key ∈ keys then keys.eraseDups else keys.eraseDups ++ [key] := by
  rw [List.eraseDups_append]
  split
  · rename_i known
    simp [List.removeAll,known]
  · rename_i new
    simp [List.removeAll,new,List.eraseDups_cons]

theorem eraseDupsDistinct (keys : List String) : keys.eraseDups.Nodup := by
  induction keys using List.reverseRecOn with
  | nil => exact List.nodup_nil
  | append_singleton keys key ih =>
    rw [eraseDupsLast]
    split
    · exact ih
    · rename_i new
      refine List.nodup_append.mpr ⟨ih,List.nodup_singleton key,fun k member other among => ?_⟩
      rw [List.mem_singleton.mp among]
      rintro rfl
      exact new (List.mem_eraseDups.mp member)

theorem addToGroupKeys {keys : List String} (distinct : keys.Nodup) {ids : String → List String} {key : String}
    (nobody : key ∉ keys → ids key = []) (id : String) :
    addToGroup (keys.map (fun k => (k,ids k))) key id =
      (if key ∈ keys then keys else keys ++ [key]).map (fun k => (k,if k = key then ids k ++ [id] else ids k)) := by
  induction keys with
  | nil => simp [addToGroup,nobody]
  | cons head rest ih =>
    obtain ⟨fresh,distinct⟩ := List.nodup_cons.mp distinct
    by_cases same : head = key
    · subst same
      have others : ∀ k ∈ rest, (k,ids k) = (k,if k = head then ids k ++ [id] else ids k) := by
        intro k member
        have other : k ≠ head := fun own => fresh (own ▸ member)
        rw [if_neg other]
      simp [addToGroup,List.map_congr_left others]
    · have nobody : key ∉ rest → ids key = [] := fun absent => nobody (by simp [Ne.symm same,absent])
      rw [List.map_cons,addToGroup,if_neg same,ih distinct nobody]
      split <;> rename_i known <;> simp [known,same,Ne.symm same]

theorem groupsHaving (fields : List Field) : keyGroups fields =
    ((fields.filter (fun f => !f.isLayout)).map Field.valueKey).eraseDups.map
      (fun key => (key,having Field.valueKey fields key)) := by
  induction fields using List.reverseRecOn with
  | nil => rfl
  | append_singleton done f ih =>
    rw [keyGroups,List.foldl_concat,← keyGroups]
    split
    · rename_i layout
      simp [ih,having,layout]
    · rename_i asked
      have nobody : f.valueKey ∉ ((done.filter (fun f => !f.isLayout)).map Field.valueKey).eraseDups →
          having Field.valueKey done f.valueKey = [] := by
        intro absent
        refine List.eq_nil_iff_forall_not_mem.mpr fun id member => absent ?_
        obtain ⟨g,among,asked,same,-⟩ := Field.havingMember.mp member
        exact List.mem_eraseDups.mpr (List.mem_map.mpr ⟨g,List.mem_filter.mpr ⟨among,by simp [asked]⟩,same⟩)
      have joined (k : String) : having Field.valueKey (done ++ [f]) k =
          if k = f.valueKey then having Field.valueKey done k ++ [f.id] else having Field.valueKey done k := by
        by_cases own : k = f.valueKey
        · simp [having,asked,own]
        · simp [having,asked,own,Ne.symm own]
      rw [ih,addToGroupKeys (eraseDupsDistinct _) nobody]
      simp only [List.mem_eraseDups,joined]
      rw [List.filter_append,List.map_append,List.filter_singleton]
      simp [asked,eraseDupsLast]

theorem collisionsMember {fields : List Field} {key : String} {ids : List String} :
    (key,ids) ∈ collisions fields ↔ ids = having Field.valueKey fields key ∧ 1 < ids.length := by
  rw [collisions,groupsHaving,List.mem_filter,List.mem_map,decide_eq_true_eq]
  refine and_congr_left fun several => ?_
  constructor
  · rintro ⟨k,-,same⟩
    cases same
    rfl
  · rintro rfl
    obtain ⟨id,member⟩ := List.exists_mem_of_length_pos (Nat.lt_of_succ_lt several)
    obtain ⟨f,among,asked,same,-⟩ := Field.havingMember.mp member
    exact ⟨key,List.mem_eraseDups.mpr (List.mem_map.mpr ⟨f,List.mem_filter.mpr ⟨among,by simp [asked]⟩,same⟩),rfl⟩

end Editor

namespace Field

def Meets (key : Field → String) (fields : List Field) (k id : String) : Prop :=
  id ∈ having key fields k ∧ 1 < (having key fields k).length

def MeetAlike (key other : Field → String) (fields : List Field) : Prop :=
  ∀ f ∈ fields, ∀ g ∈ fields, f.isLayout = false → g.isLayout = false → f.id ≠ g.id →
    key f = key g ∨ other f = other g → key f = other f

theorem meetsGroup {key : Field → String} {fields : List Field} {k id : String} :
    Meets key fields k id ↔ ∃ ids, (ids = having key fields k ∧ 1 < ids.length) ∧ id ∈ ids := by
  constructor
  · rintro ⟨member,several⟩
    exact ⟨_,⟨rfl,several⟩,member⟩
  · rintro ⟨ids,⟨rfl,several⟩,member⟩
    exact ⟨member,several⟩

theorem meetsPerm {fields others : List Field} (perm : fields.Perm others) (key : Field → String) (k id : String) :
    Meets key fields k id ↔ Meets key others k id := by
  rw [Meets,Meets,(havingPerm perm key k).mem_iff,(havingPerm perm key k).length_eq]

theorem meetsOther {fields : List Field} (distinct : (fields.map (·.id)).Nodup) {key : Field → String} {k id : String}
    (meets : Meets key fields k id) : ∃ other ∈ having key fields k, other ≠ id := by
  obtain ⟨-,several⟩ := meets
  by_contra alone
  push Not at alone
  have once : (having key fields k).Nodup :=
    distinct.sublist ((List.filter_sublist.trans List.filter_sublist).map _)
  rw [List.eq_replicate_of_mem alone,List.nodup_replicate] at once
  exact absurd several (Nat.not_lt.mpr once)

theorem meetsOf {fields : List Field} {key : Field → String} {k id other : String} (own : id ∈ having key fields k)
    (member : other ∈ having key fields k) (apart : other ≠ id) : Meets key fields k id := by
  refine ⟨own,Nat.lt_of_not_le fun few => apart ?_⟩
  cases ids : having key fields k with
  | nil => simp [ids] at own
  | cons head rest =>
    rw [ids,List.length_cons] at few
    have single : rest = [] := List.length_eq_zero_iff.mp (by omega)
    subst single
    rw [ids,List.mem_singleton] at own member
    rw [own,member]

theorem havingOwn {fields : List Field} (distinct : (fields.map (·.id)).Nodup) {key : Field → String} {f : Field}
    (among : f ∈ fields) {k : String} (own : f.id ∈ having key fields k) : key f = k := by
  obtain ⟨g,there,-,same,id⟩ := havingMember.mp own
  rwa [List.inj_on_of_nodup_map distinct there among id] at same

theorem meetAlikeSymm {key other : Field → String} {fields : List Field} (alike : MeetAlike key other fields) :
    MeetAlike other key fields :=
  fun f among g there asked answers apart same => (alike f among g there asked answers apart same.symm).symm

theorem meetAlikeOwn {key other : Field → String} {fields : List Field} (distinct : (fields.map (·.id)).Nodup)
    (alike : MeetAlike key other fields) {k : String} (several : 1 < (having key fields k).length) {f : Field}
    (among : f ∈ fields) (asked : f.isLayout = false) (own : key f = k) : other f = k := by
  have member : f.id ∈ having key fields k := havingMember.mpr ⟨f,among,asked,own,rfl⟩
  obtain ⟨id,met,apart⟩ := meetsOther distinct ⟨member,several⟩
  obtain ⟨g,there,answers,same,rfl⟩ := havingMember.mp met
  rw [← alike f among g there asked answers apart.symm (.inl (own.trans same.symm)),own]

theorem meetAlikeHaving {key other : Field → String} {fields : List Field} (distinct : (fields.map (·.id)).Nodup)
    (alike : MeetAlike key other fields) {k : String} (several : 1 < (having key fields k).length) :
    having key fields k = having other fields k := by
  obtain ⟨id,met⟩ := List.exists_mem_of_length_pos (Nat.lt_of_succ_lt several)
  obtain ⟨g,there,answers,same,rfl⟩ := havingMember.mp met
  have shared : other g = k := meetAlikeOwn distinct alike several there answers same
  unfold having
  refine congrArg _ (List.filter_congr fun f member => ?_)
  obtain ⟨among,asked⟩ := List.mem_filter.mp member
  have asked : f.isLayout = false := by simpa using asked
  rw [Bool.eq_iff_iff,beq_iff_eq,beq_iff_eq]
  refine ⟨meetAlikeOwn distinct alike several among asked,fun own => ?_⟩
  by_cases one : f.id = g.id
  · rwa [List.inj_on_of_nodup_map distinct among there one]
  · rw [alike f among g there asked answers one (.inr (own.trans shared.symm)),own]

theorem meetAlikeGroup {key other : Field → String} {fields : List Field} (distinct : (fields.map (·.id)).Nodup)
    (alike : MeetAlike key other fields) (k : String) (ids : List String) :
    ids = having key fields k ∧ 1 < ids.length ↔ ids = having other fields k ∧ 1 < ids.length := by
  constructor
  · rintro ⟨rfl,several⟩
    exact ⟨meetAlikeHaving distinct alike several,several⟩
  · rintro ⟨rfl,several⟩
    exact ⟨meetAlikeHaving distinct (meetAlikeSymm alike) several,several⟩

theorem meetAlikeExact {key other : Field → String} {fields : List Field} (distinct : (fields.map (·.id)).Nodup) :
    (∀ k id, Meets key fields k id ↔ Meets other fields k id) ↔ MeetAlike key other fields := by
  constructor
  · intro same f among g there asked answers apart
    have own (give : Field → String) : f.id ∈ having give fields (give f) := havingMember.mpr ⟨f,among,asked,rfl,rfl⟩
    have met {give : Field → String} (shared : give f = give g) : Meets give fields (give f) f.id :=
      meetsOf (own give) (havingMember.mpr ⟨g,there,answers,shared.symm,rfl⟩) apart.symm
    rintro (shared | shared)
    · exact (havingOwn distinct among ((same _ _).mp (met shared)).1).symm
    · exact havingOwn distinct among ((same _ _).mpr (met shared)).1
  · intro alike k id
    simp only [meetsGroup,meetAlikeGroup distinct alike k]

def savedKey (f : Field) : String := Text.valueKey (Sanitize.clean f.label)

theorem savedKeyOwn (f : Field) : f.valueKey = f.savedKey ↔ Sanitize.clean f.label = f.label :=
  eq_comm.trans (Text.keyCleaned f.label)

def CleanTogether (fields : List Field) : Prop :=
  ∀ f ∈ fields, ∀ g ∈ fields, f.isLayout = false → g.isLayout = false → f.id ≠ g.id →
    f.valueKey = g.valueKey ∨ f.savedKey = g.savedKey → Sanitize.clean f.label = f.label

theorem cleanTogetherAlike (fields : List Field) : MeetAlike valueKey savedKey fields ↔ CleanTogether fields := by
  simp only [MeetAlike,CleanTogether,savedKeyOwn]

end Field

namespace Editor
open FormBuilder.Field (Meets CleanTogether having)

def Collides (fields : List Field) (key id : String) : Prop := ∃ ids, (key,ids) ∈ collisions fields ∧ id ∈ ids

theorem collidesMeets (fields : List Field) (key id : String) :
    Collides fields key id ↔ Meets Field.valueKey fields key id := by
  simp only [Collides,collisionsMember,Field.meetsGroup]

def Saved (fields others : List Field) : Prop :=
  List.Forall₂ (fun f g => g.id = f.id ∧ g.isLayout = f.isLayout ∧ g.valueKey = f.savedKey) fields others

theorem savedHaving {fields others : List Field} (saved : Saved fields others) (key : String) :
    having Field.valueKey others key = having Field.savedKey fields key := by
  induction saved with
  | nil => simp only [having,List.filter_nil,List.map_nil]
  | cons same rest ih =>
    obtain ⟨id,layout,own⟩ := same
    unfold having at ih ⊢
    simp only [List.filter_cons,layout]
    split
    · simp only [List.filter_cons,own]
      split
      · rw [List.map_cons,List.map_cons,ih,id]
      · exact ih
    · exact ih

theorem savedCollides {fields others : List Field} (distinct : (fields.map (·.id)).Nodup)
    (saved : Saved (Field.sorted fields) others) :
    (∀ key id, Collides fields key id ↔ Collides others key id) ↔ CleanTogether fields := by
  have after (key id : String) : Collides others key id ↔ Meets Field.savedKey fields key id := by
    rw [collidesMeets,Meets,savedHaving saved,← Meets]
    exact Field.meetsPerm (List.mergeSort_perm fields _) _ key id
  simp only [after,collidesMeets]
  rw [← Field.cleanTogetherAlike]
  exact Field.meetAlikeExact distinct

theorem savedCollisions {fields others : List Field} (distinct : (fields.map (·.id)).Nodup)
    (inOrder : Field.sorted fields = fields) (saved : Saved (Field.sorted fields) others) :
    (∀ group, group ∈ collisions fields ↔ group ∈ collisions others) ↔ CleanTogether fields := by
  constructor
  · intro same
    refine (savedCollides distinct saved).mp fun key id => exists_congr fun ids => ?_
    rw [same]
  · intro clean
    have alike := (Field.cleanTogetherAlike fields).mpr clean
    rw [inOrder] at saved
    rintro ⟨key,ids⟩
    rw [collisionsMember,collisionsMember,savedHaving saved]
    exact Field.meetAlikeGroup distinct alike key ids

end Editor
end FormBuilder
