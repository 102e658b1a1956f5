import FormBuilder.Condition
import FormBuilder.Proofs.Checked
/-! What an object holds after its keys were set, dropped, laid over or renamed, and what reading one
attribute of it comes to. -/
namespace FormBuilder
namespace Object

@[simp]
theorem valueNil (name : String) : value? [] name = none := rfl

theorem valueCons (k : String) (v : Value) (rest : Object) (name : String) :
    value? ((k,v) :: rest) name = if k = name then some v else value? rest name := rfl

theorem valuePut (o : Object) (key : String) (v : Value) (name : String) :
    (o.put key v).value? name = if key = name then some v else o.value? name := by
  induction o with
  | nil => rfl
  | cons e rest ih =>
    obtain ⟨k,w⟩ := e
    unfold put
    split
    · rename_i same
      subst same
      simp only [valueCons]
      split <;> rfl
    · rename_i other
      simp only [valueCons,ih]
      split
      · rename_i found
        subst found
        exact (if_neg (Ne.symm other)).symm
      · rfl

theorem valueMap (o : Object) (f : Value → Value) (name : String) :
    value? (o.map (fun e => (e.1,f e.2))) name = (o.value? name).map f := by
  induction o with
  | nil => rfl
  | cons e rest ih =>
    obtain ⟨k,v⟩ := e
    rw [List.map_cons,valueCons,valueCons,ih]
    split <;> rfl

theorem valueKept (o : Object) (keep : String → Bool) (name : String) :
    value? (o.filter (fun e => keep e.1)) name = if keep name then o.value? name else none := by
  induction o with
  | nil => simp
  | cons e rest ih =>
    obtain ⟨k,v⟩ := e
    by_cases same : k = name
    · subst same
      cases kept : keep k <;> simp_all [valueCons]
    · cases kept : keep k <;> simp_all [valueCons]

theorem valueWithout (o : Object) (key name : String) :
    (o.without key).value? name = if name = key then none else o.value? name := by
  have kept := valueKept o (fun k => decide (k ≠ key)) name
  by_cases same : name = key
  · simpa [without,same] using kept
  · simpa [without,same] using kept

theorem valueAppend (o later : Object) (name : String) :
    value? (o ++ later) name = (o.value? name).or (later.value? name) := by
  induction o with
  | nil => simp
  | cons e rest ih =>
    obtain ⟨k,v⟩ := e
    rw [List.cons_append,valueCons,valueCons,ih]
    split <;> rfl

theorem valueOverlay (o later : Object) (name : String) :
    (o.overlay later).value? name = (value? later.reverse name).or (o.value? name) := by
  induction later generalizing o with
  | nil => simp [overlay]
  | cons e rest ih =>
    obtain ⟨k,v⟩ := e
    have step := ih (o.put k v)
    rw [valuePut] at step
    rw [List.reverse_cons,valueAppend,valueCons,valueNil]
    refine step.trans ?_
    cases value? rest.reverse name with
    | some v => simp
    | none => split <;> simp

theorem valueNone (o : Object) (name : String) : o.value? name = none ↔ ∀ e ∈ o, e.1 ≠ name := by
  induction o with
  | nil => simp
  | cons e rest ih =>
    obtain ⟨k,v⟩ := e
    rw [valueCons,List.forall_mem_cons,← ih]
    split
    · rename_i same
      simp [same]
    · rename_i other
      simp [other]

theorem valueFind (o : Object) (name : String) : o.value? name = (o.find? (fun e => e.1 == name)).map (·.2) := by
  induction o with
  | nil => rfl
  | cons e rest ih =>
    obtain ⟨k,v⟩ := e
    by_cases same : k = name
    · simp [valueCons,same]
    · simp [valueCons,same,beq_false_of_ne same,ih]

theorem valueOverlayAbsent (o : Object) {later : Object} {name : String} (absent : later.value? name = none) :
    (o.overlay later).value? name = o.value? name := by
  have missing : value? later.reverse name = none := by
    rw [valueNone] at absent ⊢
    intro e member
    exact absent e (List.mem_reverse.mp member)
  rw [valueOverlay,missing,Option.none_or]

theorem putKeys (o : Object) (key : String) (v : Value) :
    (o.put key v).map (·.1) = if key ∈ o.map (·.1) then o.map (·.1) else o.map (·.1) ++ [key] := by
  induction o with
  | nil => rfl
  | cons e rest ih =>
    obtain ⟨k,w⟩ := e
    unfold put
    by_cases same : k = key
    · simp [same]
    · simp only [if_neg same,List.map_cons,ih,List.mem_cons,Ne.symm same,false_or]
      split <;> rfl

theorem putDistinct {o : Object} (distinct : (o.map (·.1)).Nodup) (key : String) (v : Value) :
    ((o.put key v).map (·.1)).Nodup := by
  rw [putKeys]
  split
  · exact distinct
  · rename_i fresh
    refine List.nodup_append.mpr ⟨distinct,by simp,?_⟩
    rintro k member _ last rfl
    exact fresh (List.mem_singleton.mp last ▸ member)

theorem overlayDistinct {o : Object} (distinct : (o.map (·.1)).Nodup) (later : Object) :
    ((o.overlay later).map (·.1)).Nodup := by
  induction later generalizing o with
  | nil => exact distinct
  | cons e rest ih => exact ih (putDistinct distinct e.1 e.2)

theorem valueReverse {o : Object} (distinct : (o.map (·.1)).Nodup) (name : String) :
    value? o.reverse name = o.value? name := by
  induction o with
  | nil => rfl
  | cons e rest ih =>
    obtain ⟨k,v⟩ := e
    obtain ⟨fresh,distinct⟩ := List.nodup_cons.mp distinct
    rw [List.reverse_cons,valueAppend,ih distinct,valueCons,valueCons,valueNil]
    by_cases same : k = name
    · have absent : value? rest name = none := (valueNone rest name).mpr fun e member other =>
        fresh (List.mem_map.mpr ⟨e,member,other.trans same.symm⟩)
      simp [absent]
    · simp [same]

theorem valueMember {o : Object} (distinct : (o.map (·.1)).Nodup) {key : String} {v : Value}
    (member : (key,v) ∈ o) : o.value? key = some v := by
  induction o with
  | nil => cases member
  | cons e rest ih =>
    obtain ⟨fresh,distinct⟩ := List.nodup_cons.mp distinct
    rcases List.mem_cons.mp member with rfl | later
    · exact if_pos rfl
    · have other : e.1 ≠ key := fun same => fresh (List.mem_map.mpr ⟨_,later,same.symm⟩)
      exact (if_neg other).trans (ih distinct later)

theorem valueFound {o : Object} {name : String} {v : Value} (found : o.value? name = some v) : (name,v) ∈ o := by
  rw [valueFind,Option.map_eq_some_iff] at found
  obtain ⟨e,found,rfl⟩ := found
  have same : e.1 = name := by simpa using List.find?_some found
  exact same ▸ List.mem_of_find?_eq_some found

theorem putNames {p : String → Prop} {o : Object} (own : ∀ e ∈ o, p e.1) {key : String} (also : p key) (v : Value) :
    ∀ e ∈ o.put key v, p e.1 := by
  have names : ∀ name ∈ (o.put key v).map (·.1), p name := by
    rw [putKeys]
    have before : ∀ name ∈ o.map (·.1), p name := List.forall_mem_map.mpr own
    split
    · exact before
    · exact List.forall_mem_append.mpr ⟨before,List.forall_mem_singleton.mpr also⟩
  exact List.forall_mem_map.mp names

theorem overlayNames {p : String → Prop} {o later : Object} (own : ∀ e ∈ o, p e.1) (others : ∀ e ∈ later, p e.1) :
    ∀ e ∈ o.overlay later, p e.1 := by
  induction later generalizing o with
  | nil => exact own
  | cons e rest ih =>
    obtain ⟨first,others⟩ := List.forall_mem_cons.mp others
    exact ih (putNames own first e.2) others

theorem putValues {p : Value → Prop} {o : Object} (own : ∀ e ∈ o, p e.2) (key : String) {v : Value} (also : p v) :
    ∀ e ∈ o.put key v, p e.2 := by
  induction o with
  | nil => exact List.forall_mem_singleton.mpr also
  | cons e rest ih =>
    obtain ⟨first,others⟩ := List.forall_mem_cons.mp own
    unfold put
    split
    · exact List.forall_mem_cons.mpr ⟨also,others⟩
    · exact List.forall_mem_cons.mpr ⟨first,ih others⟩

theorem overlayValues {p : Value → Prop} {o later : Object} (own : ∀ e ∈ o, p e.2) (others : ∀ e ∈ later, p e.2) :
    ∀ e ∈ o.overlay later, p e.2 := by
  induction later generalizing o with
  | nil => exact own
  | cons e rest ih =>
    obtain ⟨first,others⟩ := List.forall_mem_cons.mp others
    exact ih (putValues own e.1 first) others

theorem valueOverlayDistinct (o : Object) {later : Object} (distinct : (later.map (·.1)).Nodup) (name : String) :
    (o.overlay later).value? name = (later.value? name).or (o.value? name) := by
  rw [valueOverlay,valueReverse distinct]

theorem putFresh {o : Object} {key : String} (absent : o.value? key = none) (v : Value) : o.put key v = o ++ [(key,v)] := by
  induction o with
  | nil => rfl
  | cons e rest ih =>
    obtain ⟨k,w⟩ := e
    rw [valueCons] at absent
    split at absent
    · contradiction
    · rename_i other
      rw [put,if_neg other,ih absent]
      rfl

theorem overlayFresh {o later : Object} (distinct : (later.map (·.1)).Nodup)
    (fresh : ∀ e ∈ later, o.value? e.1 = none) : o.overlay later = o ++ later := by
  induction later generalizing o with
  | nil => simp [overlay]
  | cons e rest ih =>
    obtain ⟨k,v⟩ := e
    obtain ⟨once,distinct⟩ := List.nodup_cons.mp distinct
    show overlay (o.put k v) rest = _
    rw [putFresh (fresh _ List.mem_cons_self),ih distinct]
    · simp
    · intro e member
      have other : k ≠ e.1 := fun same => once (List.mem_map.mpr ⟨e,member,same.symm⟩)
      rw [valueAppend,fresh e (List.mem_cons_of_mem _ member),valueCons,if_neg other]
      rfl

theorem renamedOverlay (f : String → String) (o : Object) :
    o.renameKeys f = overlay [] (o.map (fun e => (f e.1,e.2))) := by
  rw [renameKeys,overlay,List.foldl_map]

theorem renamedNames (f : String → String) (o : Object) : ∀ e ∈ o.renameKeys f, ∃ d ∈ o, e.1 = f d.1 := by
  rw [renamedOverlay]
  refine overlayNames (p := fun key => ∃ d ∈ o, key = f d.1) (List.forall_mem_nil _) ?_
  exact List.forall_mem_map.mpr fun d member => ⟨d,member,rfl⟩

theorem valueRenamed (f : String → String) {o : Object} {name : String} (avoided : ∀ e ∈ o, f e.1 ≠ name) :
    (o.renameKeys f).value? name = none := by
  refine (valueNone _ name).mpr fun e member same => ?_
  obtain ⟨d,among,own⟩ := renamedNames f o e member
  exact avoided d among (own.symm.trans same)

theorem renamedDistinct (f : String → String) (o : Object) : ((o.renameKeys f).map (·.1)).Nodup := by
  rw [renamedOverlay]
  exact overlayDistinct (o := []) List.nodup_nil _

theorem valueRenamedAppend (f : String → String) (o later : Object) (name : String) :
    (renameKeys f (o ++ later)).value? name = ((later.renameKeys f).value? name).or ((o.renameKeys f).value? name) := by
  simp only [renamedOverlay,valueOverlay,valueNil,Option.or_none,List.map_append,List.reverse_append,valueAppend]

theorem valueRenamedSame {f : String → String} {o : Object} (distinct : (o.map (·.1)).Nodup)
    (same : ∀ e ∈ o, f e.1 = e.1) (name : String) : (o.renameKeys f).value? name = o.value? name := by
  have own : o.map (fun e => (f e.1,e.2)) = o := by
    refine (List.map_congr_left fun e member => ?_).trans (List.map_id o)
    rw [same e member]
    rfl
  rw [renamedOverlay,own,valueOverlay,valueReverse distinct,valueNil,Option.or_none]

theorem givenTwo (o : Object) (first second : String) :
    o.given? [first,second] =
      ((o.value? first).map (fun v => (first,v))).or ((o.value? second).map (fun v => (second,v))) := by
  simp only [given?,List.findSome?_cons,List.findSome?_nil]
  cases o.value? first <;> cases o.value? second <;> rfl

theorem givenNone {o : Object} {k : Key} (camel : o.value? k.camel = none) (snake : o.value? k.snake = none) :
    o.given? k.names = none := by
  simp [Key.names,givenTwo,camel,snake]

theorem givenCamel {o : Object} {k : Key} {v : Value} (camel : o.value? k.camel = some v) :
    o.given? k.names = some (k.camel,v) := by
  simp [Key.names,givenTwo,camel]

theorem givenSnake {o : Object} {k : Key} {v : Value} (camel : o.value? k.camel = none)
    (snake : o.value? k.snake = some v) : o.given? k.names = some (k.snake,v) := by
  simp [Key.names,givenTwo,camel,snake]

theorem givenPlain {o : Object} {k : Key} {v : Value} (camel : k.camel ≠ k.snake → o.value? k.camel = none)
    (snake : o.value? k.snake = some v) : o.given? k.names = some (k.snake,v) := by
  by_cases same : k.camel = k.snake
  · rw [← same] at snake ⊢
    exact givenCamel snake
  · exact givenSnake (camel same) snake

theorem readAtNone {o : Object} {names : List String} (absent : o.given? names = none) (default : α) (read) :
    o.readAt names default read = .ok default := by
  simp [readAt,absent]

theorem readAtGiven {o : Object} {names : List String} {used v} (given : o.given? names = some (used,v))
    {read : Value → Checked α} {a : α} (ok : read v = .ok a) (default : α) :
    o.readAt names default read = .ok a := by
  simp [readAt,given,ok,Checked.under]

theorem readAtCamel {o : Object} {k : Key} {v : Value} (camel : o.value? k.camel = some v) (default : α)
    (read : Value → Checked α) : o.readAt k.names default read = Checked.under (.name k.camel) (read v) := by
  simp only [readAt,givenCamel camel]

theorem readAtSame {o part : Object} {names : List String}
    (same : (part.given? names).map Prod.snd = (o.given? names).map Prod.snd) {default : α} {read : Value → Checked α}
    {a : α} (ok : o.readAt names default read = .ok a) : part.readAt names default read = .ok a := by
  unfold readAt at ok ⊢
  cases given : o.given? names with
  | none =>
    rw [given,Option.map_none,Option.map_eq_none_iff] at same
    rw [given] at ok
    rw [same]
    exact ok
  | some entry =>
    rw [given,Option.map_some,Option.map_eq_some_iff] at same
    obtain ⟨⟨used,v⟩,found,rfl⟩ := same
    rw [given] at ok
    rw [found]
    exact Checked.underOk.mpr (Checked.underOk.mp ok)

theorem readAtOk {o : Object} {names : List String} {default : α} {read : Value → Checked α} {a : α}
    (ok : o.readAt names default read = .ok a) : a = default ∨ ∃ v, read v = .ok a := by
  unfold readAt at ok
  split at ok
  · exact .inl (Except.ok.inj ok).symm
  · exact .inr ⟨_,Checked.underOk.mp ok⟩

end Object

def Value.present : Value → Option Value
  | .null => none
  | v => some v

theorem presentCases (v : Value) : v.present = none ∧ v = .null ∨ v.present = some v := by
  cases v <;> simp [Value.present]

theorem Object.valuePresent {o : Object} (distinct : (o.map (·.1)).Nodup) (name : String) :
    Object.value? (o.filter (fun e => e.2.present.isSome)) name = (o.value? name).bind Value.present := by
  induction o with
  | nil => rfl
  | cons e rest ih =>
    obtain ⟨k,v⟩ := e
    obtain ⟨once,distinct⟩ := List.nodup_cons.mp distinct
    have own := ih distinct
    rw [valueCons]
    by_cases same : k = name
    · subst same
      have absent : value? rest k = none :=
        (valueNone rest k).mpr fun e member other => once (List.mem_map.mpr ⟨e,member,other⟩)
      rw [absent] at own
      cases v <;> simp_all [Value.present,valueCons]
    · cases v <;> simp_all [Value.present,valueCons]

theorem valueWire (k : Key) (v : Value) (rest : List (Key × Value)) (name : String) :
    (Spelling.wire.entries ((k,v) :: rest)).value? name =
      if k.camel = name then v.present.or ((Spelling.wire.entries rest).value? name)
      else (Spelling.wire.entries rest).value? name := by
  unfold Spelling.entries
  rw [List.filterMap_cons]
  cases v <;> simp [Value.present,Object.valueCons,Spelling.spell]

theorem valuePlain (k : Key) (v : Value) (rest : List (Key × Value)) (name : String) :
    (Spelling.plain.entries ((k,v) :: rest)).value? name =
      if k.snake = name then some v else (Spelling.plain.entries rest).value? name := by
  unfold Spelling.entries
  rw [List.filterMap_cons]
  exact Object.valueCons _ _ _ _

theorem plainForeign {among : List (Key × Value)} {name : String} (foreign : ∀ a ∈ among, a.1.snake ≠ name) :
    (Spelling.plain.entries among).value? name = none := by
  induction among with
  | nil => rfl
  | cons head rest ih =>
    obtain ⟨other,foreign⟩ := List.forall_mem_cons.mp foreign
    rw [valuePlain,if_neg other,ih foreign]

theorem plainHeld {among : List (Key × Value)} (distinct : (among.map (fun a => a.1.snake)).Nodup) :
    ∀ a ∈ among, (Spelling.plain.entries among).value? a.1.snake = some a.2 := by
  induction among with
  | nil => simp
  | cons head rest ih =>
    obtain ⟨k,v⟩ := head
    rw [List.map_cons,List.nodup_cons] at distinct
    intro a member
    rw [valuePlain]
    rcases List.mem_cons.mp member with rfl | later
    · rw [if_pos rfl]
    · have other : k.snake ≠ a.1.snake := fun same =>
        distinct.1 (List.mem_map.mpr ⟨a,later,same.symm⟩)
      rw [if_neg other]
      exact ih distinct.2 a later

@[simp]
theorem valueNoEntries (s : Spelling) (name : String) : (s.entries []).value? name = none := rfl

end FormBuilder
