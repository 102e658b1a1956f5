import FormBuilder.Proofs.Store.Parsed
/-! What writing does to the store: one row more, the fields of a form replaced, the columns of a form
changed, a form removed with all that is its own. Whatever was written can be read. -/
namespace FormBuilder.Store

theorem mostAbove (ids : List Int) (start : Int) :
    start ≤ ids.foldl max start ∧ ∀ id ∈ ids, id ≤ ids.foldl max start := by
  induction ids generalizing start with
  | nil => simp
  | cons head rest ih =>
    obtain ⟨least,others⟩ := ih (max start head)
    refine ⟨by rw [List.foldl_cons]; omega,?_⟩
    intro id member
    rcases List.mem_cons.mp member with rfl | later
    · rw [List.foldl_cons]
      omega
    · exact others id later

theorem nextIdAbove (ids : List Int) : ∀ id ∈ ids, id < nextId ids := by
  intro id member
  have most := (mostAbove ids 0).2 id member
  unfold nextId
  omega

theorem nextIdPositive (ids : List Int) : 0 < nextId ids := by
  have most := (mostAbove ids 0).1
  unfold nextId
  omega

theorem nextIdUnused {s : Store} {id : Int} (fresh : id = nextId (s.forms.map (·.id))) : ∀ r ∈ s.forms, r.id ≠ id := by
  intro r member
  have below := nextIdAbove _ r.id (List.mem_map_of_mem (f := (·.id)) member)
  omega

def Readable (r : FormRow) : Prop := ∃ settings, Settings.ofObject r.settings = .ok settings

structure Holds (s : Store) (fields : List Field) : Prop where
  readable : ∀ f ∈ fields, f.storable = true
  room : FieldRow.columns * fields.length ≤ s.mostValues

-- One change of the store after another. What is changed is a form that is there and `own`, and what is put in
-- is a `new` one. Only forms that read well get other fields or columns.
inductive Wrote (own new : FormRow → Prop) : Store → Store → Prop where
  | nothing (s) : Wrote own new s s
  | form (s) (r : FormRow) (fresh : r.id = nextId (s.forms.map (·.id))) (free : s.slugRow? r.slug = none)
      (tidy : Settings.Tidy r.settings) (may : new r) : Wrote own new s { s with forms := s.forms ++ [r] }
  | fields (s) (now : Int) {r : FormRow} (known : r ∈ s.forms) (mine : own r) (reads : Readable r)
      (fields : List Field) (distinct : Field.distinctIds fields = true) (fit : ∀ f ∈ fields, fits f.order = true)
      (holds : s.Holds fields) : Wrote own new s (s.withFields now r.id fields)
  | columns (s) {old : FormRow} (known : old ∈ s.forms) (mine : own old) (r : FormRow) (id : r.id = old.id)
      (owner : r.owner = old.owner) (slug : r.slug = old.slug) (created : r.createdAt = old.createdAt)
      (tidy : Settings.Tidy r.settings) (was : Readable old) (reads : Readable r) : Wrote own new s (s.putForm r)
  | removed (s) {r : FormRow} (known : r ∈ s.forms) (mine : own r) : Wrote own new s (s.withoutForm r.id)
  | submission (s) {r : FormRow} (known : r ∈ s.forms) (mine : own r) (row : Submission) (part : row.form = r.id) :
      Wrote own new s { s with submissions := s.submissions ++ [row] }
  | both {s t u} (first : Wrote own new s t) (later : Wrote own new t u) : Wrote own new s u

theorem Wrote.mono {own own' new new' : FormRow → Prop} {s t : Store} (wrote : Wrote own new s t)
    (owned : ∀ r, own r → own' r) (made : ∀ r, new r → new' r) : Wrote own' new' s t := by
  induction wrote with
  | nothing s => exact .nothing s
  | form s r fresh free tidy may => exact .form s r fresh free tidy (made r may)
  | fields s now known mine reads fields distinct fit holds =>
    exact .fields s now known (owned _ mine) reads fields distinct fit holds
  | columns s known mine r id owner slug created tidy was reads =>
    exact .columns s known (owned _ mine) r id owner slug created tidy was reads
  | removed s known mine => exact .removed s known (owned _ mine)
  | submission s known mine row part => exact .submission s known (owned _ mine) row part
  | both first later ih ih' => exact .both ih ih'

structure WellKept (s : Store) : Prop where
  unlocked : s.fieldsLocked = false
  fields : ∀ r ∈ s.fields, ∃ f : Field, r = .ofField r.id r.form f ∧ fits f.order = true ∧ f.storable = true
  room : ∀ form, FieldRow.columns * (s.fieldRows form).length ≤ s.mostValues
  settings : ∀ r ∈ s.forms, Settings.Tidy r.settings

theorem rowsFromWritten (start form : Int) (fields : List Field) :
    ∀ r ∈ rowsFrom start form fields, ∃ f ∈ fields, r = .ofField r.id r.form f := by
  induction fields generalizing start with
  | nil => simp [rowsFrom]
  | cons f rest ih =>
    intro r member
    rcases List.mem_cons.mp member with rfl | later
    · exact ⟨f,List.mem_cons_self,rfl⟩
    · obtain ⟨g,among,written⟩ := ih (start + 1) r later
      exact ⟨g,List.mem_cons_of_mem f among,written⟩

theorem rowsFromLength (start form : Int) (fields : List Field) :
    (rowsFrom start form fields).length = fields.length := by
  induction fields generalizing start with
  | nil => rfl
  | cons f rest ih => rw [rowsFrom,List.length_cons,List.length_cons,ih]

theorem rowsFromForm (start form : Int) (fields : List Field) : ∀ r ∈ rowsFrom start form fields, r.form = form := by
  induction fields generalizing start with
  | nil => simp [rowsFrom]
  | cons f rest ih =>
    intro r member
    rcases List.mem_cons.mp member with rfl | later
    · rfl
    · exact ih (start + 1) r later

theorem fieldRowsReplaced (s : Store) (now form : Int) (fields : List Field) :
    ∃ start, (s.withFields now form fields).fieldRows form = rowsFrom start form fields := by
  let others := s.fields.filter (fun r => r.form != form)
  let start := nextId (others.map (·.id))
  have gone : others.filter (fun r => r.form == form) = [] := by
    rw [List.filter_eq_nil_iff]
    intro r member
    simpa using (List.mem_filter.mp member).2
  have own : (rowsFrom start form fields).filter (fun r => r.form == form) = rowsFrom start form fields := by
    rw [List.filter_eq_self]
    intro r member
    exact beq_iff_eq.mpr (rowsFromForm start form fields r member)
  exact ⟨start,by rw [fieldRows,withFields,List.filter_append,gone,own,List.nil_append]⟩

theorem fieldRowsOther (s : Store) (now : Int) {form other : Int} (different : other ≠ form) (fields : List Field) :
    (s.withFields now form fields).fieldRows other = s.fieldRows other := by
  have none : (rowsFrom (nextId ((s.fields.filter (fun r => r.form != form)).map (·.id))) form fields).filter
      (fun r => r.form == other) = [] := by
    rw [List.filter_eq_nil_iff]
    intro r member
    simpa [rowsFromForm _ _ _ r member] using different.symm
  rw [fieldRows,withFields,List.filter_append,none,List.append_nil,List.filter_filter]
  refine List.filter_congr fun r _ => ?_
  by_cases own : r.form = other <;> simp [own,different]

theorem withFieldsKept {s : Store} (kept : WellKept s) (now form : Int) {fields : List Field}
    (fit : ∀ f ∈ fields, fits f.order = true) (holds : s.Holds fields) : WellKept (s.withFields now form fields) := by
  refine ⟨kept.unlocked,?_,fun other => ?_,?_⟩
  · intro f member
    rcases List.mem_append.mp member with other | new
    · exact kept.fields f (List.mem_filter.mp other).1
    · obtain ⟨g,among,written⟩ := rowsFromWritten _ _ _ f new
      exact ⟨g,written,fit g among,holds.readable g among⟩
  · by_cases own : other = form
    · obtain ⟨start,rows⟩ := fieldRowsReplaced s now form fields
      rw [own,rows,rowsFromLength]
      exact holds.room
    · rw [fieldRowsOther s now own]
      exact kept.room other
  · intro f member
    obtain ⟨old,earlier,rfl⟩ := List.mem_map.mp member
    have tidy := kept.settings old earlier
    split <;> exact tidy

theorem wroteWellKept {own new : FormRow → Prop} {s t : Store} (wrote : Wrote own new s t) (kept : WellKept s) :
    WellKept t := by
  induction wrote with
  | nothing s => exact kept
  | form s r fresh free tidy may =>
    refine ⟨kept.unlocked,kept.fields,kept.room,?_⟩
    intro f member
    rcases List.mem_append.mp member with earlier | new
    · exact kept.settings f earlier
    · rw [List.mem_singleton.mp new]
      exact tidy
  | fields s now known mine reads fields distinct fit holds => exact withFieldsKept kept now _ fit holds
  | columns s known mine r id owner slug created tidy was reads =>
    refine ⟨kept.unlocked,kept.fields,kept.room,?_⟩
    intro f member
    obtain ⟨old,earlier,rfl⟩ := List.mem_map.mp member
    split
    · exact tidy
    · exact kept.settings old earlier
  | @removed s r known mine =>
    refine ⟨kept.unlocked,?_,fun form => ?_,?_⟩
    · intro f member
      exact kept.fields f (List.mem_filter.mp member).1
    · have fewer : ((s.withoutForm r.id).fieldRows form).length ≤ (s.fieldRows form).length :=
        (List.filter_sublist.filter _).length_le
      exact Nat.le_trans (Nat.mul_le_mul_left _ fewer) (kept.room form)
    · intro f member
      exact kept.settings f (List.mem_filter.mp member).1
  | submission s known mine row part => exact ⟨kept.unlocked,kept.fields,kept.room,kept.settings⟩
  | both first later ih ih' => exact ih' (ih kept)

theorem keptStorable (f : Field) (row : Int) : (f.kept row).storable = f.storable := by
  rw [Field.storableExact,Field.storableExact]
  rfl

theorem readAllLength {rows : List FieldRow} {fields : List Field} (ok : readAll rows = .ok fields) :
    fields.length = rows.length := by
  induction rows generalizing fields with
  | nil =>
    cases ok
    rfl
  | cons r rest ih =>
    unfold readAll at ok
    split at ok
    · contradiction
    · obtain ⟨back,others,rfl⟩ := Checked.mapOk.mp ok
      rw [List.length_cons,List.length_cons,ih others]

theorem readAllFits {rows : List FieldRow}
    (written : ∀ r ∈ rows, ∃ f : Field, r = .ofField r.id r.form f ∧ fits f.order = true ∧ f.storable = true) :
    ∃ fields, readAll rows = .ok fields ∧ ∀ f ∈ fields, fits f.order = true ∧ f.storable = true := by
  induction rows with
  | nil => exact ⟨[],rfl,by simp⟩
  | cons r rest ih =>
    obtain ⟨f,own,fit,readable⟩ := written r List.mem_cons_self
    obtain ⟨fields,ok,others⟩ := ih (fun row member => written row (List.mem_cons_of_mem r member))
    have reads : r.toField = .ok (f.kept r.id) := own ▸ ofFieldReadsBack r.id r.form f
    refine ⟨f.kept r.id :: fields,?_,?_⟩
    · simp only [readAll,reads,ok]
      rfl
    · exact List.forall_mem_cons.mpr ⟨⟨fit,(keptStorable f r.id).trans readable⟩,others⟩

theorem getFieldsFits {s : Store} (kept : WellKept s) (form : Int) :
    ∃ fields, s.getFields form = .ok fields ∧ (∀ f ∈ fields, fits f.order = true) ∧ s.Holds fields := by
  have written : ∀ r ∈ (s.fieldRows form).mergeSort FieldRow.notAfter,
      ∃ f : Field, r = .ofField r.id r.form f ∧ fits f.order = true ∧ f.storable = true := by
    intro r member
    rw [List.mem_mergeSort] at member
    exact kept.fields r (List.mem_filter.mp member).1
  obtain ⟨fields,ok,each⟩ := readAllFits written
  refine ⟨fields,ok,fun f member => (each f member).1,fun f member => (each f member).2,?_⟩
  rw [readAllLength ok,List.length_mergeSort]
  exact kept.room form

theorem sortedMember {fields : List Field} {f : Field} : f ∈ Field.sorted fields ↔ f ∈ fields := List.mem_mergeSort

theorem sortedDistinct (fields : List Field) :
    Field.distinctIds (Field.sorted fields) = Field.distinctIds fields := by
  have same := ((List.mergeSort_perm fields (fun a b => decide (a.order ≤ b.order))).map (·.id)).nodup_iff
  exact decide_eq_decide.mpr same

theorem knownForm {s : Store} {r : FormRow} (known : r ∈ s.forms) :
    s.forms.any (fun f => f.id == r.id) = true :=
  List.any_eq_true.mpr ⟨r,known,beq_self_eq_true r.id⟩

-- Fields no form can have: two share an id, or there is no form to have them.
def Unwritable (s : Store) (form : Int) (fields : List Field) : Prop :=
  ¬ (fields.map (·.id)).Nodup ∨ fields ≠ [] ∧ ∀ r ∈ s.forms, r.id ≠ form

theorem sortedLength (fields : List Field) : (Field.sorted fields).length = fields.length :=
  List.length_mergeSort ..

theorem sortedHolds {s : Store} {fields : List Field} : s.Holds (Field.sorted fields) ↔ s.Holds fields := by
  constructor
  · exact fun holds => ⟨fun f member => holds.readable f (sortedMember.mpr member),sortedLength fields ▸ holds.room⟩
  · exact fun holds => ⟨fun f member => holds.readable f (sortedMember.mp member),(sortedLength fields).symm ▸ holds.room⟩

theorem refusalNone (s : Store) (form : Int) (ids : List String) (fields : List Field) :
    s.refusal? form ids fields = none ↔ (∀ f ∈ fields, f.storable = true) ∧ (∀ f ∈ fields, f.id ∉ ids) ∧
      (fields.map (·.id)).Nodup ∧ ∃ r ∈ s.forms, r.id = form := by
  induction fields generalizing ids with
  | nil => simp [refusal?]
  | cons f rest ih =>
    rw [refusal?]
    by_cases readable : f.storable = true
    · by_cases seen : f.id ∈ ids
      · simp [readable,seen]
      · rw [List.forall_mem_cons,List.forall_mem_cons,List.map_cons,List.nodup_cons]
        simp only [readable,seen,ih,Bool.not_true,Bool.false_eq_true,if_false,List.contains_iff_mem,
          List.mem_cons,not_or,List.mem_map,not_exists,not_and]
        constructor
        · rintro ⟨others,unseen,distinct,there⟩
          exact ⟨⟨trivial,others⟩,⟨not_false,fun g member => (unseen g member).2⟩,
            ⟨fun g member => (unseen g member).1,distinct⟩,there⟩
        · rintro ⟨⟨-,others⟩,⟨-,unseen⟩,⟨own,distinct⟩,there⟩
          exact ⟨others,fun g member => ⟨own g member,unseen g member⟩,distinct,there⟩
    · simp [readable]

theorem sortedRefusal {s : Store} {form : Int} {fields : List Field} (some : fields ≠ []) :
    s.refusal? form [] (Field.sorted fields) = none ↔
      (∀ f ∈ fields, f.storable = true) ∧ ¬ Unwritable s form fields := by
  have ids : ((Field.sorted fields).map (·.id)).Nodup ↔ (fields.map (·.id)).Nodup :=
    ((List.mergeSort_perm fields (fun a b => decide (a.order ≤ b.order))).map (·.id)).nodup_iff
  rw [refusalNone,ids]
  constructor
  · rintro ⟨readable,-,distinct,r,known,own⟩
    exact ⟨fun f member => readable f (sortedMember.mpr member),
      fun unwritable => unwritable.elim (· distinct) fun absent => absent.2 r known own⟩
  · rintro ⟨readable,writable⟩
    exact ⟨fun f member => readable f (sortedMember.mp member),by simp,
      Classical.byContradiction fun repeated => writable (.inl repeated),
      Classical.byContradiction fun absent => writable (.inr ⟨some,fun r known own => absent ⟨r,known,own⟩⟩)⟩

theorem writable {s : Store} {form : Int} (there : ∃ r ∈ s.forms, r.id = form) {fields : List Field}
    (distinct : (fields.map (·.id)).Nodup) : ¬ Unwritable s form fields := by
  rintro (repeated | ⟨-,absent⟩)
  · exact repeated distinct
  · obtain ⟨r,known,own⟩ := there
    exact absent r known own

theorem sortedEmpty {fields : List Field} : (Field.sorted fields).isEmpty = true ↔ fields = [] := by
  rw [List.isEmpty_iff,List.eq_nil_iff_forall_not_mem,List.eq_nil_iff_forall_not_mem]
  simp only [sortedMember]

theorem sortedFits {fields : List Field} :
    (Field.sorted fields).all (fun f => fits f.order) = true ↔ ∀ f ∈ fields, fits f.order = true := by
  simp only [List.all_eq_true,sortedMember]

theorem writeFaultNone {s : Store} (unlocked : s.fieldsLocked = false) {form : Int} {fields : List Field} :
    s.writeFault? form (Field.sorted fields) = none ↔
      fits form = true ∧ (∀ f ∈ fields, fits f.order = true) ∧ s.Holds fields ∧ ¬ Unwritable s form fields := by
  rw [writeFault?]
  cases inside : fits form with
  | false => simp
  | true =>
    by_cases none : fields = []
    · subst none
      have empty : Field.sorted [] = [] := List.isEmpty_iff.mp (sortedEmpty.mpr rfl)
      have holds : s.Holds [] := ⟨List.forall_mem_nil _,Nat.zero_le _⟩
      simp [empty,holds,Unwritable]
    · have given : (Field.sorted fields).isEmpty = false := Bool.eq_false_iff.mpr (mt sortedEmpty.mp none)
      simp only [given,unlocked,sortedLength,Bool.not_true,Bool.false_eq_true,if_false]
      by_cases many : s.mostValues < FieldRow.columns * fields.length
      · have overfull : ¬ s.Holds fields := fun holds => Nat.not_lt.mpr holds.room many
        simp [many,overfull]
      · by_cases fit : ∀ f ∈ fields, fits f.order = true
        · have holds : s.Holds fields ↔ ∀ f ∈ fields, f.storable = true :=
            ⟨fun holds => holds.readable,fun readable => ⟨readable,Nat.not_lt.mp many⟩⟩
          simp only [many,sortedFits.mpr fit,Bool.not_true,Bool.false_eq_true,if_false,Option.map_eq_none_iff,
            sortedRefusal none,holds,true_and,and_iff_right fit]
        · have large : (Field.sorted fields).all (fun f => fits f.order) = false :=
            Bool.eq_false_iff.mpr (mt sortedFits.mp fit)
          simp [many,large,fit]

theorem writeFaultOwn {s : Store} {form : Int} (inside : fits form = true) {fields : List Field}
    (fit : ∀ f ∈ fields, fits f.order = true) {fault : StoreFault} (fails : s.writeFault? form (Field.sorted fields) = some fault) :
    ∃ why, fault = .unwritableFields form why := by
  have small : (Field.sorted fields).all (fun f => fits f.order) = true := sortedFits.mpr fit
  simp only [writeFault?,inside,small,Bool.not_true,Bool.false_eq_true,if_false] at fails
  split at fails
  · contradiction
  split at fails
  · exact ⟨_,(Option.some.inj fails).symm⟩
  split at fails
  · exact ⟨_,(Option.some.inj fails).symm⟩
  · obtain ⟨why,-,same⟩ := Option.map_eq_some_iff.mp fails
    exact ⟨why,same.symm⟩

theorem replaceFieldsFailed {s : Store} {form : Int} {fields : List Field} {fault : StoreFault}
    (fails : s.writeFault? form (Field.sorted fields) = some fault) (now : Int) :
    (s.replaceFields now form fields).1 = s ∧ (s.replaceFields now form fields).2.1 = .error fault := by
  simp only [replaceFields,fails,and_self]

theorem replaceFieldsWritten {s : Store} {form : Int} {fields : List Field}
    (passes : s.writeFault? form (Field.sorted fields) = none) (now : Int) :
    (s.replaceFields now form fields).1 = s.withFields now form (Field.sorted fields) ∧
    (s.replaceFields now form fields).2.1 = (s.withFields now form (Field.sorted fields)).getFields form := by
  simp only [replaceFields,passes,and_self]

theorem replaceFieldsLocked {s : Store} (locked : s.fieldsLocked = true) (now : Int) {form : Int}
    (inside : fits form = true) {fields : List Field} (some : fields ≠ []) :
    (s.replaceFields now form fields).1 = s ∧
    (s.replaceFields now form fields).2.1 = .error (.unwritableFields form .locked) := by
  have given : (Field.sorted fields).isEmpty = false := Bool.eq_false_iff.mpr (mt sortedEmpty.mp some)
  exact replaceFieldsFailed (by simp [writeFault?,inside,given,locked]) now

theorem replaceFieldsDone {s : Store} (kept : WellKept s) {form : Int} {fields : List Field}
    (passes : s.writeFault? form (Field.sorted fields) = none) (now : Int) :
    (s.replaceFields now form fields).1 = s.withFields now form (Field.sorted fields) ∧
    ∃ back, (s.replaceFields now form fields).2.1 = .ok back := by
  obtain ⟨-,fit,holds,-⟩ := (writeFaultNone kept.unlocked).mp passes
  have keptNow : WellKept (s.withFields now form (Field.sorted fields)) :=
    withFieldsKept kept now form (fun f member => fit f (sortedMember.mp member)) (sortedHolds.mpr holds)
  obtain ⟨back,reads,-⟩ := getFieldsFits keptNow form
  obtain ⟨same,outcome⟩ := replaceFieldsWritten passes now
  exact ⟨same,back,outcome.trans reads⟩

end FormBuilder.Store
