import FormBuilder.Proofs.Store.Parsed
import FormBuilder.Proofs.Store.Writes
import FormBuilder.Service.Basic
import Mathlib.Data.List.Forall2
/-! Replacing the fields of a form: all of them or none, in their order, and without touching the fields of
any other form. -/
namespace FormBuilder

theorem forall₂Source {R : α → β → Prop} {given : List α} {back : List β} (all : List.Forall₂ R given back) :
    ∀ b ∈ back, ∃ a ∈ given, R a b := by
  induction all with
  | nil => simp
  | cons own _ ih =>
    refine List.forall_mem_cons.mpr ⟨⟨_,List.mem_cons_self,own⟩,fun b member => ?_⟩
    obtain ⟨a,among,same⟩ := ih b member
    exact ⟨a,List.mem_cons_of_mem _ among,same⟩

namespace Field

theorem keptMap {part other : Field → α} (same : ∀ f row, part (f.kept row) = other f) {fields back : List Field}
    (kept : List.Forall₂ (fun f g => ∃ row : Int, g = f.kept row) fields back) : back.map part = fields.map other := by
  induction kept with
  | nil => rfl
  | cons own _ ih =>
    obtain ⟨row,rfl⟩ := own
    rw [List.map_cons,List.map_cons,ih,same]

structure InOrder (fields asked : List Field) : Prop where
  ascending : asked.Pairwise (fun f g => f.order ≤ g.order)
  stable : ∀ n, asked.filter (fun f => f.order == n) = fields.filter (fun f => f.order == n)

theorem sortedInOrder (fields : List Field) : InOrder fields (sorted fields) := by
  let le (f g : Field) : Bool := f.order ≤ g.order
  have trans (a b c : Field) (ab : le a b = true) (bc : le b c = true) : le a c = true := by
    simp only [le,decide_eq_true_eq] at ab bc ⊢
    omega
  have total (a b : Field) : (le a b || le b a) = true := by
    simp only [le,Bool.or_eq_true,decide_eq_true_eq]
    omega
  constructor
  · exact (List.pairwise_mergeSort trans total fields).imp fun before => of_decide_eq_true before
  · intro n
    let equal := fields.filter (fun f => f.order == n)
    have alike : equal.Pairwise (fun f g => le f g = true) := by
      refine List.pairwise_of_forall_mem_list fun f among g also => ?_
      have first := beq_iff_eq.mp (List.mem_filter.mp among).2
      have second := beq_iff_eq.mp (List.mem_filter.mp also).2
      simp [le,first,second]
    have inside : equal.Sublist (sorted fields) := List.sublist_mergeSort trans total alike List.filter_sublist
    have same : equal.filter (fun f => f.order == n) = equal :=
      List.filter_eq_self.mpr fun f among => (List.mem_filter.mp among).2
    have kept := inside.filter (fun f => f.order == n)
    rw [same] at kept
    have count := ((List.mergeSort_perm fields le).filter (fun f => f.order == n)).length_eq
    exact (kept.eq_of_length count.symm).symm

theorem firstLeast {f g : Field} {rest others : List Field} (rising : (g :: others).Pairwise (fun f g => f.order ≤ g.order))
    (alike : (f :: rest).filter (fun h => h.order == f.order) = (g :: others).filter (fun h => h.order == f.order)) :
    g.order ≤ f.order := by
  have own : f ∈ (f :: rest).filter (fun h => h.order == f.order) := List.mem_filter.mpr ⟨List.mem_cons_self,by simp⟩
  rw [alike] at own
  rcases List.mem_cons.mp (List.mem_filter.mp own).1 with rfl | later
  · exact Nat.le_refl _
  · exact (List.pairwise_cons.mp rising).1 f later

theorem ascendingAlike {fields others : List Field} (ascending : fields.Pairwise (fun f g => f.order ≤ g.order))
    (rising : others.Pairwise (fun f g => f.order ≤ g.order))
    (alike : ∀ n, fields.filter (fun f => f.order == n) = others.filter (fun f => f.order == n)) : fields = others := by
  induction fields generalizing others with
  | nil =>
    cases others with
    | nil => rfl
    | cons g rest => simpa using alike g.order
  | cons f rest ih =>
    cases others with
    | nil => simpa using alike f.order
    | cons g others =>
      have same : f.order = g.order :=
        Nat.le_antisymm (firstLeast ascending (alike g.order).symm) (firstLeast rising (alike f.order))
      have own := alike f.order
      rw [List.filter_cons_of_pos (by simp),List.filter_cons_of_pos (by simp [same])] at own
      obtain ⟨rfl,-⟩ := List.cons.inj own
      refine congrArg (f :: ·) (ih (List.pairwise_cons.mp ascending).2 (List.pairwise_cons.mp rising).2 fun n => ?_)
      have run := alike n
      rw [List.filter_cons,List.filter_cons] at run
      split at run
      · exact (List.cons.inj run).2
      · exact run

theorem InOrder.only {fields asked other : List Field} (order : InOrder fields asked) (also : InOrder fields other) :
    other = asked :=
  ascendingAlike also.ascending order.ascending fun n => (also.stable n).trans (order.stable n).symm

end Field

namespace Store

theorem rowsFromAbove (start form : Int) (fields : List Field) : ∀ r ∈ rowsFrom start form fields, start ≤ r.id := by
  induction fields generalizing start with
  | nil => simp [rowsFrom]
  | cons f rest ih =>
    intro r member
    rcases List.mem_cons.mp member with rfl | later
    · exact Int.le_refl start
    · have above := ih (start + 1) r later
      omega

theorem rowsFromOrdered (start form : Int) {fields : List Field}
    (ascending : fields.Pairwise (fun f g => f.order ≤ g.order)) :
    (rowsFrom start form fields).Pairwise (fun a b => FieldRow.notAfter a b = true) := by
  induction ascending generalizing start with
  | nil => exact .nil
  | @cons f rest before _ ih =>
    refine .cons (fun r later => ?_) (ih (start + 1))
    have above := rowsFromAbove (start + 1) form rest r later
    obtain ⟨g,among,written⟩ := rowsFromWritten (start + 1) form rest r later
    have asked := before g among
    have order : r.order = .int g.order := by rw [written]; rfl
    have sequence : (f.order : Int) < g.order ∨ (f.order : Int) = g.order := by omega
    have older : start ≤ r.id := by omega
    simpa [FieldRow.notAfter,FieldRow.ofField,Value.ofNat,order,older] using sequence

theorem readAllWritten (start form : Int) (fields : List Field) :
    ∃ back, readAll (rowsFrom start form fields) = .ok back ∧
      List.Forall₂ (fun f g => ∃ row : Int, g = f.kept row) fields back := by
  induction fields generalizing start with
  | nil => exact ⟨[],rfl,.nil⟩
  | cons f rest ih =>
    obtain ⟨back,reads,same⟩ := ih (start + 1)
    refine ⟨f.kept start :: back,?_,.cons ⟨start,rfl⟩ same⟩
    rw [rowsFrom,readAll,ofFieldReadsBack,reads]
    rfl

theorem getFieldsWritten {s : Store} {form : Int} {fields : List Field}
    (rows : ∃ start, s.fieldRows form = rowsFrom start form fields)
    (ascending : fields.Pairwise (fun f g => f.order ≤ g.order)) :
    ∃ back, s.getFields form = .ok back ∧ List.Forall₂ (fun f g => ∃ row : Int, g = f.kept row) fields back := by
  obtain ⟨start,rows⟩ := rows
  rw [getFields,rows,List.mergeSort_of_pairwise (rowsFromOrdered start form ascending)]
  exact readAllWritten start form fields

theorem getFieldsReplaced (s : Store) (now form : Int) {fields : List Field}
    (ascending : fields.Pairwise (fun f g => f.order ≤ g.order)) :
    ∃ back, (s.withFields now form fields).getFields form = .ok back ∧
      List.Forall₂ (fun f g => ∃ row : Int, g = f.kept row) fields back :=
  getFieldsWritten (fieldRowsReplaced s now form fields) ascending

theorem fitsOrder {f : Field} (small : f.order < Nat.pow 2 63) : fits f.order = true := by
  have small : f.order < 9223372036854775808 := small
  have lower : (-9223372036854775808 : Int) ≤ f.order := by omega
  have upper : (f.order : Int) < 9223372036854775808 := by omega
  simp only [fits,decide_eq_true lower,decide_eq_true upper,Bool.and_self]

structure Replaced (t : Store) (form : Int) (fields back : List Field) : Prop where
  read : t.getFields form = .ok back
  same : ∃ asked, Field.InOrder fields asked ∧
    List.Forall₂ (fun f g => ∃ row : Int, g = { f with persistedId := some (toString row) }) asked back
  count : (t.fieldRows form).length = fields.length
  rows : ∀ r ∈ t.fieldRows form, ∃ f ∈ fields, r = .ofField r.id form f

theorem replacedWithFields (s : Store) (now form : Int) {fields : List Field} (parsed : ∀ f ∈ fields, f.Parsed)
    (finite : ∀ f ∈ fields, f.finite = true) :
    ∃ back, Replaced (s.withFields now form (Field.sorted fields)) form fields back := by
  have order := Field.sortedInOrder fields
  obtain ⟨back,read,kept⟩ := getFieldsReplaced s now form order.ascending
  obtain ⟨start,rows⟩ := fieldRowsReplaced s now form (Field.sorted fields)
  refine ⟨back,read,⟨_,order,?_⟩,?_,?_⟩
  · have same := (List.forall₂_and_left _ _).mpr ⟨fun f among => sortedMember.mp among,kept⟩
    refine same.imp fun f g ⟨among,row,own⟩ => ⟨row,?_⟩
    rw [own,Field.keptSame (Field.parsedNamed (parsed f among)) (finite f among)]
  · rw [rows,rowsFromLength]
    exact (List.mergeSort_perm fields _).length_eq
  · intro r member
    rw [rows] at member
    obtain ⟨f,among,written⟩ := rowsFromWritten start form _ r member
    rw [rowsFromForm start form _ r member] at written
    exact ⟨f,sortedMember.mp among,written⟩

theorem writeFaultOutside {form : Int} (outside : fits form = false) (s : Store) (fields : List Field) :
    s.writeFault? form fields = some .outOfRange := by
  simp only [writeFault?,outside,Bool.not_false,if_true]

theorem writeFaultInside {s : Store} (unlocked : s.fieldsLocked = false) {form : Int} (inside : fits form = true)
    {fields : List Field} (fit : ∀ f ∈ fields, fits f.order = true) (readable : ∀ f ∈ fields, f.storable = true) :
    s.writeFault? form (Field.sorted fields) = none ↔
      ¬ (Unwritable s form fields ∨ s.mostValues < FieldRow.columns * fields.length) := by
  have holds : s.Holds fields ↔ ¬ s.mostValues < FieldRow.columns * fields.length :=
    ⟨fun holds => Nat.not_lt.mpr holds.room,fun few => ⟨readable,Nat.not_lt.mp few⟩⟩
  rw [writeFaultNone unlocked,holds,and_iff_right inside,and_iff_right fit,not_or,and_comm]

theorem replaceFieldsThrough {s : Store} (now : Int) {form : Int} {fields : List Field} (parsed : ∀ f ∈ fields, f.Parsed)
    (finite : ∀ f ∈ fields, f.finite = true) (passes : s.writeFault? form (Field.sorted fields) = none) :
    let t := (s.replaceFields now form fields).1
    (∃ back, (s.replaceFields now form fields).2.1 = .ok back ∧ Replaced t form fields back) ∧
      ∀ other ≠ form, t.fieldRows other = s.fieldRows other ∧ t.getFields other = s.getFields other := by
  intro t
  obtain ⟨written,read⟩ := replaceFieldsWritten passes now
  have written : t = s.withFields now form (Field.sorted fields) := written
  obtain ⟨back,replaced⟩ := replacedWithFields s now form parsed finite
  refine ⟨⟨back,read.trans replaced.read,written ▸ replaced⟩,fun other different => ?_⟩
  have rows : t.fieldRows other = s.fieldRows other := by
    rw [written]
    exact fieldRowsOther s now different (Field.sorted fields)
  exact ⟨rows,by rw [getFields,rows,getFields]⟩

/-- Replacing the fields of a form, in a store nothing else has locked. It fails as a fault of the store's own
just when the form's number fits its column, and two fields share an id, or the form to have them is not there, or
there are more of them than one statement carries; a form's number that does not fit is refused as such. Whatever
fails leaves the store as it was. All else goes through: the form then has the fields given and no others, in their
order, telling only new rows apart, and the fields of every other form are untouched. -/
theorem fieldsReplacedAtOnce {s : Store} (unlocked : s.fieldsLocked = false) (now form : Int) {fields : List Field}
    (parsed : ∀ f ∈ fields, f.Parsed) (finite : ∀ f ∈ fields, f.finite = true)
    (small : ∀ f ∈ fields, f.order < Nat.pow 2 63) :
    let t := (s.replaceFields now form fields).1
    let outcome := (s.replaceFields now form fields).2.1
    let many := s.mostValues < FieldRow.columns * fields.length
    ((∃ fault, outcome = .error fault ∧ Service.isStoreError fault = true) ↔
      fits form = true ∧ (Unwritable s form fields ∨ many)) ∧
    (fits form = false → outcome = .error .outOfRange) ∧
    (∀ fault, outcome = .error fault → t = s) ∧
    (fits form = true → ¬ Unwritable s form fields → ¬ many →
      (∃ back, outcome = .ok back ∧ Replaced t form fields back) ∧
      ∀ other ≠ form, t.fieldRows other = s.fieldRows other ∧ t.getFields other = s.getFields other) := by
  intro t outcome many
  have fit : ∀ f ∈ fields, fits f.order = true := fun f member => fitsOrder (small f member)
  have readable : ∀ f ∈ fields, f.storable = true := fun f member => Field.finiteStorable (finite f member)
  cases inside : fits form with
  | false =>
    obtain ⟨same,refused⟩ := replaceFieldsFailed (writeFaultOutside inside s (Field.sorted fields)) now
    refine ⟨⟨?_,fun fitting => nomatch fitting.1⟩,fun _ => refused,fun _ _ => same,nofun⟩
    rintro ⟨_,fails,own⟩
    cases fails.symm.trans refused
    contradiction
  | true =>
    have passes := writeFaultInside unlocked inside fit readable
    by_cases bad : Unwritable s form fields ∨ many
    · obtain ⟨fault,fails⟩ := Option.ne_none_iff_exists'.mp (mt passes.mp (not_not.mpr bad))
      obtain ⟨why,rfl⟩ := writeFaultOwn inside fit fails
      obtain ⟨same,refused⟩ := replaceFieldsFailed fails now
      exact ⟨⟨fun _ => ⟨rfl,bad⟩,fun _ => ⟨_,refused,rfl⟩⟩,nofun,fun _ _ => same,
        fun _ writable few => absurd bad (not_or.mpr ⟨writable,few⟩)⟩
    · obtain ⟨⟨back,ok,replaced⟩,others⟩ := replaceFieldsThrough now parsed finite (passes.mpr bad)
      have through : ∀ fault, outcome ≠ .error fault := fun fault fails => nomatch ok.symm.trans fails
      exact ⟨⟨fun ⟨fault,fails,_⟩ => absurd fails (through fault),fun refused => absurd refused.2 bad⟩,nofun,
        fun fault fails => absurd fails (through fault),fun _ _ _ => ⟨⟨back,ok,replaced⟩,others⟩⟩

theorem twoFieldsReplaced :
    let old : Field := ⟨"c",none,"C",0,⟨false,none,none⟩,.text⟩
    let s : Store := ⟨[⟨1,"alice","T","t",none,.draft,[],0,0⟩],[.ofField 1 1 old],[],false,32766⟩
    let fields : List Field := [⟨"a",none,"A",1,⟨true,some "first",none⟩,.number (some .one) none⟩,
      ⟨"b",some "7","B",0,⟨false,none,some ⟨"a",.greaterThan,.list [.float .one,.null]⟩⟩,.checkbox ["x"]⟩]
    s.fieldsLocked = false ∧ (∀ f ∈ fields, f.Parsed) ∧ (∀ f ∈ fields, f.finite = true) ∧
    (∀ f ∈ fields, f.order < Nat.pow 2 63) ∧
    (∃ back, (s.replaceFields 5 1 fields).2.1 = .ok back ∧ Replaced (s.replaceFields 5 1 fields).1 1 fields back) ∧
    Unwritable s 9223372036854775808 fields ∧
    (s.replaceFields 5 9223372036854775808 fields).2.1 = .error .outOfRange ∧
    Service.isStoreError .outOfRange = false := by
  intro old s fields
  have parsed : ∀ f ∈ fields, f.Parsed := by
    simp only [fields,List.forall_mem_cons,List.not_mem_nil,false_implies,implies_true,and_true]
    constructor
    · exact ⟨"",.object [("type",.str "number"),("id",.str "a"),("label",.str "A"),("order",.int 1),
        ("config",.object [("required",.bool true),("placeholder",.str "first"),("min",.float .one)])],rfl⟩
    · exact ⟨"",.object [("type",.str "checkbox"),("id",.str "b"),("dbId",.str "7"),("label",.str "B"),
        ("options",.list [.str "x"]),("condition",.object [("fieldId",.str "a"),("operator",.str "greater_than"),
          ("value",.list [.float .one,.null])])],rfl⟩
  have finite : ∀ f ∈ fields, f.finite = true := by decide
  have small : ∀ f ∈ fields, f.order < Nat.pow 2 63 := by decide
  have writable : ¬ Unwritable s 1 fields := by simp [Unwritable,s,fields]
  have huge : Unwritable s 9223372036854775808 fields := by simp [Unwritable,s,fields]
  obtain ⟨-,-,-,through⟩ := fieldsReplacedAtOnce (s := s) rfl 5 1 parsed finite small
  obtain ⟨-,refused,-⟩ := fieldsReplacedAtOnce (s := s) rfl 5 9223372036854775808 parsed finite small
  exact ⟨rfl,parsed,finite,small,(through rfl writable (by decide)).1,huge,refused (by decide),rfl⟩

end Store
end FormBuilder
