import FormBuilder.Proofs.Field.Renumbered
import FormBuilder.Proofs.Store.Forms
import FormBuilder.Service.Call
/-! What is known of the parts of a call once the service has checked them. -/
namespace FormBuilder

theorem Field.cleanedOwn (f : Field) : (cleaned f).id = f.id ∧ (cleaned f).order = f.order := by
  simp only [cleaned,and_self]

theorem Field.cleanedIds (fields : List Field) : (fields.map cleaned).map (·.id) = fields.map (·.id) := by
  rw [List.map_map]
  exact List.map_congr_left fun f _ => (cleanedOwn f).1

theorem Field.arrangeDistinct {fields arranged : List Field} (ok : arrange fields = .ok arranged) :
    distinctIds arranged = true ∧ ∀ f ∈ arranged, f.order < fields.length := by
  unfold arrange at ok
  split at ok
  · rename_i distinct
    cases ok
    constructor
    · rw [← Store.sortedDistinct] at distinct
      rw [distinctIds,renumber,renumberFromIds,cleanedIds]
      exact distinct
    · intro f member
      have below := renumberFromOrders 0 _ f member
      simpa [sorted] using below
  · contradiction

theorem Field.parseAllLength {items : List Value} {m m' : Mint} {fields : List Field}
    (ok : parseAll items m = (.ok fields,m')) : fields.length = items.length := by
  induction items generalizing m m' fields with
  | nil =>
    cases ok
    rfl
  | cons v rest ih =>
    unfold parseAll at ok
    split at ok
    · simp at ok
    · rename_i f after _
      cases tail : parseAll rest after with
      | mk read last =>
        simp only [tail] at ok
        cases read with
        | error faults => simp [Except.map] at ok
        | ok others =>
          simp only [Except.map,Prod.mk.injEq,Except.ok.injEq] at ok
          rw [← ok.1,List.length_cons,List.length_cons,ih tail]

def FieldSource.size : FieldSource → Nat
  | .ready fields => fields.length
  | .raw items =>
    match items.parts with
    | .ok items => items.length
    | .error _ => 0

namespace Service

theorem prepareArranged {source : FieldSource} {m m' : Mint} {fields : List Field}
    (ok : prepare source m = (.ok fields,m')) : ∃ given, Field.arrange given = .ok fields ∧ given.length = source.size := by
  cases source with
  | ready given =>
    cases arranged : Field.arrange given with
    | error fault =>
      rw [prepare,arranged] at ok
      cases ok
    | ok own =>
      rw [prepare,arranged] at ok
      cases ok
      exact ⟨given,arranged,rfl⟩
  | raw items =>
    unfold prepare at ok
    dsimp only at ok
    split at ok
    · simp at ok
    · rename_i parts split
      cases prepared : Field.prepare parts m with
      | mk outcome last =>
        rw [prepared] at ok
        cases outcome with
        | error fault => cases ok
        | ok own =>
          cases ok
          unfold Field.prepare at prepared
          split at prepared
          · simp at prepared
          · rename_i read after parsed
            refine ⟨read,(Prod.mk.inj prepared).1,?_⟩
            simp only [FieldSource.size,split]
            exact Field.parseAllLength parsed

theorem prepareDistinct {source : FieldSource} {m m' : Mint} {fields : List Field}
    (ok : prepare source m = (.ok fields,m')) :
    Field.distinctIds fields = true ∧ ∀ f ∈ fields, f.order < source.size := by
  obtain ⟨given,arranged,size⟩ := prepareArranged ok
  exact size ▸ Field.arrangeDistinct arranged

theorem prepareOptionalReady {source : Option FieldSource} {m m' : Mint} {fields : List Field}
    (ready : prepareOptional source m = (.ok (some fields),m')) : ∃ source m m', prepare source m = (.ok fields,m') := by
  cases source with
  | none => simp [prepareOptional] at ready
  | some source =>
    cases prepared : prepare source m with
    | mk outcome last =>
      cases outcome with
      | error fault => simp [prepareOptional,prepared,Except.map] at ready
      | ok own =>
        simp only [prepareOptional,prepared,Except.map,Prod.mk.injEq,Except.ok.injEq,Option.some.injEq] at ready
        exact ⟨source,m,last,ready.1 ▸ prepared⟩

theorem prepareOptionalDistinct {source : Option FieldSource} {m m' : Mint} {fields : Option (List Field)}
    (ready : prepareOptional source m = (.ok fields,m')) :
    ∀ fs, fields = some fs → Field.distinctIds fs = true := by
  rintro fs rfl
  obtain ⟨_,_,_,prepared⟩ := prepareOptionalReady ready
  exact (prepareDistinct prepared).1

theorem statusKnown (t : Status) : Status.read (.str t.name) = .ok t := by
  cases t <;> rfl

theorem bindOk {x : Except ε α} {f : α → Except ε β} {b : β} :
    (x >>= f) = .ok b ↔ ∃ a, x = .ok a ∧ f a = .ok b := by
  cases x <;> simp [bind,Except.bind]

theorem readPatchNamed {v : Value} {p : Patch} (ok : readPatch v = .ok p) :
    ∃ status : Option Status, p.status = status.map (fun t => .str t.name) := by
  simp only [readPatch,bindOk,pure,Except.pure] at ok
  obtain ⟨patch,-,title,-,description,-,status,-,rest⟩ := ok
  refine ⟨status,?_⟩
  split at rest <;> obtain ⟨settings,-,last⟩ := bindOk.mp rest <;> cases last <;> rfl

theorem readPatchStatus {v : Value} {p : Patch} (ok : readPatch v = .ok p) :
    ∀ given, p.status = some given → ∃ t, Status.read given = .ok t := by
  obtain ⟨status,named⟩ := readPatchNamed ok
  intro given some
  rw [named] at some
  obtain ⟨t,-,rfl⟩ := Option.map_eq_some_iff.mp some
  exact ⟨t,statusKnown t⟩

end Service
end FormBuilder
