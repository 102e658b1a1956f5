import FormBuilder.Field.Read
import FormBuilder.Proofs.Object
/-! What each part of a field that was read came from. -/
namespace FormBuilder

theorem Scalar.readNat (n : Nat) : nat (.ofNat n) = .ok n := by
  have counted : ¬ (n : Int) < 0 := by omega
  simp only [Value.ofNat,nat,atLeast,int,if_neg counted]
  rfl

namespace Field

structure Parts (fresh : String) (t : FieldType) (raw : Object) (f : Field) : Prop where
  id : raw.readAt Key.id.names fresh Scalar.text = .ok f.id
  persistedId : raw.readAt persistedIdNames none (Scalar.optional Scalar.text) = .ok f.persistedId
  label : raw.readAt Key.label.names "" Scalar.text = .ok f.label
  order : raw.readAt Key.order.names 0 Scalar.nat = .ok f.order
  settings : settingsOf t raw = .ok (f.common,f.kind)

theorem partsSound {fresh : String} {t : FieldType} {raw : Object} {f : Field} (ok : ofObject fresh t raw = .ok f) :
    Parts fresh t (foldFlat raw) f := by
  simp only [ofObject,Checked.partOk,Checked.mapOk] at ok
  obtain ⟨_,settings,⟨_,_,⟨_,_,⟨_,_,⟨_,id,rfl⟩,persisted,rfl⟩,label,rfl⟩,order,rfl⟩,given,rfl⟩ := ok
  exact ⟨id,persisted,label,order,given⟩

theorem partsComplete {fresh : String} {t : FieldType} {raw : Object} {f : Field}
    (parts : Parts fresh t (foldFlat raw) f) : ofObject fresh t raw = .ok f := by
  simp only [ofObject,parts.id,parts.persistedId,parts.label,parts.order,parts.settings]
  rfl

theorem readParts {fresh : String} {v : Value} {f : Field} (ok : read fresh v = .ok f) :
    ∃ t raw, tagged v = .ok (t,raw) ∧ Parts fresh t (foldFlat raw) f := by
  unfold read at ok
  split at ok
  · contradiction
  · rename_i t raw tag
    exact ⟨t,raw,tag,partsSound (Checked.underOk.mp ok)⟩

theorem taggedKnown {t : FieldType} {raw : Object} (kind : raw.value? "type" = some (.str t.name)) :
    tagged (.object raw) = .ok (t,raw) := by
  simp only [tagged,kind,FieldType.ofNameName]

theorem partsRead {fresh : String} {t : FieldType} {raw : Object} {f : Field} (kind : raw.value? "type" = some (.str t.name))
    (parts : Parts fresh t (foldFlat raw) f) : read fresh (.object raw) = .ok f := by
  rw [read,taggedKnown kind]
  exact Checked.underOk.mpr (partsComplete parts)

theorem taggedRaw {v : Value} {t : FieldType} {raw : Object} (tag : tagged v = .ok (t,raw)) : v = .object raw := by
  unfold tagged at tag
  split at tag <;> try contradiction
  split at tag <;> try contradiction
  split at tag <;> try contradiction
  cases tag
  rfl

theorem foldFlatKeeps (raw : Object) {name : String} (own : isFlat name = false) (other : name ≠ "config") :
    (foldFlat raw).value? name = raw.value? name := by
  have rest : Object.value? (raw.filter (fun e => !isFlat e.1)) name = raw.value? name := by
    rw [Object.valueKept raw (fun k => !isFlat k) name,own]
    rfl
  have moved (v : Value) : Object.value? (Object.put (raw.filter (fun e => !isFlat e.1)) "config" v) name = raw.value? name := by
    rw [Object.valuePut,if_neg other.symm,rest]
  unfold foldFlat
  dsimp only
  split
  · rfl
  · split
    · exact moved _
    · exact moved _
    · exact moved _
    · rfl

end Field
end FormBuilder
