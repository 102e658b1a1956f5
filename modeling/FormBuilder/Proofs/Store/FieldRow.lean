import FormBuilder.Proofs.Dumped
import FormBuilder.Proofs.Field.Carried
import FormBuilder.Store.Row
/-! Fields read back from the rows they were written to. All comes back of a field that can be stored, but for
numbers that are not finite in what its condition compares with, and the field knows the row it came from. -/
namespace FormBuilder

def Condition.kept (c : Condition) : Condition := c.dumped.named

def Field.kept (row : Int) (f : Field) : Field :=
  { f with
    persistedId := some (toString row)
    common := { f.common with condition := f.common.condition.map Condition.kept } }

theorem settingsRestored (id form : Int) (f : Field) : f.dumped.CarriedTo (FieldRow.ofField id form f).settings := by
  have value (name : String) : (FieldRow.ofField id form f).settings.value? name =
      if name = "required" then some (.bool f.required)
      else if name = "placeholder" then f.common.placeholder.map .str
      else (f.dumped.config .wire).value? name := by
    cases placeholder : f.common.placeholder with
    | none =>
      simp only [FieldRow.settings,FieldRow.ofField,placeholder,Object.valuePut,Object.valueWithout,Key.required,
        Key.placeholder,@eq_comm _ _ name]
      split
      · rfl
      · split <;> rfl
    | some p =>
      simp only [FieldRow.settings,FieldRow.ofField,placeholder,Object.valuePut,Object.valueWithout,Key.required,
        Key.placeholder,@eq_comm _ _ name]
      by_cases required : name = "required"
      · simp [required]
      · by_cases hidden : name = "placeholder" <;> simp [required,hidden]
  constructor
  · simp only [value,Key.required,if_true]
    rfl
  · simp only [value,Key.placeholder]
    rfl
  · rw [value,fieldConfig]
    simp [Key.condition]
  · intro name other
    simp only [List.mem_cons,List.not_mem_nil,or_false,not_or] at other
    rw [value,fieldConfig]
    simp only [other,if_false]

theorem ofFieldReadsBack (id form : Int) (f : Field) :
    (FieldRow.ofField id form f).toField = .ok (f.kept id) := by
  let r := FieldRow.ofField id form f
  let raw : Object := [("id",.str f.id),("persisted_id",.str (toString id)),("type",.str f.type.name),
    ("label",.str f.label),("order",.ofNat f.order),("config",.object r.settings)]
  have unfolded : Field.foldFlat raw = raw := by
    simp [Field.foldFlat,raw,Field.isFlat,Field.flatKeys]
  have settings : Field.settingsOf f.type raw = .ok ((f.kept id).common,(f.kept id).kind) := by
    refine (settingsCarried (settingsRestored id form f) rfl).trans ?_
    simp only [Field.condition,Field.dumped,Option.map_map]
    rfl
  have parts : Field.Parts "" f.type (Field.foldFlat raw) (f.kept id) := by
    rw [unfolded]
    exact ⟨rfl,rfl,rfl,Object.readAtGiven (Object.givenCamel rfl) (Scalar.readNat f.order) _,settings⟩
  exact Field.partsRead rfl parts

end FormBuilder
