import FormBuilder.Proofs.Decimal.Compared
import FormBuilder.Visibility
import Mathlib.Data.List.Forall2
/-! Conditions compare numbers by their sizes and by the texts they are shown as. An integer and the binary64 number
that it is agree in both, so nothing that is shown depends on which of the two an answer or a condition holds. -/
namespace FormBuilder
open Dyadic64 (unitsPerOne)

namespace Value

mutual
inductive Respelt : Value → Value → Prop
  | same (v : Value) : Respelt v v
  | whole {x : Dyadic64} {n : Int} (own : x.units = n * unitsPerOne) : Respelt (.float (.finite x)) (.int n)
  | list {items others : List Value} (each : RespeltEach items others) : Respelt (.list items) (.list others)

inductive RespeltEach : List Value → List Value → Prop
  | nil : RespeltEach [] []
  | cons {v w : Value} {items others : List Value} (head : Respelt v w) (rest : RespeltEach items others) :
      RespeltEach (v :: items) (w :: others)
end

mutual
theorem Respelt.display {v w : Value} : Respelt v w → v.display = w.display
  | .same _ => rfl
  | .whole own => by
    obtain ⟨whole,integer⟩ := Double.unitsWhole own
    rw [Value.display,Value.display,Double.display,if_pos whole,integer]
  | .list each => by rw [Value.display,Value.display,each.display]

theorem RespeltEach.display {items others : List Value} : RespeltEach items others →
    displayEach items = displayEach others
  | .nil => rfl
  | .cons head rest => by rw [displayEach,displayEach,head.display,rest.display]
end

theorem Respelt.number {v w : Value} : Respelt v w → Double.Alike v.number w.number
  | .same _ => .refl _
  | .whole own => Double.equalAlike (Double.equalWhole own)
  | .list .nil => .refl _
  | .list (.cons head .nil) => head.number
  | .list (.cons _ (.cons _ _)) => .refl _

theorem Respelt.isBlank {v w : Value} (respelt : Respelt v w) : v.isBlank = w.isBlank := by
  cases respelt with
  | same => rfl
  | whole own => exact (Bool.or_false _).trans (Double.isZeroWhole own)
  | list each => exact congrArg Text.allBlank (Respelt.list each).display

end Value

namespace Answer
variable {answer other : Option Value}

theorem displayRespelt (respelt : Option.Rel Value.Respelt answer other) : display answer = display other := by
  cases respelt with
  | none => rfl
  | some respelt => exact respelt.display

theorem numberRespelt (respelt : Option.Rel Value.Respelt answer other) : Double.Alike (number answer) (number other) := by
  cases respelt with
  | none => exact .refl _
  | some respelt => exact respelt.number

theorem isBlankRespelt (respelt : Option.Rel Value.Respelt answer other) : isBlank answer = isBlank other := by
  cases respelt with
  | none => rfl
  | some respelt => exact respelt.isBlank

end Answer

namespace Condition

structure Respelt (c d : Condition) : Prop where
  target : c.target = d.target
  operator : c.operator = d.operator
  value : c.value.Respelt d.value

theorem compareRespelt {answer other : Option Value} {expected given : Value} (operator : Operator)
    (answers : Option.Rel Value.Respelt answer other) (values : expected.Respelt given) :
    compare operator answer expected = compare operator other given := by
  have shown := Answer.displayRespelt answers
  have sized := Answer.numberRespelt answers
  cases operator with
  | equals | notEquals | contains | notContains => simp only [compare,shown,values.display]
  | greaterThan => exact values.number.compared sized
  | lessThan => exact sized.compared values.number
  | isEmpty | isNotEmpty => simp only [compare,Answer.isBlankRespelt answers]
  | other name => rfl

end Condition

def Object.Respelt (answers others : Object) : Prop :=
  ∀ key, Option.Rel Value.Respelt (answers.value? key) (others.value? key)

namespace Field

structure Respelt (f g : Field) : Prop where
  condition : Option.Rel Condition.Respelt f.condition g.condition
  besides : g = { f with common := { f.common with condition := g.condition } }

theorem Respelt.refl (f : Field) : Respelt f f := by
  refine ⟨?_,rfl⟩
  cases f.condition with
  | none => exact .none
  | some c => exact .some ⟨rfl,rfl,.same c.value⟩

theorem Respelt.id {f g : Field} (respelt : Respelt f g) : f.id = g.id := (congrArg Field.id respelt.besides).symm

theorem Respelt.valueKey {f g : Field} (respelt : Respelt f g) : f.valueKey = g.valueKey :=
  (congrArg Field.valueKey respelt.besides).symm

theorem findRespelt {fields others : List Field} (respelt : List.Forall₂ Respelt fields others) (id : String) :
    Option.Rel Respelt (find? fields id) (find? others id) := by
  induction respelt with
  | nil => exact .none
  | cons head rest ih =>
    unfold find? at ih ⊢
    rw [List.find?_cons,List.find?_cons,head.id]
    split
    · exact .some head
    · exact ih

end Field

section
variable {fields others : List Field} {answers given : Object}

theorem Condition.holdsRespelt {c d : Condition} (fieldwise : List.Forall₂ Field.Respelt fields others)
    (answerwise : Object.Respelt answers given) (respelt : Respelt c d) :
    c.holds answers fields = d.holds given others := by
  have found := Field.findRespelt fieldwise d.target
  unfold holds
  rw [respelt.target,respelt.operator]
  generalize Field.find? fields d.target = target at found ⊢
  generalize Field.find? others d.target = other at found ⊢
  cases found with
  | none => rfl
  | @some f g same =>
    dsimp only
    rw [same.valueKey]
    exact compareRespelt d.operator (answerwise g.valueKey) respelt.value

theorem Field.visibleRespelt {f g : Field} (fieldwise : List.Forall₂ Respelt fields others)
    (answerwise : Object.Respelt answers given) (respelt : Respelt f g) :
    f.isVisible answers fields = g.isVisible given others := by
  have conditions := respelt.condition
  unfold isVisible
  generalize f.condition = c at conditions ⊢
  generalize g.condition = d at conditions ⊢
  cases conditions with
  | none => rfl
  | some same => exact Condition.holdsRespelt fieldwise answerwise same

end

/-- No condition tells an integer from the binary64 number that it is, in an answer or in what it compares with and
however deep in their lists. The same fields are shown. -/
theorem spellingUnseen {fields others : List Field} {answers given : Object}
    (fieldwise : List.Forall₂ Field.Respelt fields others) (answerwise : Object.Respelt answers given) :
    (∀ c d : Condition, c.Respelt d → c.holds answers fields = d.holds given others) ∧
    (∀ f g : Field, f.Respelt g → f.isVisible answers fields = g.isVisible given others) ∧
    List.Forall₂ Field.Respelt (Field.visible fields answers) (Field.visible others given) ∧
    Field.visible fields answers = Field.visible fields given := by
  have seen {f g : Field} (respelt : f.Respelt g) := Field.visibleRespelt fieldwise answerwise respelt
  refine ⟨fun c d => Condition.holdsRespelt fieldwise answerwise,fun f g => seen,?_,?_⟩
  · exact List.rel_filter (fun _ _ respelt => Bool.eq_iff_iff.mp (seen respelt)) fieldwise
  · have unchanged := List.forall₂_same.mpr fun f (_ : f ∈ fields) => Field.Respelt.refl f
    exact List.filter_congr fun f _ => Field.visibleRespelt unchanged answerwise (.refl f)

theorem nestedSpellingUnseen :
    let two : Dyadic64 := ⟨false,4503599627370496,-51,by decide⟩
    let asked : Field := ⟨"a",none,"Size",0,⟨false,none,none⟩,.text⟩
    let guarded (v : Value) : Field := ⟨"b",none,"Note",1,⟨false,none,some ⟨"a",.contains,v⟩⟩,.text⟩
    let fields := [asked,guarded (.float (.finite two))]
    let others := [asked,guarded (.int 2)]
    let answers : Object := [("size",.list [.float (.finite two),.list [.float (.finite (.zero true))]])]
    let given : Object := [("size",.list [.int 2,.list [.int 0]])]
    List.Forall₂ Field.Respelt fields others ∧ Object.Respelt answers given ∧
    List.Forall₂ Field.Respelt (Field.visible fields answers) (Field.visible others given) ∧
    Field.visible fields answers = Field.visible fields given := by
  intro two asked guarded fields others answers given
  have twoWhole : two.units = 2 * unitsPerOne := by decide +kernel
  have zeroWhole : (Dyadic64.zero true).units = 0 * unitsPerOne := by decide +kernel
  have fieldwise : List.Forall₂ Field.Respelt fields others :=
    .cons (.refl asked) (.cons ⟨.some ⟨rfl,rfl,.whole twoWhole⟩,rfl⟩ .nil)
  have answerwise : Object.Respelt answers given := by
    intro key
    simp only [answers,given,Object.value?]
    split
    · exact .some (.list (.cons (.whole twoWhole) (.cons (.list (.cons (.whole zeroWhole) .nil)) .nil)))
    · exact .none
  obtain ⟨-,-,shown,same⟩ := spellingUnseen fieldwise answerwise
  exact ⟨fieldwise,answerwise,shown,same⟩

end FormBuilder
