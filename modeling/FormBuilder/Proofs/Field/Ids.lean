import FormBuilder.Outline
import FormBuilder.Proofs.Field.Parts
/-! The ids of fields that were read: the ones given, and for the rest ids made up one after the other. -/
namespace FormBuilder

namespace Mint

def ids (m : Mint) : Nat → List String
  | 0 => []
  | n + 1 => m.fieldId.1 :: ids m.fieldId.2 n

-- What a mint handed out until it came to count as another one does.
def handedOut (m later : Mint) : List String := m.ids (later.fieldIds - m.fieldIds)

theorem handedNone (m : Mint) : m.handedOut m = [] := by
  rw [handedOut,Nat.sub_self,ids]

theorem handedCons {m later : Mint} (counted : m.fieldId.2.fieldIds ≤ later.fieldIds) :
    m.handedOut later = m.fieldId.1 :: m.fieldId.2.handedOut later := by
  have count : m.fieldId.2.fieldIds = m.fieldIds + 1 := rfl
  have one : later.fieldIds - m.fieldIds = (later.fieldIds - m.fieldId.2.fieldIds) + 1 := by omega
  rw [handedOut,one,ids,handedOut]

theorem handedOne (m : Mint) : m.handedOut m.fieldId.2 = [m.fieldId.1] := by
  rw [handedCons (Nat.le_refl _),handedNone]

end Mint

namespace Field

def givenId? : Value → Option String
  | .object raw =>
    match Object.value? raw "id" with
    | some (.str id) => some id
    | _ => none
  | _ => none

inductive Identified (v : Value) (m : Mint) (f : Field) : Mint → Prop where
  | given (own : givenId? v = some f.id) : Identified v m f m
  | fresh (none : givenId? v = none) (made : f.id = m.fieldId.1) : Identified v m f m.fieldId.2

theorem readId {fresh : String} {v : Value} {f : Field} (ok : read fresh v = .ok f) :
    takesFresh v = true ∧ givenId? v = none ∧ f.id = fresh ∨ takesFresh v = false ∧ givenId? v = some f.id := by
  obtain ⟨t,raw,tag,parts⟩ := readParts ok
  cases taggedRaw tag
  have own := parts.id
  have kept : (foldFlat raw).value? Key.id.camel = raw.value? "id" := foldFlatKeeps raw (by decide) (by decide)
  have takes : takesFresh (.object raw) = !(raw.value? "id").isSome := by simp [takesFresh,tag,Object.has]
  cases given : raw.value? "id" with
  | none =>
    rw [given] at kept
    rw [Object.readAtNone (Object.givenNone kept kept)] at own
    exact .inl ⟨by simp [takes,given],by simp [givenId?,given],(Except.ok.inj own).symm⟩
  | some v =>
    rw [given] at kept
    rw [Object.readAtCamel kept,Checked.underOk] at own
    cases v with
    | str id =>
      cases own
      exact .inr ⟨by simp [takes,given],by simp [givenId?,given]⟩
    | _ => contradiction

theorem parseIdentified {v : Value} {m m' : Mint} {f : Field} (ok : parse v m = (.ok f,m')) : Identified v m f m' := by
  unfold parse at ok
  split at ok
  · rename_i takes
    obtain ⟨read,rfl⟩ := Prod.mk.inj ok
    rcases readId read with ⟨-,none,made⟩ | ⟨given,-⟩
    · exact .fresh none made
    · rw [takes] at given
      contradiction
  · rename_i keeps
    obtain ⟨read,rfl⟩ := Prod.mk.inj ok
    rcases readId read with ⟨takes,-⟩ | ⟨-,own⟩
    · exact absurd takes keeps
    · exact .given own

theorem parseAllIds {items : List Value} {m m' : Mint} {fields : List Field} (ok : parseAll items m = (.ok fields,m')) :
    m.fieldIds ≤ m'.fieldIds ∧ (fields.map (·.id)).Perm (items.filterMap givenId? ++ m.handedOut m') := by
  induction items generalizing m fields with
  | nil =>
    cases ok
    exact ⟨Nat.le_refl _,by rw [Mint.handedNone]; exact .refl []⟩
  | cons v rest ih =>
    unfold parseAll at ok
    split at ok
    · simp at ok
    · rename_i f after head
      cases tail : parseAll rest after with
      | mk others last =>
        simp only [tail,Prod.mk.injEq,Checked.mapOk] at ok
        obtain ⟨⟨others,rfl,rfl⟩,rfl⟩ := ok
        obtain ⟨counted,same⟩ := ih tail
        rw [List.map_cons,List.filterMap_cons]
        cases parseIdentified head with
        | given own =>
          rw [own]
          exact ⟨counted,same.cons f.id⟩
        | fresh none made =>
          have before : m.fieldIds ≤ m.fieldId.2.fieldIds := Nat.le_succ _
          rw [none,Mint.handedCons counted,made]
          exact ⟨Nat.le_trans before counted,(same.cons _).trans List.perm_middle.symm⟩

end Field

theorem Item.fieldId {item : Item} {id : String} {order : Nat} {f : Field} (made : item.field? id order = some f) :
    f.id = id := by
  obtain ⟨s,-,rfl⟩ := Option.map_eq_some_iff.mp made
  rfl

theorem Outline.parseLinesIds (line order : Nat) (m : Mint) (lines : List (List Char)) :
    m.fieldIds ≤ (parseLines line order m lines).2.fieldIds ∧
    ((parseLines line order m lines).1.fields.map (·.id)).Sublist (m.handedOut (parseLines line order m lines).2) := by
  induction lines generalizing line order m with
  | nil => exact ⟨Nat.le_refl _,List.nil_sublist _⟩
  | cons raw rest ih =>
    have before : m.fieldIds ≤ m.fieldId.2.fieldIds := Nat.le_succ _
    unfold parseLines
    split
    · exact ih (line + 1) order m
    · rename_i item _
      dsimp only
      split
      · obtain ⟨counted,drawn⟩ := ih (line + 1) order m.fieldId.2
        exact ⟨Nat.le_trans before counted,Mint.handedCons counted ▸ drawn.cons _⟩
      · rename_i f made
        obtain ⟨counted,drawn⟩ := ih (line + 1) (order + 1) m.fieldId.2
        refine ⟨Nat.le_trans before counted,?_⟩
        rw [Mint.handedCons counted,List.map_cons,Item.fieldId made]
        exact drawn.cons_cons _

end FormBuilder
