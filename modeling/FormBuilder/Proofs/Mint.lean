import FormBuilder.Proofs.Field.Ids
import FormBuilder.Text.Ranges
import Mathlib.Data.List.Nodup
/-! A mint makes no id twice: the count that an id ends with is read back from it. -/
namespace FormBuilder

namespace Text

def hexValue (n : Nat) (cs : List Char) : Nat := cs.foldl (fun n c => n * 16 + hexDigit c) n

theorem hexDigitOwn : ∀ d < 16, hexDigit (Nat.digitChar d) = d := by decide

theorem hexValueJoined (n : Nat) (cs more : List Char) : hexValue n (cs ++ more) = hexValue (hexValue n cs) more :=
  List.foldl_append

theorem hexValueDigits (n : Nat) : hexValue 0 (Nat.toDigits 16 n) = n := by
  induction n using Nat.strongRecOn with
  | ind n ih =>
    rw [Nat.toDigits_eq_if (by decide)]
    split
    · rename_i small
      simpa [hexValue] using hexDigitOwn n small
    · rename_i large
      rw [hexValueJoined,ih (n / 16) (by omega)]
      have last : hexValue (n / 16) [Nat.digitChar (n % 16)] = n / 16 * 16 + n % 16 :=
        congrArg (n / 16 * 16 + ·) (hexDigitOwn _ (Nat.mod_lt n (by decide)))
      omega

theorem hexValueText (width n : Nat) : hexValue 0 (hexText width n) = n := by
  have zeros (k : Nat) : hexValue 0 (List.replicate k '0') = 0 := by
    induction k with
    | zero => rfl
    | succ k ih => exact ih
  rw [hexText,hexValueJoined,zeros,hexValueDigits]

end Text

namespace Mint

theorem fieldIdCounts {m k : Mint} (time : m.millis = k.millis) (same : m.fieldId.1 = k.fieldId.1) :
    m.fieldIds = k.fieldIds := by
  have letters := String.ofList_injective same
  rw [time,List.append_cancel_left_eq] at letters
  have digits : Text.hexText 7 (m.fieldIds + 1) = Text.hexText 7 (k.fieldIds + 1) := (List.cons.inj letters).2
  have counts := congrArg (Text.hexValue 0) digits
  rw [Text.hexValueText,Text.hexValueText] at counts
  omega

theorem idsLater (m : Mint) (n : Nat) :
    ∀ id ∈ m.ids n, ∃ k : Mint, k.millis = m.millis ∧ m.fieldIds ≤ k.fieldIds ∧ id = k.fieldId.1 := by
  induction n generalizing m with
  | zero => exact List.forall_mem_nil _
  | succ n ih =>
    refine List.forall_mem_cons.mpr ⟨⟨m,rfl,Nat.le_refl _,rfl⟩,fun id member => ?_⟩
    obtain ⟨k,time,later,made⟩ := ih m.fieldId.2 id member
    exact ⟨k,time,Nat.le_trans (Nat.le_succ _) later,made⟩

theorem idsLength (m : Mint) (n : Nat) : (m.ids n).length = n := by
  induction n generalizing m with
  | zero => rfl
  | succ n ih => exact congrArg (· + 1) (ih m.fieldId.2)

theorem idsDistinct (m : Mint) (n : Nat) : (m.ids n).Nodup := by
  induction n generalizing m with
  | zero => exact List.nodup_nil
  | succ n ih =>
    refine List.nodup_cons.mpr ⟨fun again => ?_,ih m.fieldId.2⟩
    obtain ⟨k,time,later,made⟩ := idsLater m.fieldId.2 n _ again
    have count : m.fieldIds = k.fieldIds := fieldIdCounts time.symm made
    have next : m.fieldId.2.fieldIds = m.fieldIds + 1 := rfl
    omega

end Mint
end FormBuilder
