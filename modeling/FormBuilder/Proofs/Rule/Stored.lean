import FormBuilder.Proofs.Decimal.Whole
import FormBuilder.Proofs.Store.FieldRow
import FormBuilder.Proofs.Text.Cleaned
/-! What becomes of an answer that a field took, once it was cleaned to be stored: numbers, ratings and lists of
texts are taken again as they are, and so is a text, unless cleaning left nothing of what must be there, or
made a text of an address that is none. -/
namespace FormBuilder

def Value.stored (v : Value) : Value := Sanitize.valueWith Sanitize.clean v

namespace Number

theorem readValue (n : Number) : read? n.toValue = if n.isFinite then some n else none := by
  cases n <;> simp [read?,toValue,Option.filter]

theorem readFinite {v : Value} {n : Number} (read : read? v = some n) : n.isFinite = true := by
  unfold read? at read
  split at read
  · exact (Option.filter_eq_some_iff.mp read).2
  · exact (Option.filter_eq_some_iff.mp read).2
  · exact (Option.filter_eq_some_iff.mp read).2
  · contradiction

theorem storedSame (n : Number) : n.toValue.stored = n.toValue := by cases n <;> rfl

theorem wholeCases {number : Number} {n : Int} (whole : number.toInt? = some n) :
    number = .int n ∨ ∃ x : Dyadic64, number = .float (.finite x) ∧ x.units = n * Dyadic64.unitsPerOne := by
  cases number with
  | int m => exact .inl (congrArg int (Option.some.inj whole))
  | float x =>
    cases x with
    | nan | infinite => contradiction
    | finite x =>
      simp only [toInt?,Double.toInt?] at whole
      split at whole
      · rename_i integer
        exact .inr ⟨x,rfl,Option.some.inj whole ▸ Double.wholeUnits integer⟩
      · contradiction

theorem wholeFinite {number : Number} (finite : number.isFinite = true) {n : Int} (whole : number.toInt? = some n) :
    (Double.ofInt n).isFinite = true := by
  rcases wholeCases whole with rfl | ⟨x,rfl,own⟩
  · exact finite
  · obtain ⟨y,made,-⟩ := Double.ofIntWhole own
    rw [made]
    rfl

end Number

namespace Rule

theorem textTook {accepts : String → Bool} {refusal : Refusal} {v w : Value} (took : text accepts refusal v = .ok w) :
    ∃ t, v = .str t ∧ w = .str t ∧ accepts t = true := by
  unfold text at took
  split at took
  · split at took
    · rename_i t accepted
      exact ⟨t,rfl,(Except.ok.inj took).symm,accepted⟩
    · contradiction
  · contradiction

theorem optionsTook {v w : Value} (took : options v = .ok w) :
    ∃ items, v = .list items ∧ w = .list items ∧ items.all isText = true := by
  unfold options at took
  split at took
  · split at took
    · rename_i items texts
      exact ⟨items,rfl,(Except.ok.inj took).symm,texts⟩
    · contradiction
  · contradiction

theorem rowsTook {v w : Value} (took : rows v = .ok w) :
    ∃ entries, v = .object entries ∧ w = .object entries ∧ entries.all (fun e => isText e.2) = true := by
  unfold rows at took
  split at took
  · split at took
    · rename_i entries texts
      exact ⟨entries,rfl,(Except.ok.inj took).symm,texts⟩
    · contradiction
  · contradiction

theorem numberAgain {least most : Option Double} {v w : Value} (took : number least most v = .ok w) :
    ∃ n : Number, w = n.toValue ∧ w.stored = w ∧ number least most w = .ok w := by
  unfold number at took
  split at took
  · contradiction
  rename_i n read
  have finite := Number.readFinite read
  split at took
  · contradiction
  rename_i above
  split at took
  · contradiction
  rename_i below
  cases Except.ok.inj took
  refine ⟨n,rfl,Number.storedSame n,?_⟩
  simp [number,Number.readValue,finite,above,below]

theorem ratingAgain {scale : Scale} {v w : Value} (took : rating scale v = .ok w) :
    ∃ n : Int, w = .int n ∧ rating scale w = .ok w := by
  unfold rating at took
  split at took
  · contradiction
  rename_i n whole
  split at took
  · contradiction
  rename_i least
  split at took
  · contradiction
  rename_i most
  cases Except.ok.inj took
  have finite : (Double.ofInt n).isFinite = true := by
    cases read : Number.read? v with
    | none =>
      rw [read] at whole
      cases Option.some.inj whole
      omega
    | some number =>
      rw [read,Option.getD_some] at whole
      exact Number.wholeFinite (Number.readFinite read) whole
  have read : Number.read? (.int n) = some (.int n) := by
    have read := Number.readValue (.int n)
    rwa [Number.isFinite,finite,if_pos rfl] at read
  refine ⟨n,rfl,?_⟩
  simp [rating,read,Number.toInt?,least,most]

theorem keptText {v : Value} (text : isText v = true) : isText (Sanitize.textWith Sanitize.clean v) = true := by
  cases v with
  | str t => rfl
  | _ => exact absurd text (by simp [isText])

theorem textsStored {items : List Value} (texts : items.all isText = true) :
    ∃ kept, (Value.list items).stored = .list kept ∧ kept.all isText = true ∧ kept.isEmpty = items.isEmpty := by
  refine ⟨_,rfl,?_,by simp⟩
  simp only [List.all_map,List.all_eq_true] at texts ⊢
  exact fun v member => keptText (texts v member)

theorem rowsStored {entries : Object} (texts : entries.all (fun e => isText e.2) = true) :
    ∃ kept : Object, (Value.object entries).stored = .object kept ∧ kept.all (fun e => isText e.2) = true ∧
      kept.isEmpty = entries.isEmpty := by
  refine ⟨_,rfl,?_,by simp⟩
  simp only [List.all_map,List.all_eq_true] at texts ⊢
  exact fun e member => keptText (texts e member)

theorem textPasses {accepts : String → Bool} {refusal : Refusal} {t : String} :
    (∃ u, text accepts refusal (.str t) = .ok u) ↔ accepts t = true := by
  cases accepted : accepts t <;> simp [text,accepted]

end Rule

open Sanitize (clean)

theorem Kind.isText {k : Kind} (text : k.type = .text) : k = .text := by
  cases k with
  | text => rfl
  | _ => cases text

theorem Kind.absentMissing {k : Kind} {v : Value} (absent : k.isAbsent v = true) : Rule.isMissing v = true := by
  cases v with
  | null => rfl
  | str t => exact (Bool.and_eq_true_iff.mp absent).2
  | _ => contradiction

theorem Kind.checkAgain {k : Kind} (judged : k.type ≠ .file) (asked : k.type.isLayout = false) {given made : Value}
    (took : k.check given = .ok made) :
    (∃ t, made = .str t ∧ ((k.isAbsent (.str (clean t)) = true ∨ ∃ u, k.check (.str (clean t)) = .ok u) ↔
      (k = .url → clean t = "" ∨ Address.isUrl (clean t) = true))) ∨
    ((∀ t, made.stored ≠ .str t) ∧ (Rule.isMissing given = false → Rule.isMissing made.stored = false) ∧
      ∃ u, k.check made.stored = .ok u) := by
  cases k with
  | file types most => exact absurd rfl judged
  | pageBreak | divider => cases asked
  | email =>
    obtain ⟨t,-,rfl,email⟩ := Rule.textTook took
    refine .inl ⟨t,rfl,?_⟩
    rw [Sanitize.cleanSolid (Address.emailSolid email)]
    simp [Kind.check,Rule.textPasses,email]
  | date =>
    obtain ⟨t,-,rfl,date⟩ := Rule.textTook took
    refine .inl ⟨t,rfl,?_⟩
    rw [Sanitize.cleanSolid (Rule.dateSolid date)]
    simp [Kind.check,Rule.textPasses,date]
  | phone =>
    obtain ⟨t,-,rfl,phone⟩ := Rule.textTook took
    refine .inl ⟨t,rfl,?_⟩
    have trimmed := Rule.phoneTrimmed phone
    generalize clean t = kept at trimmed
    simp only [Kind.check,Kind.isAbsent,Kind.emptyIsAbsent,Rule.textPasses,trimmed]
    cases kept.isEmpty <;> simp
  | url =>
    obtain ⟨t,-,rfl,-⟩ := Rule.textTook took
    refine .inl ⟨t,rfl,?_⟩
    simp [Kind.check,Kind.isAbsent,Kind.emptyIsAbsent,Rule.textPasses]
  | number least most =>
    obtain ⟨n,rfl,stored,again⟩ := Rule.numberAgain took
    rw [stored]
    refine .inr ⟨?_,?_,_,again⟩
    · cases n <;> exact fun t same => (nomatch same)
    · cases n <;> exact fun _ => rfl
  | rating scale =>
    obtain ⟨n,rfl,again⟩ := Rule.ratingAgain took
    exact .inr ⟨fun t same => (nomatch same),fun _ => rfl,_,again⟩
  | checkbox options | ranking options =>
    obtain ⟨items,rfl,rfl,texts⟩ := Rule.optionsTook took
    obtain ⟨kept,stored,texts,same⟩ := Rule.textsStored texts
    rw [stored]
    refine .inr ⟨fun t other => (nomatch other),fun there => same.trans there,.list kept,?_⟩
    simp [Kind.check,Rule.options,texts]
  | matrix rows columns =>
    obtain ⟨entries,rfl,rfl,texts⟩ := Rule.rowsTook took
    obtain ⟨kept,stored,texts,same⟩ := Rule.rowsStored texts
    rw [stored]
    refine .inr ⟨fun t other => (nomatch other),fun there => same.trans there,.object kept,?_⟩
    simp [Kind.check,Rule.rows,texts]
  | text | longtext help | radio options | dropdown options | pictureChoice options images | signature =>
    obtain ⟨t,-,rfl,-⟩ := Rule.textTook took
    refine .inl ⟨t,rfl,?_⟩
    simp [Kind.check,Rule.textPasses]

namespace Field

theorem fileTaken {f : Field} (file : f.type = .file) (v : Value) : f.verdict v = .ok v := by
  obtain ⟨_,_,_,_,_,kind⟩ := f
  cases kind with
  | file types most => rfl
  | _ => cases file

theorem verdictExact {f : Field} (judged : f.type ≠ .file) (given made : Value) : f.verdict given = .ok made ↔
    (f.required = true → Rule.isMissing given = false) ∧
      (f.kind.isAbsent given = true ∧ made = .null ∨ f.kind.isAbsent given = false ∧ f.kind.check given = .ok made) := by
  unfold verdict
  split
  · rename_i kind
    exact absurd (congrArg Kind.type kind) judged
  · cases f.required <;> simp [Rule.isMissing,Kind.isAbsent,eq_comm]
  · rename_i given _ _ _ kind some
    have here : f.kind.isAbsent given = false := by
      rw [kind]
      cases given with
      | null => exact absurd rfl some
      | _ => rfl
    have check : f.kind.check given = Rule.options given := by rw [kind,Kind.check]
    rw [here,check]
    cases took : Rule.options given with
    | error e => simp
    | ok chosen =>
      obtain ⟨items,rfl,rfl,-⟩ := Rule.optionsTook took
      generalize Value.list items = chosen
      cases f.required <;> cases missing : Rule.isMissing chosen <;> simp [missing]
  · rename_i given _ _ _ _ _
    cases absent : f.kind.isAbsent given with
    | true => cases f.required <;> simp [Kind.absentMissing absent,eq_comm]
    | false => cases f.required <;> cases Rule.isMissing given <;> simp

theorem verdictPasses {f : Field} (judged : f.type ≠ .file) (given : Value) :
    (∃ u, f.verdict given = .ok u) ↔ (f.required = true → Rule.isMissing given = false) ∧
      (f.kind.isAbsent given = true ∨ ∃ u, f.kind.check given = .ok u) := by
  simp only [verdictExact judged]
  cases f.kind.isAbsent given <;> simp

theorem verdictMade {f : Field} {given made : Value} (judged : f.type ≠ .file) (took : f.verdict given = .ok made) :
    (made = .null ∧ f.required = false) ∨ f.kind.check given = .ok made := by
  obtain ⟨there,⟨absent,none⟩ | ⟨-,check⟩⟩ := (verdictExact judged given made).mp took
  · refine .inl ⟨none,Bool.eq_false_iff.mpr fun required => ?_⟩
    exact absurd (there required) (by simp [Kind.absentMissing absent])
  · exact .inr check

def Bears (f : Field) (t : String) : Prop :=
  (f.required = true → t ≠ "") ∧ (f.kind = .url → t = "" ∨ Address.isUrl t = true)

theorem storedPasses {f : Field} (judged : f.type ≠ .file) (asked : f.isLayout = false) {given made : Value}
    (took : f.verdict given = .ok made) :
    (∃ u, f.verdict made.stored = .ok u) ↔ ∀ t, made.stored = .str t → f.Bears t := by
  have there := ((verdictPasses judged given).mp ⟨made,took⟩).1
  rw [verdictPasses judged]
  rcases verdictMade judged took with ⟨rfl,spared⟩ | check
  · exact ⟨fun _ t text => (nomatch text),fun _ => ⟨fun required => (nomatch spared.symm.trans required),.inl rfl⟩⟩
  rcases Kind.checkAgain judged asked check with ⟨t,rfl,again⟩ | ⟨noText,still,again⟩
  · have stored : (Value.str t).stored = .str (clean t) := rfl
    rw [stored,again]
    simp [Bears,Rule.isMissing]
  · exact ⟨fun _ t text => absurd text (noText t),fun _ => ⟨fun required => still (there required),.inr again⟩⟩

end Field
end FormBuilder
