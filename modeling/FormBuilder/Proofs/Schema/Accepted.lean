import FormBuilder.Proofs.Rule.Stored
import FormBuilder.Proofs.Schema.Verdicts
/-! Data that a schema gave out is taken once more and comes back as it is: each kind of field accepts what it makes
of an answer, and makes the same of it. -/
namespace FormBuilder

theorem Number.there (n : Number) : Rule.isMissing n.toValue = false := by cases n <;> rfl

theorem Number.given (n : Number) (k : Kind) : k.isAbsent n.toValue = false := by cases n <;> rfl

theorem Kind.checkMade {k : Kind} {given made : Value} (took : k.check given = .ok made) :
    k.check made = .ok made ∧ (made = given ∨ ∃ n : Number, made = n.toValue) := by
  cases k with
  | number least most =>
    obtain ⟨n,own,-,again⟩ := Rule.numberAgain took
    exact ⟨again,.inr ⟨n,own⟩⟩
  | rating scale =>
    obtain ⟨n,own,again⟩ := Rule.ratingAgain took
    exact ⟨again,.inr ⟨.int n,own⟩⟩
  | checkbox options | ranking options =>
    obtain ⟨items,rfl,rfl,-⟩ := Rule.optionsTook took
    exact ⟨took,.inl rfl⟩
  | matrix rows columns =>
    obtain ⟨entries,rfl,rfl,-⟩ := Rule.rowsTook took
    exact ⟨took,.inl rfl⟩
  | file types most | pageBreak | divider => exact ⟨rfl,.inl (Except.ok.inj took).symm⟩
  | email | url | date | phone | text | longtext help | radio options | dropdown options | pictureChoice options images
  | signature =>
    obtain ⟨t,rfl,rfl,-⟩ := Rule.textTook took
    exact ⟨took,.inl rfl⟩

theorem Field.verdictAgain {f : Field} {given made : Value} (took : f.verdict given = .ok made) :
    f.verdict made = .ok made := by
  by_cases file : f.type = .file
  · exact fileTaken file made
  obtain ⟨there,⟨absent,rfl⟩ | ⟨here,check⟩⟩ := (verdictExact file given made).mp took
  · refine (verdictExact file .null .null).mpr ⟨fun required => ?_,.inl ⟨rfl,rfl⟩⟩
    exact absurd (there required) (by simp [Kind.absentMissing absent])
  · obtain ⟨again,rfl | ⟨n,rfl⟩⟩ := Kind.checkMade check
    · exact took
    · exact (verdictExact file _ _).mpr ⟨fun _ => n.there,.inr ⟨n.given f.kind,again⟩⟩

namespace Schema

theorem judgedAgain {fields : List Field} {payload data : Object}
    (distinct : ((fields.filter (fun f => !f.isLayout)).map Field.valueKey).Nodup)
    (passed : validateSubmission fields (.object payload) = .ok data) :
    ∀ f ∈ fields.filter (fun f => !f.isLayout), f.judged data = f.judged payload := by
  intro f asked
  obtain ⟨made,took⟩ := (passesWhen fields payload).mp ⟨data,passed⟩ f asked
  have read : (data.value? f.valueKey).getD .null = made := by
    rw [keptAlone distinct passed f asked,took]
    cases made <;> rfl
  rw [took,Field.judged,read]
  exact Field.verdictAgain took

end Schema

/-- Where no two fields that are asked have the same key, data that were accepted are accepted once more, and come
back as they are. -/
theorem acceptedDataStand {fields : List Field} {payload : Value} {data : Object}
    (distinct : ((fields.filter (fun f => !f.isLayout)).map Field.valueKey).Nodup)
    (passed : validateSubmission fields payload = .ok data) : validateSubmission fields (.object data) = .ok data := by
  obtain ⟨given,rfl⟩ := Schema.passedObject passed
  rw [← passed]
  refine Schema.validateAlike (List.forall₂_same.mpr fun f member => ⟨rfl,rfl,fun asked => ?_⟩)
  exact Schema.judgedAgain distinct passed f (List.mem_filter.mpr ⟨member,by simp [asked]⟩)

theorem readNumbersStand :
    let size : Field := ⟨"a",none,"Size",0,⟨true,none,none⟩,.number (some .zero) none⟩
    let stars : Field := ⟨"b",none,"Stars",1,⟨false,none,none⟩,.rating .default⟩
    let payload : Object := [("stars",.str "4.0"),("size",.str " 12.50 "),("other",.null)]
    let data : Object := [("size",.float (.ofRatio false 25 2)),("stars",.int 4)]
    (([size,stars].filter (fun f => !f.isLayout)).map Field.valueKey).Nodup ∧
    validateSubmission [size,stars] (.object payload) = .ok data ∧
    validateSubmission [size,stars] (.object data) = .ok data := by
  intro size stars payload data
  have sizeKey : size.valueKey = "size" := (Text.valueKeyAscii (by decide)).trans (by decide)
  have starsKey : stars.valueKey = "stars" := (Text.valueKeyAscii (by decide)).trans (by decide)
  have half : Number.read? (.str " 12.50 ") = some (.float (.ofRatio false 25 2)) := by decide +kernel
  have positive : Number.below .zero (.float (.ofRatio false 25 2)) = false := by decide +kernel
  have four : ((Number.read? (.str "4.0")).getD (.int 0)).toInt? = some 4 := by decide +kernel
  have measured : size.verdict (.str " 12.50 ") = .ok (.float (.ofRatio false 25 2)) := by
    simp [size,Field.verdict,Field.required,Rule.isMissing,Kind.check,Rule.number,half,positive,Number.toValue]
  have rated : stars.verdict (.str "4.0") = .ok (.int 4) := by
    simp [stars,Field.verdict,Field.required,Kind.isAbsent,Kind.check,Rule.rating,four,Scale.default]
  have distinct : (([size,stars].filter (fun f => !f.isLayout)).map Field.valueKey).Nodup := by
    have asked : [size,stars].filter (fun f => !f.isLayout) = [size,stars] := rfl
    simp [asked,sizeKey,starsKey]
  have passed : validateSubmission [size,stars] (.object payload) = .ok data := by
    have slots : Schema.slotsFrom 0 [size,stars] = [⟨"field_0","size",size.verdict⟩,⟨"field_1","stars",stars.verdict⟩] := by
      rw [← sizeKey,← starsKey]
      rfl
    have judges := Schema.validateJudges [size,stars] payload
    simp only [slots] at judges
    rw [judges]
    simp [Schema.refusals,Schema.makings,Schema.named,Schema.Slot.verdict,payload,Object.valueCons,measured,rated,
      Schema.refused?,Schema.made?,Schema.answers,Object.put,data]
  exact ⟨distinct,passed,acceptedDataStand distinct passed⟩

end FormBuilder
