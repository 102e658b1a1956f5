import FormBuilder.Proofs.Rule.Stored
import FormBuilder.Proofs.Schema.Verdicts
/-! What it changes that an answer is required: a field that requires one takes what it would take anyway, but for
the answers that are missing, and makes the same of it. -/
namespace FormBuilder

namespace Field

def eased (f : Field) : Field := { f with common := { f.common with required := false } }

theorem easedExact {f : Field} (judged : f.type ≠ .file) (given made : Value) : f.verdict given = .ok made ↔
    (f.required = true → Rule.isMissing given = false) ∧ f.eased.verdict given = .ok made := by
  have free : f.eased.required = false := rfl
  have kind : f.eased.kind = f.kind := rfl
  rw [verdictExact judged,verdictExact (f := f.eased) judged,free,kind]
  simp

theorem easedTakes {f : Field} {given made : Value} (took : f.verdict given = .ok made) :
    f.eased.verdict given = .ok made := by
  by_cases file : f.type = .file
  · rw [← took,fileTaken file,fileTaken (f := f.eased) file]
  · exact ((easedExact file given made).mp took).2

theorem easedRefuses {f : Field} {given made : Value} (took : f.eased.verdict given = .ok made) :
    (¬ ∃ v, f.verdict given = .ok v) ↔ f.type ≠ .file ∧ f.required = true ∧ Rule.isMissing given = true := by
  by_cases file : f.type = .file
  · simp [file,fileTaken file]
  · have same : (∃ v, f.verdict given = .ok v) ↔ (f.required = true → Rule.isMissing given = false) := by
      simp only [easedExact file,took]
      simp
    rw [same]
    simp [file]

end Field

namespace Schema

theorem missingExact (answer : Option Value) : Rule.isMissing (answer.getD .null) = true ↔
    ∀ v, answer = some v → v = .null ∨ v = .str "" ∨ v = .list [] ∨ v = .object [] := by
  cases answer with
  | none => simp [Rule.isMissing]
  | some v => cases v <;> simp [Rule.isMissing]

def eased (chosen : Nat → Bool) (fields : List Field) : List Field :=
  fields.mapIdx (fun i f => if chosen i then f.eased else f)

theorem easedAt (chosen : Nat → Bool) (fields : List Field) (i : Nat) :
    (eased chosen fields)[i]? = fields[i]?.map (fun f => if chosen i then f.eased else f) := List.getElem?_mapIdx

theorem easedAlike {chosen : Nat → Bool} {fields : List Field} {payload : Object}
    (takes : ∀ f ∈ fields, f.isLayout = false → ∃ v, f.judged payload = .ok v) :
    List.Forall₂ (Field.SameEnd payload payload) fields (eased chosen fields) := by
  refine List.forall₂_iff_get.mpr ⟨by simp [eased],fun i inside _ => ?_⟩
  have now : (eased chosen fields).get ⟨i,by simpa [eased] using inside⟩ = if chosen i then (fields[i]).eased else fields[i] := by
    simp [eased]
  rw [now,List.get_eq_getElem]
  split
  · refine ⟨rfl,rfl,fun asked => ?_⟩
    obtain ⟨v,took⟩ := takes fields[i] (List.getElem_mem inside) asked
    rw [took]
    exact (Field.easedTakes took).symm
  · exact ⟨rfl,rfl,fun _ => rfl⟩

theorem easedRefused {chosen : Nat → Bool} {fields : List Field} {payload data : Object}
    (passed : validateSubmission (eased chosen fields) (.object payload) = .ok data) :
    (∃ errors, validateSubmission fields (.object payload) = .error errors) ↔
      ∃ i f, fields[i]? = some f ∧ chosen i = true ∧ f.required = true ∧ f.isLayout = false ∧ f.type ≠ .file ∧
        Rule.isMissing ((payload.value? f.valueKey).getD .null) = true := by
  have takes := (passesWhen (eased chosen fields) payload).mp ⟨data,passed⟩
  have refused : (∃ errors, validateSubmission fields (.object payload) = .error errors) ↔
      ¬ ∃ data, validateSubmission fields (.object payload) = .ok data := by
    cases validateSubmission fields (.object payload) <;> simp
  have passed : ∀ (i : Nat) (f : Field), fields[i]? = some f → f.isLayout = false →
      ∃ v, (if chosen i then f.eased else f).judged payload = .ok v := by
    intro i f there asked
    have among : (if chosen i then f.eased else f) ∈ eased chosen fields :=
      List.mem_of_getElem? ((easedAt chosen fields i).trans (by rw [there,Option.map_some]))
    refine takes _ (List.mem_filter.mpr ⟨among,?_⟩)
    have same : (if chosen i then f.eased else f).isLayout = f.isLayout := by split <;> rfl
    simp [same,asked]
  rw [refused,passesWhen]
  constructor
  · intro stuck
    simp only [List.mem_filter,Bool.not_eq_true',not_forall,and_imp] at stuck
    obtain ⟨f,member,asked,refuses⟩ := stuck
    obtain ⟨i,there⟩ := List.getElem?_of_mem member
    obtain ⟨v,took⟩ := passed i f there asked
    cases switched : chosen i with
    | false =>
      rw [switched] at took
      exact absurd ⟨v,took⟩ refuses
    | true =>
      rw [switched] at took
      obtain ⟨judged,required,missing⟩ := (Field.easedRefuses took).mp refuses
      exact ⟨i,f,there,switched,required,asked,judged,missing⟩
  · rintro ⟨i,f,there,switched,required,asked,judged,missing⟩ all
    obtain ⟨v,took⟩ := passed i f there asked
    rw [switched] at took
    have own := all f (List.mem_filter.mpr ⟨List.mem_of_getElem? there,by simp [asked]⟩)
    exact (Field.easedRefuses took).mpr ⟨judged,required,missing⟩ own

end Schema

/-- Where some of the fields no longer require an answer, what was accepted still is, with the same data. Of what is
accepted then, exactly that was refused in which the answer to such a field is missing, null or empty: a field that
holds answers, and no files. -/
theorem requiredAnswersThere (fields : List Field) (chosen : Nat → Bool) (payload : Value) :
    (∀ data, validateSubmission fields payload = .ok data →
      validateSubmission (Schema.eased chosen fields) payload = .ok data) ∧
    ∀ data, validateSubmission (Schema.eased chosen fields) payload = .ok data →
      ((∃ errors, validateSubmission fields payload = .error errors) ↔
        ∃ (i : Nat) (f : Field) (given : Object), fields[i]? = some f ∧ chosen i = true ∧ f.required = true ∧
          f.isLayout = false ∧ f.type ≠ .file ∧ payload = .object given ∧
          ∀ v, given.value? f.valueKey = some v → v = .null ∨ v = .str "" ∨ v = .list [] ∨ v = .object []) := by
  constructor
  · intro data passed
    obtain ⟨given,rfl⟩ := Schema.passedObject passed
    rw [← passed]
    refine (Schema.validateAlike (Schema.easedAlike fun f member asked => ?_)).symm
    exact (Schema.passesWhen fields given).mp ⟨data,passed⟩ f (List.mem_filter.mpr ⟨member,by simp [asked]⟩)
  · intro data passed
    obtain ⟨given,rfl⟩ := Schema.passedObject passed
    rw [Schema.easedRefused passed]
    simp [Schema.missingExact]

theorem blankTextRefused :
    let name : Field := ⟨"a",none,"Name",0,⟨true,none,none⟩,.text⟩
    let optional := Schema.eased (fun _ => true) [name]
    let blank : Object := [("name",.str "")]
    let filled : Object := [("name",.str "Ada")]
    validateSubmission [name] (.object filled) = .ok filled ∧ validateSubmission optional (.object filled) = .ok filled ∧
    validateSubmission optional (.object blank) = .ok blank ∧
    ∃ errors, validateSubmission [name] (.object blank) = .error errors := by
  intro name optional blank filled
  have key : name.valueKey = "name" := (Text.valueKeyAscii (by decide)).trans (by decide)
  have given : name.verdict (.str "Ada") = .ok (.str "Ada") := rfl
  have kept : name.eased.verdict (.str "") = .ok (.str "") := rfl
  have passed : validateSubmission [name] (.object filled) = .ok filled := by
    have alone := Schema.validateAlone rfl given rfl
    rwa [key] at alone
  have eased : validateSubmission optional (.object blank) = .ok blank := by
    have alone := Schema.validateAlone rfl kept rfl
    rwa [show name.eased.valueKey = "name" from key] at alone
  refine ⟨passed,(requiredAnswersThere [name] (fun _ => true) (.object filled)).1 _ passed,eased,?_⟩
  refine ((requiredAnswersThere [name] (fun _ => true) (.object blank)).2 _ eased).mpr
    ⟨0,name,blank,rfl,rfl,rfl,rfl,by decide,rfl,fun v answer => ?_⟩
  rw [key] at answer
  exact .inr (.inl (Option.some.inj answer).symm)

end FormBuilder
