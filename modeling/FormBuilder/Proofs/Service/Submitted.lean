import FormBuilder.Proofs.Rule.Stored
import FormBuilder.Proofs.Schema.Verdicts
import FormBuilder.Proofs.Service.Outcomes
import FormBuilder.Proofs.Text.Lower
/-! What is left in the store of a submission that was taken: its answers, cleaned after they were judged, in a row
of their own. Whether they would be taken once more depends on the texts that cleaning left. -/
namespace FormBuilder

def Object.stored (answers : Object) : Object := Sanitize.submission answers

theorem Object.valueStored (answers : Object) (name : String) :
    answers.stored.value? name = (answers.value? name).map Value.stored := by
  rw [stored,Sanitize.submission,Sanitize.submissionWith,valueMap]
  rfl

namespace Schema

theorem storedUnder {fields : List Field} {payload answers : Object}
    (distinct : ((fields.filter (fun f => !f.isLayout)).map Field.valueKey).Nodup)
    (passed : validateSubmission fields (.object payload) = .ok answers) :
    ∀ f ∈ fields.filter (fun f => !f.isLayout), ∃ made, f.judged payload = .ok made ∧
      f.judged answers.stored = f.verdict made.stored ∧
      ∀ t, answers.stored.value? f.valueKey = some (.str t) ↔ made.stored = .str t := by
  intro f asked
  obtain ⟨made,judged⟩ := (passesWhen fields payload).mp ⟨answers,passed⟩ f asked
  have kept : answers.stored.value? f.valueKey = made.present.map Value.stored := by
    rw [Object.valueStored,keptAlone distinct passed f asked,judged]
    rfl
  refine ⟨made,judged,?_⟩
  rw [Field.judged,kept]
  rcases presentCases made with ⟨absent,rfl⟩ | present
  · exact ⟨rfl,fun t => ⟨fun text => (nomatch text),fun text => (nomatch text)⟩⟩
  · rw [present]
    exact ⟨rfl,fun t => by rw [Option.map_some,Option.some.injEq]⟩

theorem storedPasses {fields : List Field} {payload answers : Object}
    (distinct : ((fields.filter (fun f => !f.isLayout)).map Field.valueKey).Nodup)
    (passed : validateSubmission fields (.object payload) = .ok answers) :
    (∃ again, validateSubmission fields (.object answers.stored) = .ok again) ↔
      ∀ f ∈ fields, f.isLayout = false → f.type ≠ .file →
        ∀ t, answers.stored.value? f.valueKey = some (.str t) → f.Bears t := by
  have fieldwise : ∀ f ∈ fields.filter (fun f => !f.isLayout), (∃ v, f.judged answers.stored = .ok v) ↔
      (f.type ≠ .file → ∀ t, answers.stored.value? f.valueKey = some (.str t) → f.Bears t) := by
    intro f asked
    obtain ⟨made,judged,again,text⟩ := storedUnder distinct passed f asked
    have asked : f.isLayout = false := by simpa using (List.mem_filter.mp asked).2
    rw [again]
    simp only [text]
    by_cases file : f.type = .file
    · exact ⟨fun _ other => absurd file other,fun _ => ⟨_,Field.fileTaken file _⟩⟩
    · rw [Field.storedPasses file asked judged]
      exact ⟨fun bears _ => bears,fun bears => bears file⟩
  rw [passesWhen]
  constructor
  · intro passes f member asked
    have among : f ∈ fields.filter (fun f => !f.isLayout) := List.mem_filter.mpr ⟨member,by simp [asked]⟩
    exact (fieldwise f among).mp (passes f among)
  · intro bears f among
    obtain ⟨member,asked⟩ := List.mem_filter.mp among
    exact (fieldwise f among).mpr (bears f member (by simpa using asked))

end Schema

namespace Service

theorem submitRow {s : Service} {slug client : String} {payload : Value} {sub : Submission}
    (taken : (s.submit slug payload client).2 = .ok sub) :
    ∃ form answers, s.store.getFormBySlug slug = .ok (some form) ∧ form.isPublished = true ∧ form.fields ≠ [] ∧
      validateSubmission form.fields payload = .ok answers ∧ sub.form = form.id.getD 0 ∧ sub.data = answers.stored ∧
      (s.submit slug payload client).1.store = { s.store with submissions := s.store.submissions ++ [sub] } := by
  obtain ⟨t,-,⟨fault,refused⟩ | ⟨form,answers,found,published,asked,passed,stores⟩⟩ :=
    submitSteps s slug payload client
  · rw [refused] at taken
    contradiction
  refine ⟨form,answers,found,published,asked,passed,?_⟩
  dsimp only at stores
  rw [stores] at taken ⊢
  dsimp only at taken ⊢
  cases made : (s.store.createSubmission t.mint.seconds (form.id.getD 0) (Sanitize.submission answers)).2 with
  | error fault => simp [made,Except.mapError] at taken
  | ok row =>
    simp only [made,Except.mapError,Except.ok.injEq] at taken
    subst taken
    exact Store.createSubmissionMade made

theorem submitTaken {s : Service} {slug client : String} {payload : Value} {sub : Submission}
    (taken : (s.submit slug payload client).2 = .ok sub) :
    ∃ form answers, s.store.getFormBySlug slug = .ok (some form) ∧ form.isPublished = true ∧
      validateSubmission form.fields payload = .ok answers ∧
      sub.data = answers.stored ∧ (s.submit slug payload client).1.store.submissions = s.store.submissions ++ [sub] := by
  obtain ⟨form,answers,found,published,-,passed,-,data,left⟩ := submitRow taken
  exact ⟨form,answers,found,published,passed,data,congrArg Store.submissions left⟩

/-- A submission is taken once its answers have passed, and leaves them in a row of their own, cleaned. They would
pass again exactly when none of the texts among them was spoilt by cleaning: left empty where an answer must be
given, or made into something that is no address of a page. Nothing else that was taken can be refused. -/
theorem storedAnswersPass {s : Service} {slug client : String} {payload : Value} {form : Form} {sub : Submission}
    (found : s.store.getFormBySlug slug = .ok (some form))
    (distinct : ((form.fields.filter (fun f => !f.isLayout)).map Field.valueKey).Nodup)
    (taken : (s.submit slug payload client).2 = .ok sub) :
    form.isPublished = true ∧ ∃ answers row, validateSubmission form.fields payload = .ok answers ∧
      (s.submit slug payload client).1.store.submissions = s.store.submissions ++ [row] ∧
      row.id = sub.id ∧ row.data = answers.stored ∧
      ((∃ again, validateSubmission form.fields (.object row.data) = .ok again) ↔
        ∀ f ∈ form.fields, f.isLayout = false → f.type ≠ .file →
          ∀ t, row.data.value? f.valueKey = some (.str t) → f.Bears t) := by
  obtain ⟨own,answers,same,published,passed,data,stored⟩ := submitTaken taken
  rw [found] at same
  cases same
  obtain ⟨given,rfl⟩ := Schema.passedObject passed
  refine ⟨published,answers,sub,passed,stored,rfl,data,?_⟩
  rw [data]
  exact Schema.storedPasses distinct passed

theorem submitPasses {s : Service} {slug : String} {payload : Value} {form : Form} {answers : Object}
    (unlimited : s.limiter = none) (found : s.store.getFormBySlug slug = .ok (some form))
    (published : form.isPublished = true) (asked : form.fields.isEmpty = false)
    (passed : validateSubmission form.fields payload = .ok answers)
    (finite : Value.finiteEntries answers.stored = true) (client : String) :
    ∃ sub, (s.submit slug payload client).2 = .ok sub := by
  obtain ⟨r,row,read⟩ := Store.formOfSome found
  obtain ⟨-,stored,done⟩ := Store.createSubmissionDone (· = r) noForm (List.mem_of_find?_eq_some row) rfl s.mint.seconds
    finite
  have counted : s.letIn client = (s,true) := by rw [letIn,unlimited]
  refine ⟨stored,?_⟩
  have done : (s.store.createSubmission s.mint.seconds r.id (Sanitize.submission answers)).2 = .ok stored := done
  simp [submit,counted,found,published,asked,passed,read.id,done,Except.mapError]

theorem nameAsked {fields : List Field}
    (own : fields.map (fun f => (f.label,f.required,f.kind.type)) = [("Name",true,.text)]) :
    ∃ f, fields = [f] ∧ f.valueKey = "name" ∧ f.required = true ∧ f.kind = .text := by
  have key : Text.valueKey "Name" = "name" := (Text.valueKeyAscii (by decide)).trans (by decide)
  obtain ⟨f,alone,same⟩ := List.map_eq_singleton_iff.mp own
  obtain ⟨label,same⟩ := Prod.mk.inj same
  obtain ⟨required,type⟩ := Prod.mk.inj same
  exact ⟨f,alone,by rw [Field.valueKey,label,key],required,Kind.isText type⟩

theorem markupStored :
    let field : Field := ⟨"a",none,"Name",0,⟨true,none,none⟩,.text⟩
    let s := (start none (.atSeconds 0)).play
      [.ask (.createForm "alice" (.str "T") .null .null (.ready [field])),.ask (.publishForm "alice" 1)]
    let payload : Object := [("name",.str "<b></b>")]
    ∃ form sub row, s.store.getFormBySlug "t" = .ok (some form) ∧ (s.submit "t" (.object payload) "here").2 = .ok sub ∧
      (s.submit "t" (.object payload) "here").1.store.submissions = [row] ∧
      row.data.value? "name" = some (.str "") ∧ ¬ ∃ again, validateSubmission form.fields (.object row.data) = .ok again := by
  intro field s payload
  have read : (s.store.getFormBySlug "t").toOption.join.any (fun form => form.isPublished &&
      form.fields.map (fun f => (f.label,f.required,f.kind.type)) == [("Name",true,.text)]) = true := by decide +kernel
  have unlimited : s.limiter = none := Option.isNone_iff_eq_none.mp (by decide +kernel)
  have before : s.store.submissions = [] := List.isEmpty_iff.mp (by decide +kernel)
  clear_value s
  obtain ⟨form,shown,own⟩ := (Option.any_eq_true _ _).mp read
  have found : s.store.getFormBySlug "t" = .ok (some form) := by
    have given := Option.join_eq_some_iff.mp shown
    cases outcome : s.store.getFormBySlug "t" with
    | error fault => simp [outcome,Except.toOption] at given
    | ok form => simpa [outcome,Except.toOption] using given
  rw [Bool.and_eq_true,beq_iff_eq] at own
  obtain ⟨published,own⟩ := own
  obtain ⟨f,fields,key,required,kind⟩ := nameAsked own
  have layout : f.isLayout = false := by rw [Field.isLayout,Field.type,kind]; rfl
  have asked : form.fields.filter (fun f => !f.isLayout) = [f] := by simp [fields,layout]
  have distinct : ((form.fields.filter (fun f => !f.isLayout)).map Field.valueKey).Nodup := by simp [asked]
  have took : f.verdict (.str "<b></b>") = .ok (.str "<b></b>") := by
    simp [Field.verdict,kind,required,Rule.isMissing,Kind.check,Rule.text]
  have passed : validateSubmission form.fields (.object payload) = .ok [("name",.str "<b></b>")] := by
    simp only [payload]
    rw [fields,← key]
    exact Schema.validateAlone layout took rfl
  obtain ⟨sub,taken⟩ := submitPasses unlimited found published (by simp [fields]) passed rfl "here"
  obtain ⟨-,_,row,again,stored,-,data,passes⟩ := storedAnswersPass found distinct taken
  cases Except.ok.inj (passed.symm.trans again)
  have empty : row.data.value? "name" = some (.str "") := by
    have cleaned : Sanitize.clean "<b></b>" = "" := by decide +kernel
    rw [data,Object.valueStored]
    exact congrArg (fun t => some (Value.str t)) cleaned
  refine ⟨form,sub,row,found,taken,by rw [stored,before,List.nil_append],empty,fun passed => ?_⟩
  have bears := passes.mp passed f (by simp [fields]) layout (by simp [Field.type,kind,Kind.type]) "" (key ▸ empty)
  exact bears.1 required rfl

end Service
end FormBuilder
