import FormBuilder.Proofs.Service.Orders
import FormBuilder.Proofs.Service.Readable
import FormBuilder.Proofs.Service.Submitted
/-! Forms that are open. No call leaves a form published that was not so before and has no fields, and only a form
that is published and has fields is given submissions, one for each call that goes through. -/
namespace FormBuilder

namespace Schema

theorem keptAsked {fields : List Field} {payload : Value} {answers : Object}
    (passed : validateSubmission fields payload = .ok answers) {key : String} (kept : answers.value? key ≠ none) :
    ∃ f ∈ fields, f.isLayout = false ∧ f.valueKey = key := by
  obtain ⟨given,rfl⟩ := passedObject passed
  rw [(keptUnder passed).2 key] at kept
  obtain ⟨v,last⟩ := Option.ne_none_iff_exists'.mp kept
  obtain ⟨f,member,-⟩ := List.mem_filterMap.mp (List.mem_of_getLast? last)
  obtain ⟨asked,own⟩ := List.mem_filter.mp member
  obtain ⟨among,layout⟩ := List.mem_filter.mp asked
  exact ⟨f,among,by simpa using layout,beq_iff_eq.mp own⟩

end Schema

namespace Store

def Open (s : Store) (form : Int) : Prop := ∃ r ∈ s.forms, r.id = form ∧ r.status = .published

def Gated (s t : Store) : Prop := ∀ form, t.Open form → s.Open form ∨ 0 < t.countFields form

theorem patchedPublished {r t : FormRow} {p : Patch} (ok : patched r p = .ok t) (published : t.status = .published) :
    r.status = .published ∨ p.Publishes := by
  have status : patchedStatus r p = .ok t.status := by
    unfold patched at ok
    dsimp only at ok
    split at ok
    · contradiction
    · rename_i given _
      cases ok
      exact given
    · rename_i given _
      split at ok
      · contradiction
      · cases ok
        exact given
  rw [published] at status
  unfold patchedStatus at status
  split at status
  · exact .inl (Except.ok.inj status)
  · rename_i v given
    refine .inr ⟨v,given,?_⟩
    cases read : Status.read v with
    | ok t => simpa [read,Except.mapError] using status
    | error fault => simp [read,Except.mapError] at status

theorem obeyedOpen {s t : Store} {o : Order} (obeyed : Obeyed s o t)
    (spared : ∀ now form owner p, o ≠ .updateForm now form owner p) {form : Int} (now : t.Open form) : s.Open form := by
  obtain ⟨f,member,own,published⟩ := now
  cases obeyed with
  | refused => exact ⟨f,member,own,published⟩
  | submissionAdded there => exact ⟨f,member,own,published⟩
  | columnsChanged row changed => exact absurd rfl (spared _ _ _ _)
  | formAdded free =>
    rcases List.mem_append.mp member with earlier | last
    · exact ⟨f,earlier,own,published⟩
    · rw [List.mem_singleton.mp last] at published
      contradiction
  | @fieldsReplaced now replaced fields there =>
    obtain ⟨old,known,rfl⟩ := List.mem_map.mp member
    by_cases hit : old.id = replaced
    · simp only [if_pos hit] at own published
      exact ⟨old,known,own,published⟩
    · simp only [if_neg hit] at own published
      exact ⟨old,known,own,published⟩
  | formRemoved row => exact ⟨f,(List.mem_filter.mp member).1,own,published⟩

theorem updateFormGated (s : Store) (now form : Int) (owner : Option String) {p : Patch}
    (gate : p.Publishes → 0 < s.countFields form) : Gated s (s.obey (.updateForm now form owner p)) := by
  have obeyed := obeyCases s (.updateForm now form owner p)
  generalize s.obey (.updateForm now form owner p) = t at obeyed ⊢
  rintro id ⟨f,member,own,published⟩
  cases obeyed with
  | refused => exact .inl ⟨f,member,own,published⟩
  | @columnsChanged now form owner p r t row changed =>
    obtain ⟨known,rfl,-⟩ := formRowKnown row
    obtain ⟨old,among,rfl⟩ := List.mem_map.mp member
    have same := (patchedSame changed).1.id
    by_cases hit : old.id = t.id
    · simp only [if_pos hit] at own published
      rcases patchedPublished changed published with was | publishes
      · exact .inl ⟨r,known,same.symm.trans own,was⟩
      · exact .inr (same.symm.trans own ▸ gate publishes)
    · simp only [if_neg hit] at own published
      exact .inl ⟨old,among,own,published⟩

theorem obeyAllGated {s : Store} {orders : List Order}
    (spared : ∀ o ∈ orders, ∀ now form owner p, o ≠ .updateForm now form owner p) : Gated s (s.obeyAll orders) := by
  have same : ∀ form, (s.obeyAll orders).Open form → s.Open form :=
    obeyAllRelated (fun s t => ∀ form, t.Open form → s.Open form) (fun _ _ => id)
      (fun first later form => first form ∘ later form)
      (fun o among s _ => obeyedOpen (obeyCases s o) (spared o among)) s
  exact fun form now => .inl (same form now)

theorem obeyedNoRow {s t : Store} {o : Order} (obeyed : Obeyed s o t)
    (other : ∀ now form data, o ≠ .createSubmission now form data) : t.submissions.Sublist s.submissions := by
  cases obeyed with
  | submissionAdded there => exact absurd rfl (other _ _ _)
  | formRemoved row => exact List.filter_sublist
  | _ => exact List.Sublist.refl _

theorem obeyAllNoRow {s : Store} {orders : List Order}
    (other : ∀ o ∈ orders, ∀ now form data, o ≠ .createSubmission now form data) :
    (s.obeyAll orders).submissions.Sublist s.submissions :=
  obeyAllRelated (fun s t => t.submissions.Sublist s.submissions) (fun _ => List.Sublist.refl _)
    (fun first later => later.trans first) (fun o among s => obeyedNoRow (obeyCases s o) (other o among)) s

end Store

namespace Service
open Store (Gated)

theorem callGated (s : Service) (c : Call) : Gated s.store (s.call c).1.store := by
  obtain ⟨⟨orders,asks,left⟩,-⟩ := callDoes s c
  rw [left]
  cases asks with
  | change own gate => exact Store.updateFormGated s.store _ _ _ gate
  | @replaceAndChange _ now later form fields back owner p own stored gate =>
    have replaced := Store.replaceFieldsStored stored
    have count : (s.store.obey (.replaceFields now form fields)).countFields form = fields.length := by
      rw [Store.obey,replaced,Store.countReplaced]
    have gate : p.Publishes → 0 < (s.store.obey (.replaceFields now form fields)).countFields form :=
      fun publishes => count ▸ List.length_pos_of_ne_nil (gate publishes)
    intro id opened
    rcases Store.updateFormGated _ later form owner gate id opened with was | filled
    · have obeyed := Store.obeyCases s.store (.replaceFields now form fields)
      exact .inl (Store.obeyedOpen obeyed (fun _ _ _ _ => nofun) was)
    · exact .inr filled
  | _ => exact Store.obeyAllGated (by simp)

theorem asksNoRow {s : Service} {c : Call} {orders : List Store.Order} (asks : Asks s c orders)
    (other : ∀ slug payload client, c ≠ .submit slug payload client) :
    ∀ o ∈ orders, ∀ now form data, o ≠ .createSubmission now form data := by
  cases asks with
  | submit => exact absurd rfl (other _ _ _)
  | _ => simp

theorem submitRefused {s : Service} {slug client : String} {payload : Value} {fault : ServiceFault}
    (refused : (s.submit slug payload client).2 = .error fault) :
    (s.submit slug payload client).1.store = s.store := by
  obtain ⟨t,⟨kept,-⟩,⟨fault,early⟩ | ⟨form,answers,-,-,-,-,stores⟩⟩ := submitSteps s slug payload client
  · rw [early]
    exact kept
  · dsimp only at stores
    rw [stores] at refused ⊢
    cases made : (s.store.createSubmission t.mint.seconds (form.id.getD 0) (Sanitize.submission answers)).2 with
    | ok row => simp [made,Except.mapError] at refused
    | error fault => exact Store.createSubmissionRefused made

theorem callNoRow (s : Service) (c : Call) (none : ∀ sub, (s.call c).2 ≠ .ok (.submission sub)) :
    (s.call c).1.store.submissions.Sublist s.store.submissions := by
  by_cases submits : ∃ slug payload client, c = .submit slug payload client
  · obtain ⟨slug,payload,client,rfl⟩ := submits
    cases outcome : (s.submit slug payload client).2 with
    | ok sub => exact absurd (congrArg (Except.map Answer.submission) outcome) (none sub)
    | error fault =>
      have left : (s.call (.submit slug payload client)).1.store = s.store := submitRefused outcome
      rw [left]
  · obtain ⟨⟨orders,asks,left⟩,-⟩ := callDoes s c
    rw [left]
    refine Store.obeyAllNoRow (asksNoRow asks ?_)
    exact fun slug payload client same => submits ⟨slug,payload,client,same⟩

structure Accepted (s : Store) (slug : String) (r : FormRow) (row : Submission) : Prop where
  known : r ∈ s.forms
  named : r.slug = slug
  part : row.form = r.id
  published : r.status = .published
  filled : 0 < s.countFields r.id
  keys : ∃ fields, s.getFields r.id = .ok fields ∧
    ∀ e ∈ row.data, ∃ f ∈ fields, f.isLayout = false ∧ f.valueKey = e.1

theorem submitAccepted {s : Service} {slug client : String} {payload : Value} {sub : Submission}
    (taken : (s.submit slug payload client).2 = .ok sub) :
    ∃ r row, Accepted s.store slug r row ∧ row.id = sub.id ∧ (s.submit slug payload client).1.store = { s.store with
      submissions := s.store.submissions ++ [row] } := by
  obtain ⟨form,answers,found,published,asked,passed,part,data,left⟩ := submitRow taken
  obtain ⟨r,row,read⟩ := Store.formOfSome found
  obtain ⟨known,named⟩ := Store.slugRowFound row
  refine ⟨r,sub,⟨known,named,?_,?_,?_,form.fields,read.fields,?_⟩,rfl,left⟩
  · rw [part,read.id,Option.getD_some]
  · rw [read.shown] at published
    exact beq_iff_eq.mp published
  · rw [← Store.getFieldsCount read.fields]
    exact List.length_pos_of_ne_nil asked
  · intro e member
    rw [data] at member
    have there : answers.stored.value? e.1 ≠ none := fun none => (Object.valueNone _ _).mp none e member rfl
    rw [Object.valueStored] at there
    exact Schema.keptAsked passed fun none => there (by rw [none,Option.map_none])

theorem answerOther {answer : α → Answer} (other : ∀ a sub, answer a ≠ .submission sub)
    (outcome : Except ServiceFault α) (sub : Submission) : outcome.map answer ≠ .ok (.submission sub) := by
  cases outcome with
  | error fault => nofun
  | ok a => exact fun same => other a sub (Except.ok.inj same)

theorem callAccepted {s : Service} {c : Call} {sub : Submission} (taken : (s.call c).2 = .ok (.submission sub)) :
    ∃ slug payload client r row, c = .submit slug payload client ∧ Accepted s.store slug r row ∧ row.id = sub.id ∧
      (s.call c).1.store = { s.store with submissions := s.store.submissions ++ [row] } := by
  cases c with
  | submit slug payload client =>
    cases outcome : (s.submit slug payload client).2 with
    | error fault => cases (congrArg (Except.map Answer.submission) outcome).symm.trans taken
    | ok own =>
      cases (congrArg (Except.map Answer.submission) outcome).symm.trans taken
      obtain ⟨r,row,accepted,id,left⟩ := submitAccepted outcome
      exact ⟨slug,payload,client,r,row,rfl,accepted,id,left⟩
  | _ =>
    refine absurd taken (answerOther ?_ _ sub)
    exact fun _ _ => nofun

structure Opened (s : Service) (c : Call) (form : Int) : Prop where
  closed : ¬ s.store.Open form
  published : (s.call c).1.store.Open form
  filled : 0 < (s.call c).1.store.countFields form

theorem openedBy {s : Service} (closed : ∀ form, ¬ s.store.Open form) (moves : List Move) {form : Int}
    (now : (s.play moves).store.Open form) :
    ∃ earlier c later, moves = earlier ++ .ask c :: later ∧ Opened (s.play earlier) c form := by
  refine broughtAbout (·.Open form) (Opened · · form) (closed form) (fun earlier c now => ?_) moves now
  by_cases was : (s.play earlier).store.Open form
  · exact .inl was
  · exact .inr ⟨was,now,(callGated _ c form now).resolve_left was⟩

structure Handed (s : Service) (c : Call) (row : Submission) : Prop where
  answered : ∃ sub, (s.call c).2 = .ok (.submission sub) ∧ row.id = sub.id
  accepted : ∃ slug payload client r, c = .submit slug payload client ∧ Accepted s.store slug r row

theorem handedBy {s : Service} (none : s.store.submissions = []) (moves : List Move) {row : Submission}
    (now : row ∈ (s.play moves).store.submissions) :
    ∃ earlier c later, moves = earlier ++ .ask c :: later ∧ Handed (s.play earlier) c row := by
  refine broughtAbout (row ∈ ·.submissions) (Handed · · row) (by simp [none]) (fun earlier c now => ?_) moves now
  by_cases answered : ∃ sub, ((s.play earlier).call c).2 = .ok (.submission sub)
  · obtain ⟨sub,taken⟩ := answered
    obtain ⟨slug,payload,client,r,own,given,accepted,id,left⟩ := callAccepted taken
    rw [left] at now
    rcases List.mem_append.mp now with was | last
    · exact .inl was
    · cases List.mem_singleton.mp last
      exact .inr ⟨⟨sub,taken,id⟩,slug,payload,client,r,given,accepted⟩
  · exact .inl ((callNoRow _ c fun sub taken => answered ⟨sub,taken⟩).subset now)

/-- No call leaves a form published that was not so before and has no fields; so every form that is published was
filled when it was opened. A row of answers is added by each call that is answered with a submission, and by no
other: one row, under the form with the slug, which is published and has fields, and under the keys of these. -/
theorem publishingGated (limiter : Option (Limiter Double)) (m : Mint) (moves : List Move) :
    let s := (start limiter m).play moves
    (∀ c, Gated s.store (s.call c).1.store) ∧
    (∀ c sub, (s.call c).2 = .ok (.submission sub) → ∃ slug payload client r row, c = .submit slug payload client ∧
      Accepted s.store slug r row ∧ row.id = sub.id ∧
      (s.call c).1.store = { s.store with submissions := s.store.submissions ++ [row] }) ∧
    (∀ c, (∀ sub, (s.call c).2 ≠ .ok (.submission sub)) →
      (s.call c).1.store.submissions.Sublist s.store.submissions) ∧
    (∀ form, s.store.Open form →
      ∃ earlier c later, moves = earlier ++ .ask c :: later ∧ Opened ((start limiter m).play earlier) c form) ∧
    (∀ row ∈ s.store.submissions,
      ∃ earlier c later, moves = earlier ++ .ask c :: later ∧ Handed ((start limiter m).play earlier) c row) := by
  intro s
  have closed : ∀ form, ¬ (start limiter m).store.Open form := fun form ⟨r,member,_⟩ => absurd member List.not_mem_nil
  exact ⟨callGated s,fun _ _ => callAccepted,callNoRow s,fun _ => openedBy closed moves,fun _ => handedBy rfl moves⟩

theorem dividerOpened :
    let line : Field := ⟨"a",none,"",0,⟨false,none,none⟩,.plain .divider⟩
    let moves : List Move := [.ask (.createForm "alice" (.str "T") .null .null (.ready [line])),
      .ask (.publishForm "alice" 1),.ask (.submit "t" (.object [("name",.str "Ann")]) "here")]
    let s := start none (.atSeconds 0)
    (∃ earlier c later, moves = earlier ++ .ask c :: later ∧ Opened (s.play earlier) c 1) ∧
    ∃ row, (s.play moves).store.submissions = [row] ∧ row.data = [] ∧
      ∃ earlier c later, moves = earlier ++ .ask c :: later ∧ Handed (s.play earlier) c row := by
  intro line moves s
  have rows : (s.play moves).store.submissions.map (·.data.length) = [0] := by decide +kernel
  have shown : (s.play moves).store.forms.map (fun r => (r.id,r.status)) = [(1,.published)] := by decide +kernel
  obtain ⟨-,-,-,opened,handed⟩ := publishingGated none (.atSeconds 0) moves
  obtain ⟨row,alone,empty⟩ := List.map_eq_singleton_iff.mp rows
  obtain ⟨r,only,own⟩ := List.map_eq_singleton_iff.mp shown
  obtain ⟨id,published⟩ := Prod.mk.inj own
  refine ⟨opened 1 ⟨r,only ▸ List.mem_singleton_self r,id,published⟩,row,alone,List.length_eq_zero_iff.mp empty,?_⟩
  exact handed row (alone ▸ List.mem_singleton_self row)

end Service

end FormBuilder
