import FormBuilder.Job
import FormBuilder.Proofs.Debounce.History
/-! What is done with a timer and when it goes off: every run of it, and in particular what is done with a job that is
no save and how often that job is called. -/
namespace FormBuilder.Job
open Debounce (Course Event Step armedAt patience)

inductive Act where
  | arm
  | cancel
  | fire
  | advance (duration : Rat)
  deriving Repr

def act (j : Job) : Act → Job
  | .arm => j.arm
  | .cancel => j.cancel
  | .fire => j.fire
  | .advance duration => j.advance duration

def actAll (j : Job) (acts : List Act) : Job := acts.foldl act j

def Act.goesOn : Act → Prop
  | .advance duration => 0 ≤ duration
  | _ => True

def Act.deed? : Act → Option Debounce.Deed
  | .arm => some .armed
  | .cancel => some .cancelled
  | .fire => some .fired
  | .advance _ => none

def asked (j : Job) : List Act → List Event
  | [] => []
  | a :: acts => (j.act a).asked acts ++ (a.deed?.map fun deed => ⟨j.now,deed⟩).toList

structure Along (j : Job) (c : Course) : Prop where
  timer : c.timer = j.timer
  now : c.now = j.now
  turn : c.turn = j.turn
  calls : c.past.countP Event.isRun = j.calls
  kind : j.kind ≠ .save
  due : j.due = 0

variable {j : Job} {c : Course}

theorem Along.run (along : Along j c) (deed : Debounce.Deed) (counts : Event.isRun ⟨c.now,deed⟩ = true) :
    Along j.cancel.run.serve (c.noted deed c.timer.cancel) := by
  obtain ⟨timer,now,turn,calls,kind,due⟩ := along
  have called : (c.noted deed c.timer.cancel).past.countP Event.isRun = j.calls + 1 := by
    rw [Course.noted,List.countP_cons_of_pos counts,calls]
  have idle : c.timer.cancel = j.timer.cancel := congrArg Debounce.cancel timer
  cases same : j.kind with
  | save => exact absurd same kind
  | count =>
    simp only [Job.cancel,Job.run,same,serve,due]
    exact ⟨idle,now,turn,called,by simp,rfl⟩
  | task =>
    simp only [Job.cancel,Job.run,same,serve,due]
    exact ⟨idle,now,turn,called,by simp,rfl⟩

theorem Along.goOff (along : Along j c) : Along j.goOff (c.step .ring) := by
  have due : c.timer.isDue c.now = j.timer.isDue j.now := by rw [along.timer,along.now]
  simp only [Job.goOff,Job.ring,Course.step,due]
  split
  · exact along.run .rang rfl
  · rw [serve,along.due]
    exact along

theorem Along.waited (along : Along j c) (duration moment : Rat) (forward : j.now ≤ moment)
    (reached : (j.timer.dueBy? (j.now + duration)).getD (j.now + duration) = moment) :
    Along { j with now := moment } (c.step (.pass duration)) := by
  obtain ⟨timer,now,turn,calls,kind,due⟩ := along
  refine ⟨timer,?_,turn,calls,kind,due⟩
  simp only [Course.step,timer,now,reached]
  exact max_eq_right forward

theorem Along.act (along : Along j c) (settled : c.timer.isDue c.now = false) {a : Act} (forward : a.goesOn) :
    ∃ steps, Along (j.act a) (c.play steps) ∧ (c.play steps).timer.isDue (c.play steps).now = false ∧
      (c.play steps).past.filter Event.isAsked =
        (a.deed?.map fun deed => ⟨j.now,deed⟩).toList ++ c.past.filter Event.isAsked := by
  have quiet (c : Course) : (c.step .ring).past.filter Event.isAsked = c.past.filter Event.isAsked := by
    simp only [Course.step]
    split <;> rfl
  cases a with
  | arm =>
    have armed : Along j.rearm (c.step .arm) :=
      ⟨by simp only [Course.step,along.now,along.turn]; exact congrArg (Debounce.arm · j.now j.turn) along.timer,
        along.now,congrArg (· + 1) along.turn,along.calls,along.kind,along.due⟩
    refine ⟨[.arm,.ring],armed.goOff,Course.ringOver _,(quiet _).trans ?_⟩
    rw [← along.now]
    rfl
  | cancel =>
    refine ⟨[.cancel],⟨congrArg Debounce.cancel along.timer,along.now,along.turn,along.calls,along.kind,along.due⟩,rfl,?_⟩
    rw [← along.now]
    rfl
  | fire =>
    refine ⟨[.fire],along.run .fired rfl,rfl,?_⟩
    rw [← along.now]
    rfl
  | advance duration =>
    have forward : 0 ≤ duration := forward
    cases awaited : j.timer.dueBy? (j.now + duration) with
    | none =>
      have waited := along.waited duration (j.now + duration) (by linarith) (by rw [awaited]; rfl)
      refine ⟨[.pass duration,.ring],?_,Course.ringOver _,quiet _⟩
      simp only [Job.act,advance,awaited]
      exact waited.goOff
    | some moment =>
      obtain ⟨within,due⟩ := Debounce.dueBySome awaited
      have ahead : j.now < moment := by simpa [along.timer,along.now,due] using settled
      have reached := along.waited duration moment ahead.le (by rw [awaited]; rfl)
      have rings : (c.step (.pass duration)).timer.isDue (c.step (.pass duration)).now = true := by
        rw [reached.timer,reached.now,due]
        exact decide_eq_true (le_refl _)
      have rang := reached.goOff
      have idle : { j with now := moment }.goOff.timer.dueBy? (j.now + duration) = none := by
        rw [← rang.timer,Course.ringDue rings]
        rfl
      have last : { j with now := moment }.goOff.now = moment := by
        rw [← rang.now,Course.ringDue rings]
        exact reached.now
      have passed := rang.waited (j.now + duration - moment) (j.now + duration)
        (by rw [last]; exact within) (by rw [last,add_sub_cancel,idle]; rfl)
      refine ⟨[.pass duration,.ring,.pass (j.now + duration - moment),.ring],?_,Course.ringOver _,
        (quiet _).trans (quiet _)⟩
      simp only [Job.act,advance,awaited]
      exact passed.goOff

theorem Along.actAll {j : Job} {c : Course} (along : Along j c) (settled : c.timer.isDue c.now = false) {acts : List Act}
    (forward : ∀ a ∈ acts, a.goesOn) :
    ∃ steps, Along (j.actAll acts) (c.play steps) ∧ (c.play steps).timer.isDue (c.play steps).now = false ∧
      (c.play steps).past.filter Event.isAsked = j.asked acts ++ c.past.filter Event.isAsked := by
  induction acts generalizing j c with
  | nil => exact ⟨[],along,settled,rfl⟩
  | cons a acts ih =>
    obtain ⟨first,one,still,told⟩ := along.act settled (forward a (List.mem_cons_self ..))
    obtain ⟨rest,all,last,more⟩ := ih one still fun b member => forward b (List.mem_cons_of_mem _ member)
    refine ⟨first ++ rest,?_⟩
    rw [Course.playAppend]
    exact ⟨all,last,by rw [more,told,asked,List.append_assoc]⟩

/-- For every delay and everything that happens to a timer: it is about to go off exactly at the moment by which it has
waited since it was last armed, if nothing was asked of it since; each of its runs stands right behind such an arm; and
an arm that its time has passed for was run unless something was asked before. Firing runs the callback once, at once,
and leaves nothing pending. Pending is what was armed and has not been asked anything or gone off since. There are no
more runs than arms and fires, and arms within the delay of one another lead to one run, the delay after the last.
The runs of a job that is no save are the calls of it. -/
theorem timerPunctual (delay : Rat) :
    (∀ steps, let c := (Course.start delay).play steps
      (c.timer.isDue c.now = true ↔ ∃ s before, c.past = ⟨s,.armed⟩ :: before ∧ c.now = s + patience delay) ∧
      (∀ later t earlier, c.past = later ++ ⟨t,.rang⟩ :: earlier →
        ∃ before, earlier = ⟨t - patience delay,.armed⟩ :: before) ∧
      (∀ later s earlier, c.timer.isDue c.now = false → c.past = later ++ ⟨s,.armed⟩ :: earlier →
        s + patience delay ≤ c.now → ((∃ after, later = after ++ [⟨s + patience delay,.rang⟩]) ↔
          ∀ after e, later = after ++ [e] → e.isAsked = true → s + patience delay < e.moment)) ∧
      (c.step .fire).past = ⟨c.now,.fired⟩ :: c.past ∧ (c.step .fire).timer.pending = false ∧
      (c.timer.pending = true ↔ ∃ s before, c.past = ⟨s,.armed⟩ :: before) ∧
      c.past.countP Event.isRun ≤ c.past.countP (·.deed == .armed) + c.past.countP (·.deed == .fired) ∧
      ∀ later s earlier arms, c.timer.isDue c.now = false → c.past = later ++ [⟨s,.armed⟩] ++ earlier →
        List.filter Event.isAsked (later ++ [⟨s,.armed⟩]) = armedAt arms →
        (arms.IsChain fun a b => a < b + patience delay) → (∀ a ∈ arms, a + patience delay ≤ c.now) →
        ∃ last older, arms = last :: older ∧ later ++ [⟨s,.armed⟩] = ⟨last + patience delay,.rang⟩ :: armedAt arms) ∧
    ∀ kind acts, kind ≠ .save → (∀ a ∈ acts, Act.goesOn a) → ∃ steps,
      let c := (Course.start delay).play steps
      let j := (start kind delay).actAll acts
      c.timer = j.timer ∧ c.now = j.now ∧ c.past.countP Event.isRun = j.calls ∧ c.timer.isDue c.now = false ∧
      c.past.filter Event.isAsked = (start kind delay).asked acts := by
  refine ⟨fun steps => ?_,fun kind acts other forward => ?_⟩
  · intro c
    have sound : Course.Sound delay c := Course.playSound (Course.startSound delay) steps
    exact ⟨sound.isDue,fun later t earlier => sound.stems,fun later s earlier => sound.goesOff,rfl,rfl,sound.pending,
      (Nat.le_add_right _ _).trans (Debounce.historyRuns sound.history),fun later s earlier arms => sound.burst⟩
  · have fresh : Along (start kind delay) (Course.start delay) := ⟨rfl,rfl,rfl,rfl,other,rfl⟩
    obtain ⟨steps,along,settled,told⟩ := fresh.actAll rfl forward
    exact ⟨steps,along.timer,along.now,along.calls,settled,by rw [told,Course.start,List.filter_nil,List.append_nil]⟩

theorem overdueRuns :
    let c := (Course.start (-1)).play [.arm,.ring]
    c.past = [⟨0,.rang⟩,⟨0,.armed⟩] ∧ (⟨0 - -1,.armed⟩ : Event) ∉ c.past ∧
    ((start .count (-1)).arm.calls,(start .count (-1)).arm.now) = (1,0) := by
  decide +kernel

theorem burstRunsOnce :
    let c := (Course.start 1).play [.arm,.pass (1 / 2),.ring,.arm,.pass 2,.ring]
    let j := (start .count 1).actAll [.arm,.advance (1 / 2),.arm,.advance 2]
    c.past = ⟨1 / 2 + patience 1,.rang⟩ :: armedAt [1 / 2,0] ∧ c.now = 1 / 2 + patience 1 ∧ j.calls = 1 ∧
    ∃ steps, ((Course.start 1).play steps).past.countP Event.isRun = 1 := by
  intro c j
  obtain ⟨laws,jobs⟩ := timerPunctual 1
  obtain ⟨-,-,-,-,-,-,-,burst⟩ := laws [.arm,.pass (1 / 2),.ring,.arm,.pass 2,.ring]
  have past : c.past = [⟨3 / 2,.rang⟩,⟨1 / 2,.armed⟩] ++ [⟨0,.armed⟩] ++ [] := by decide +kernel
  obtain ⟨last,older,same,all⟩ := burst _ _ _ [1 / 2,0] (by decide +kernel) past (by decide +kernel)
    (by decide +kernel) (by decide +kernel)
  cases same
  have called : j.calls = 1 := by decide +kernel
  obtain ⟨steps,-,-,runs,-⟩ := jobs .count [.arm,.advance (1 / 2),.arm,.advance 2] (by decide)
    (by simp [Act.goesOn])
  exact ⟨past.trans (by rw [List.append_nil,all]),by decide +kernel,called,steps,runs.trans called⟩

end FormBuilder.Job
