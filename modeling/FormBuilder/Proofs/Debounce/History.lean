import FormBuilder.Debounce
import Mathlib.Algebra.Order.Ring.Rat
import Mathlib.Data.List.Chain
import Mathlib.Tactic.Linarith
/-! A timer in time. It goes off exactly if nothing was asked of it for its delay after it was armed, and what has
become of it so far says whether it is about to. -/
namespace FormBuilder.Debounce

inductive Deed where
  | armed
  | cancelled
  | fired
  | rang
  deriving DecidableEq, Repr

structure Event where
  moment : Rat
  deed : Deed
  deriving DecidableEq, Repr

def Event.isAsked (e : Event) : Bool := e.deed != .rang

def Event.isRun (e : Event) : Bool := e.deed == .rang || e.deed == .fired

-- How long a timer waits. With a delay below zero it goes off when its turn comes, like with none.
def patience (delay : Rat) : Rat := max delay 0

theorem dueBySome {d : Debounce} {limit moment : Rat} (found : d.dueBy? limit = some moment) :
    moment ≤ limit ∧ ∀ now, d.isDue now = decide (moment ≤ now) := by
  obtain ⟨due,within⟩ := Option.filter_eq_some_iff.mp found
  obtain ⟨a,alarm,rfl⟩ := Option.map_eq_some_iff.mp due
  exact ⟨of_decide_eq_true within,fun now => by simp only [Debounce.isDue,alarm]⟩

/-! ### Histories -/

inductive History (wait : Rat) : Rat → List Event → Prop
  | start (now) : History wait now []
  | asked {now past deed} : History wait now past → deed ≠ .rang → History wait now (⟨now,deed⟩ :: past)
  | rang {s past} : History wait (s + wait) (⟨s,.armed⟩ :: past) →
      History wait (s + wait) (⟨s + wait,.rang⟩ :: ⟨s,.armed⟩ :: past)
  | later {now next past} : History wait now past → now ≤ next →
      (∀ s before, past = ⟨s,.armed⟩ :: before → next ≤ s + wait) → History wait next past

theorem historyBefore {wait now : Rat} {e : Event} {past : List Event} (history : History wait now (e :: past)) :
    e.moment ≤ now ∧ History wait e.moment past := by
  generalize whole : e :: past = events at history
  induction history with
  | start => contradiction
  | asked before _ =>
    cases whole
    exact ⟨le_refl _,before⟩
  | rang before =>
    cases whole
    exact ⟨le_refl _,before⟩
  | later _ ordered _ ih => exact ⟨(ih whole).1.trans ordered,(ih whole).2⟩

theorem historySuffix {wait now : Rat} {past : List Event} (later : List Event)
    (history : History wait now (later ++ past)) : ∃ t, History wait t past := by
  induction later generalizing now with
  | nil => exact ⟨now,history⟩
  | cons e later ih => exact ih (historyBefore history).2

theorem historyArmed {wait now s : Rat} {past : List Event} (lasting : 0 ≤ wait)
    (history : History wait now (⟨s,.armed⟩ :: past)) : now ≤ s + wait := by
  generalize whole : ⟨s,.armed⟩ :: past = events at history
  induction history with
  | start => contradiction
  | asked =>
    cases whole
    linarith
  | rang => cases whole
  | later _ _ short _ => exact short s past whole.symm

theorem historyRang {wait now t : Rat} {past : List Event} (history : History wait now (⟨t,.rang⟩ :: past)) :
    ∃ before, past = ⟨t - wait,.armed⟩ :: before := by
  generalize whole : ⟨t,.rang⟩ :: past = events at history
  induction history with
  | start => contradiction
  | asked _ asked =>
    cases whole
    contradiction
  | rang before =>
    cases whole
    exact ⟨_,by rw [add_sub_cancel_right]⟩
  | later _ _ _ ih => exact ih whole

def armedLast : List Event → Bool
  | ⟨_,.armed⟩ :: _ => true
  | _ => false

theorem historyRuns {wait now : Rat} {past : List Event} (history : History wait now past) :
    past.countP Event.isRun + (armedLast past).toNat ≤
      past.countP (·.deed == .armed) + past.countP (·.deed == .fired) := by
  induction history with
  | start => exact Nat.le_refl _
  | @asked now past deed _ asked ih =>
    cases deed with
    | armed => simp [armedLast,Event.isRun]; omega
    | cancelled => simp [armedLast,Event.isRun]; omega
    | fired => simp [armedLast,Event.isRun]; omega
    | rang => contradiction
  | rang _ ih =>
    simp [armedLast,Event.isRun] at ih ⊢
    omega
  | later _ _ _ ih => exact ih

def armedAt (moments : List Rat) : List Event := moments.map fun s => ⟨s,.armed⟩

theorem historyBurst {wait now s : Rat} {later earlier : List Event} {arms : List Rat}
    (history : History wait now (later ++ [⟨s,.armed⟩] ++ earlier))
    (asked : List.filter Event.isAsked (later ++ [⟨s,.armed⟩]) = armedAt arms)
    (close : arms.IsChain fun a b => a < b + wait) :
    later ++ [⟨s,.armed⟩] = armedAt arms ∨
      ∃ last older, arms = last :: older ∧ later ++ [⟨s,.armed⟩] = ⟨last + wait,.rang⟩ :: armedAt arms := by
  induction later generalizing now arms with
  | nil => exact .inl asked
  | cons e later ih =>
    have history : History wait now (e :: (later ++ [⟨s,.armed⟩] ++ earlier)) := history
    obtain ⟨-,before⟩ := historyBefore history
    obtain ⟨moment,deed⟩ := e
    by_cases ran : deed = .rang
    · subst ran
      obtain ⟨rest,stems⟩ := historyRang history
      rcases ih before asked close with all | ⟨last,older,-,all⟩
      · rw [all] at stems
        cases arms with
        | nil => simp [armedAt] at all
        | cons last older =>
          injection stems with same
          injection same with moments
          refine .inr ⟨last,older,rfl,?_⟩
          rw [List.cons_append,all,moments,sub_add_cancel]
      · rw [all] at stems
        injection stems with same
        injection same
        contradiction
    · have counts : Event.isAsked ⟨moment,deed⟩ = true := by simpa [Event.isAsked] using ran
      rw [List.cons_append,List.filter_cons_of_pos counts] at asked
      cases arms with
      | nil => contradiction
      | cons first rest =>
        injection asked with same others
        rcases ih before others close.tail with all | ⟨last,older,rfl,all⟩
        · exact .inl (by rw [List.cons_append,all,same]; rfl)
        · have soon : first < last + wait := close.rel
          injection same with moments
          rw [all] at before
          have ran : last + wait ≤ moment := (historyBefore before).1
          linarith

/-! ### Runs -/

structure Course where
  timer : Debounce
  now : Rat
  turn : Nat
  past : List Event
  deriving Repr

inductive Step where
  | arm
  | cancel
  | fire
  | ring
  | pass (duration : Rat)
  deriving Repr

namespace Course

def start (delay : Rat) : Course := ⟨.idle delay,0,0,[]⟩

def noted (c : Course) (deed : Deed) (timer : Debounce) : Course := { c with timer, past := ⟨c.now,deed⟩ :: c.past }

def step (c : Course) : Step → Course
  | .arm => { c.noted .armed (c.timer.arm c.now c.turn) with turn := c.turn + 1 }
  | .cancel => c.noted .cancelled c.timer.cancel
  | .fire => c.noted .fired c.timer.cancel
  | .ring => if c.timer.isDue c.now then c.noted .rang c.timer.cancel else c
  | .pass duration => { c with now := max c.now ((c.timer.dueBy? (c.now + duration)).getD (c.now + duration)) }

def play (c : Course) (steps : List Step) : Course := steps.foldl step c

def awaited (delay : Rat) : List Event → Option Rat
  | ⟨s,.armed⟩ :: _ => some (s + delay)
  | _ => none

structure Sound (delay : Rat) (c : Course) : Prop where
  delayed : c.timer.delay = delay
  history : History (patience delay) c.now c.past
  alarm : c.timer.alarm.map Alarm.due = awaited delay c.past

variable {delay : Rat} {c : Course}

theorem waitLasts (delay : Rat) : 0 ≤ patience delay := le_max_right _ _

theorem waitCovers (delay : Rat) : delay ≤ patience delay := le_max_left _ _

theorem Sound.told {past : List Event} (sound : Sound delay c) (same : c.past = past) :
    History (patience delay) c.now past := same ▸ sound.history

theorem awaitedArmed {delay due : Rat} {past : List Event} :
    awaited delay past = some due ↔ ∃ s before, past = ⟨s,.armed⟩ :: before ∧ s + delay = due := by
  unfold awaited
  split
  · simp
  · rename_i none
    simp only [reduceCtorEq,false_iff,not_exists,not_and]
    exact fun s before armed _ => none s before armed

theorem Sound.due {a : Alarm} (sound : Sound delay c) (alarm : c.timer.alarm = some a) :
    ∃ s before, c.past = ⟨s,.armed⟩ :: before ∧ s + delay = a.due :=
  awaitedArmed.mp (by rw [← sound.alarm,alarm]; rfl)

theorem Sound.pending (sound : Sound delay c) : c.timer.pending = true ↔ ∃ s before, c.past = ⟨s,.armed⟩ :: before := by
  have alarm : c.timer.pending = (awaited delay c.past).isSome := by rw [← sound.alarm,Option.isSome_map]; rfl
  rw [alarm,Option.isSome_iff_exists]
  constructor
  · rintro ⟨due,armed⟩
    obtain ⟨s,before,past,-⟩ := awaitedArmed.mp armed
    exact ⟨s,before,past⟩
  · rintro ⟨s,before,past⟩
    exact ⟨s + delay,awaitedArmed.mpr ⟨s,before,past,rfl⟩⟩

theorem Sound.isDue (sound : Sound delay c) :
    c.timer.isDue c.now = true ↔ ∃ s before, c.past = ⟨s,.armed⟩ :: before ∧ c.now = s + patience delay := by
  constructor
  · intro due
    cases alarm : c.timer.alarm with
    | none => simp [Debounce.isDue,alarm] at due
    | some a =>
      simp only [Debounce.isDue,alarm,decide_eq_true_eq] at due
      obtain ⟨s,before,past,moment⟩ := sound.due alarm
      have history := sound.told past
      have armed : s ≤ c.now := (historyBefore history).1
      have recent := historyArmed (waitLasts delay) history
      refine ⟨s,before,past,le_antisymm recent ?_⟩
      rcases max_choice delay 0 with same | same <;> rw [patience,same] <;> linarith
  · rintro ⟨s,before,past,now⟩
    have armed : c.timer.alarm.map Alarm.due = some (s + delay) :=
      sound.alarm.trans (awaitedArmed.mpr ⟨s,before,past,rfl⟩)
    obtain ⟨a,alarm,due⟩ := Option.map_eq_some_iff.mp armed
    have covers := waitCovers delay
    simp only [Debounce.isDue,alarm,decide_eq_true_eq,due,now]
    linarith

theorem playAppend (c : Course) (first rest : List Step) : c.play (first ++ rest) = (c.play first).play rest :=
  List.foldl_append

theorem ringDue (due : c.timer.isDue c.now = true) : c.step .ring = c.noted .rang c.timer.cancel := by
  simp only [step,due,if_true]

theorem ringOver (c : Course) : (c.step .ring).timer.isDue (c.step .ring).now = false := by
  cases due : c.timer.isDue c.now with
  | true => rw [ringDue due]; rfl
  | false => simp [step,due]

theorem startSound (delay : Rat) : Sound delay (start delay) := ⟨rfl,.start _,rfl⟩

theorem stepSound (sound : Sound delay c) (s : Step) : Sound delay (c.step s) := by
  obtain ⟨delayed,history,alarm⟩ := sound
  cases s with
  | arm => exact ⟨delayed,.asked history (by decide),by rw [← delayed]; rfl⟩
  | cancel => exact ⟨delayed,.asked history (by decide),rfl⟩
  | fire => exact ⟨delayed,.asked history (by decide),rfl⟩
  | ring =>
    simp only [step]
    split
    · rename_i due
      obtain ⟨s,before,past,now⟩ := (Sound.isDue ⟨delayed,history,alarm⟩).mp due
      refine ⟨delayed,?_,rfl⟩
      rw [past,now] at history
      simp only [noted,past,now]
      exact .rang history
    · exact ⟨delayed,history,alarm⟩
  | pass duration =>
    refine ⟨delayed,.later history (le_max_left _ _) fun s before past => max_le ?_ ?_,alarm⟩
    · exact historyArmed (waitLasts delay) (past ▸ history)
    · obtain ⟨a,found,due⟩ := Option.map_eq_some_iff.mp (alarm.trans (awaitedArmed.mpr ⟨s,before,past,rfl⟩))
      have covers := waitCovers delay
      simp only [dueBy?,found,Option.map_some,Option.filter_some,decide_eq_true_eq]
      split
      · simp only [Option.getD_some]
        linarith
      · simp only [Option.getD_none]
        linarith

theorem playSound (sound : Sound delay c) (steps : List Step) : Sound delay (c.play steps) := by
  induction steps generalizing c with
  | nil => exact sound
  | cons s steps ih => exact ih (stepSound sound s)

theorem Sound.stems {later earlier : List Event} {t : Rat} (sound : Sound delay c)
    (past : c.past = later ++ ⟨t,.rang⟩ :: earlier) : ∃ before, earlier = ⟨t - patience delay,.armed⟩ :: before := by
  obtain ⟨_,history⟩ := historySuffix later (sound.told past)
  exact historyRang history

theorem Sound.awaits {s : Rat} {earlier : List Event} (sound : Sound delay c) (settled : c.timer.isDue c.now = false)
    (past : c.past = ⟨s,.armed⟩ :: earlier) : c.now < s + patience delay := by
  have recent := historyArmed (waitLasts delay) (sound.told past)
  refine lt_of_le_of_ne recent fun now => ?_
  simp [sound.isDue.mpr ⟨s,earlier,past,now⟩] at settled

theorem Sound.goesOff {later earlier : List Event} {s : Rat} (sound : Sound delay c)
    (settled : c.timer.isDue c.now = false) (past : c.past = later ++ ⟨s,.armed⟩ :: earlier)
    (waited : s + patience delay ≤ c.now) :
    (∃ after, later = after ++ [⟨s + patience delay,.rang⟩]) ↔
      ∀ after e, later = after ++ [e] → e.isAsked = true → s + patience delay < e.moment := by
  constructor
  · rintro ⟨after,rfl⟩ others e same asked
    obtain ⟨-,same⟩ := List.append_inj' same rfl
    cases same
    contradiction
  · intro calm
    rcases List.eq_nil_or_concat later with rfl | ⟨after,e,rfl⟩
    · exact absurd waited (not_le.mpr (sound.awaits settled past))
    · rw [List.concat_eq_append,List.append_assoc] at past
      obtain ⟨_,history⟩ := historySuffix after (sound.told past)
      have soon : e.moment ≤ s + patience delay := historyArmed (waitLasts delay) (historyBefore history).2
      obtain ⟨moment,deed⟩ := e
      by_cases ran : deed = .rang
      · subst ran
        obtain ⟨before,same⟩ := historyRang history
        injection same with same
        injection same with moments
        exact ⟨after,by rw [moments,sub_add_cancel,List.concat_eq_append]⟩
      · exact absurd soon (not_le.mpr (calm after _ (List.concat_eq_append ..) (by simpa [Event.isAsked] using ran)))

theorem Sound.burst {later earlier : List Event} {s : Rat} {arms : List Rat} (sound : Sound delay c)
    (settled : c.timer.isDue c.now = false) (past : c.past = later ++ [⟨s,.armed⟩] ++ earlier)
    (asked : List.filter Event.isAsked (later ++ [⟨s,.armed⟩]) = armedAt arms)
    (close : arms.IsChain fun a b => a < b + patience delay) (waited : ∀ a ∈ arms, a + patience delay ≤ c.now) :
    ∃ last older, arms = last :: older ∧ later ++ [⟨s,.armed⟩] = ⟨last + patience delay,.rang⟩ :: armedAt arms := by
  rcases historyBurst (sound.told past) asked close with all | ran
  · cases arms with
    | nil => simp [armedAt] at all
    | cons last older =>
      have awaits := sound.awaits settled (past.trans (by rw [all]; rfl))
      exact absurd (waited last (List.mem_cons_self ..)) (not_le.mpr awaits)
  · exact ran

end Course
end FormBuilder.Debounce
