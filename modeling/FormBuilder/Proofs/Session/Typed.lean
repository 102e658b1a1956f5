import FormBuilder.Proofs.Session.Barrier
import Mathlib.Algebra.Order.Ring.Rat
import Mathlib.Data.List.Induction
/-! Typed text. What is applied to the fields is the text that was set last; it is not blank, is applied once, and only
after a pause or because a save is asked for. -/
namespace FormBuilder.Session

def applied? (s : Session) : Event → Option String
  | .move .ringTyping => if s.typing.isDue s.now then some s.text else none
  | .move .saveNow => if s.typing.pending then some s.text else none
  | _ => none

def Event.isEdit : Event → Bool
  | .move (.dispatch _) | .direct _ | .amend _ => true
  | _ => false

def Event.leavesText : Event → Bool
  | .move (.setText _) | .move .close => false
  | _ => true

/-! ### What an event comes to for typed text -/

theorem dispatchText (s : Session) (e : Edit) : SameText s (s.dispatch e).1 := by
  unfold dispatch
  dsimp only
  split
  · split <;> exact ⟨rfl,rfl⟩
  · exact ⟨rfl,rfl⟩

inductive Heard (s : Session) (e : Event) : Prop where
  | set {text} (made : e = .move (.setText text)) (silent : s.applied? e = none) (taken : (s.meet e).text = text)
      (timer : (s.meet e).typing = if Text.allBlank text then s.typing.cancel else s.typing.arm s.now s.turn)
      (form : (s.meet e).editor = s.editor)
  | closed (made : e = .move .close) (silent : s.applied? e = none) (kept : (s.meet e).text = s.text)
      (timer : (s.meet e).typing = s.typing.cancel) (form : (s.meet e).editor = s.editor)
  | applied (turn : s.applied? e = some s.text) (pending : s.typing.pending = true)
      (due : e = .move .saveNow ∨ e = .move .ringTyping ∧ s.typing.isDue s.now = true) (kept : (s.meet e).text = s.text)
      (timer : (s.meet e).typing = s.typing.cancel)
      (fields : (s.meet e).editor.fields = Editor.arranged (Outline.parse s.text s.mint).1.fields)
  | left (silent : s.applied? e = none) (leaves : e.leavesText = true) (same : SameText s (s.meet e))
      (content : e.isEdit = false → (s.meet e).editor.content = s.editor.content)

theorem duePending {d : Debounce} {now : Rat} (due : d.isDue now = true) : d.pending = true := by
  cases alarm : d.alarm with
  | none => simp [Debounce.isDue,alarm] at due
  | some a => simp [Debounce.pending,alarm]

theorem applyTypedText (s : Session) : s.applyTyped.text = s.text ∧ s.applyTyped.typing = s.typing.cancel :=
  have same := dispatchText { s with typing := s.typing.cancel } (.applyText (.str s.text))
  ⟨same.text,same.typing⟩

theorem saveNowHeard (s : Session) : Heard s (.move .saveNow) := by
  have made : s.saveNow = s.called.flush true := rfl
  have flushed := flushAside s.called true
  obtain ⟨typed,-⟩ := saveNowApplies s
  obtain ⟨kept,stopped⟩ := applyTypedText s
  cases pending : s.typing.pending with
  | true =>
    refine .applied (by simp [applied?,pending]) pending (.inl rfl) ?_ ?_ (typed pending)
    · exact flushed.text.trans (by simp only [called,pending,if_true]; exact kept)
    · exact flushed.typing.trans (by simp only [called,pending,if_true]; exact stopped)
  | false =>
    have quiet : SameText s s.called := by simp only [called,pending]; exact ⟨rfl,rfl⟩
    refine .left (by simp [applied?,pending]) rfl (quiet.trans flushed.toSameText) fun _ => ?_
    exact (flushContent s.called true).trans (by rw [calledSame pending])

theorem ringTypingHeard (s : Session) : Heard s (.move .ringTyping) := by
  obtain ⟨kept,stopped⟩ := applyTypedText s
  cases due : s.typing.isDue s.now with
  | true =>
    have rang : s.meet (.move .ringTyping) = s.applyTyped := by simp only [meet,move,ringTyping,due,if_true]
    refine .applied (by simp [applied?,due]) (duePending due) (.inr ⟨rfl,due⟩) ?_ ?_ ?_ <;> rw [rang]
    · exact kept
    · exact stopped
    · rfl
  | false =>
    have same : s.meet (.move .ringTyping) = s := by simp [meet,move,ringTyping,due]
    exact .left (by simp [applied?,due]) rfl (by rw [same]; exact ⟨rfl,rfl⟩) fun _ => by rw [same]

theorem meetHeard (s : Session) (e : Event) : Heard s e := by
  cases e with
  | direct c => exact .left rfl rfl ⟨rfl,rfl⟩ fun plain => nomatch plain
  | amend change => exact .left rfl rfl ⟨rfl,rfl⟩ fun plain => nomatch plain
  | move m =>
    cases m with
    | dispatch c => exact .left rfl rfl (dispatchText s c) fun plain => nomatch plain
    | setText text =>
      refine .set rfl rfl ?_ ?_ ?_ <;> simp only [meet,move,setText] <;> split <;> rfl
    | saveNow => exact saveNowHeard s
    | close => exact .closed rfl rfl rfl rfl rfl
    | setPersistence p => exact .left rfl rfl ⟨rfl,rfl⟩ fun _ => rfl
    | resume outcome => exact .left rfl rfl (resumeAside s outcome).toSameText fun _ => resumeContent s outcome
    | ringTyping => exact ringTypingHeard s
    | ringAutosave =>
      have rang : SameText s s.ringAutosave ∧ s.ringAutosave.editor.content = s.editor.content := by
        unfold ringAutosave
        split <;> exact ⟨⟨rfl,rfl⟩,rfl⟩
      exact .left rfl rfl rang.1 fun _ => rang.2
    | serve =>
      have served : SameText s s.serve ∧ s.serve.editor.content = s.editor.content := by
        unfold serve
        split
        · exact ⟨⟨rfl,rfl⟩,rfl⟩
        · exact ⟨⟨(flushAside _ false).text,(flushAside _ false).typing⟩,flushContent _ false⟩
      exact .left rfl rfl served.1 fun _ => served.2
    | pass duration => exact .left rfl rfl ⟨rfl,rfl⟩ fun _ => rfl

/-! ### Runs -/

-- A text that was set and has not been applied, set anew or dropped since, and when that was.
inductive Waits (first : Session) : List Event → String → Rat → Prop
  | set (early) {text} (solid : Text.allBlank text = false) :
      Waits first (early ++ [.move (.setText text)]) text (first.after early).now
  | on {events text moment e} : Waits first events text moment → e.leavesText = true →
      (first.after events).applied? e = none → Waits first (events ++ [e]) text moment

section
variable {first : Session} {events : List Event} {text : String} {moment : Rat}

theorem Waits.solid (waits : Waits first events text moment) : Text.allBlank text = false := by
  induction waits with
  | set early solid => exact solid
  | on _ _ _ ih => exact ih

theorem appliedBefore {e : Event} (silent : (first.after events).applied? e = none) {done rest : List Event} {f : Event}
    (same : events ++ [e] = done ++ f :: rest) (applied : (first.after done).applied? f ≠ none) :
    ∃ more, events = done ++ f :: more := by
  rcases List.eq_nil_or_concat rest with rfl | ⟨more,g,rfl⟩
  · obtain ⟨whole,last⟩ := List.append_inj' same rfl
    cases last
    exact absurd (whole ▸ silent) applied
  · rw [List.concat_eq_append,← List.cons_append,← List.append_assoc] at same
    exact ⟨more,(List.append_inj' same rfl).1⟩

theorem Waits.place (waits : Waits first events text moment) :
    ∃ early mid, events = early ++ .move (.setText text) :: mid ∧ (first.after early).now = moment ∧
      (∀ f ∈ mid, f.leavesText = true) ∧ ∀ done f rest, events = done ++ f :: rest →
        (first.after done).applied? f ≠ none → done.length < early.length := by
  induction waits with
  | set early solid =>
    refine ⟨early,[],rfl,rfl,by simp,fun done f rest same applied => ?_⟩
    obtain ⟨more,rfl⟩ := appliedBefore rfl same applied
    simp
  | @on events text moment e _ leaves silent ih =>
    obtain ⟨early,mid,rfl,now,kept,earlier⟩ := ih
    refine ⟨early,mid ++ [e],by simp,now,?_,fun done f rest same applied => ?_⟩
    · exact List.forall_mem_append.mpr ⟨kept,List.forall_mem_singleton.mpr leaves⟩
    · obtain ⟨more,before⟩ := appliedBefore silent (by simpa using same) applied
      exact earlier done f more before applied

structure Kept (first : Session) (events : List Event) : Prop where
  delay : (first.after events).typing.delay = first.typing.delay
  waits : ∀ a, (first.after events).typing.alarm = some a →
    Waits first events (first.after events).text (a.due - first.typing.delay)

theorem afterAppend (s : Session) (early late : List Event) : s.after (early ++ late) = (s.after early).after late :=
  List.foldl_append

theorem stoppedKept (kept : Kept first events) {e : Event}
    (timer : ((first.after events).meet e).typing = (first.after events).typing.cancel) : Kept first (events ++ [e]) := by
  have next : first.after (events ++ [e]) = (first.after events).meet e := afterAppend ..
  refine ⟨by rw [next,timer]; exact kept.delay,fun a alarm => ?_⟩
  rw [next,timer] at alarm
  contradiction

theorem meetKept (kept : Kept first events) (e : Event) : Kept first (events ++ [e]) := by
  have next : first.after (events ++ [e]) = (first.after events).meet e := afterAppend ..
  cases meetHeard (first.after events) e with
  | @set text made _ taken timer =>
    cases blank : Text.allBlank text with
    | true => exact stoppedKept kept (timer.trans (if_pos blank))
    | false =>
      have armed := timer.trans (if_neg (by simp [blank]))
      refine ⟨by rw [next,armed]; exact kept.delay,fun a alarm => ?_⟩
      rw [next,armed] at alarm
      have due : (first.after events).now + first.typing.delay = a.due := by
        rw [← kept.delay]
        exact congrArg Alarm.due (Option.some.inj alarm)
      rw [next,taken,← due,add_sub_cancel_right,made]
      exact .set events blank
  | closed _ _ _ timer => exact stoppedKept kept timer
  | applied _ _ _ _ timer => exact stoppedKept kept timer
  | left silent leaves same =>
    refine ⟨by rw [next,same.typing,kept.delay],fun a alarm => ?_⟩
    rw [next,same.typing] at alarm
    rw [next,same.text]
    exact .on (kept.waits a alarm) leaves silent

theorem afterKept (idle : first.typing.alarm = none) (events : List Event) : Kept first events := by
  induction events using List.reverseRecOn with
  | nil => exact ⟨rfl,fun a alarm => nomatch idle.symm.trans alarm⟩
  | append_singleton events e ih => exact meetKept ih e

theorem meetIdle {s : Session} (idle : s.typing.alarm = none) {e : Event}
    (blank : ∀ text, e = .move (.setText text) → Text.allBlank text = true) : (s.meet e).typing.alarm = none := by
  cases meetHeard s e with
  | set made _ _ timer => rw [timer,if_pos (blank _ made)]; rfl
  | closed _ _ _ timer => rw [timer]; rfl
  | applied _ _ _ _ timer => rw [timer]; rfl
  | left _ _ same => rw [same.typing,idle]

theorem afterIdle {s : Session} (idle : s.typing.alarm = none) {events : List Event}
    (blank : ∀ text, .move (.setText text) ∈ events → Text.allBlank text = true) :
    (s.after events).typing.alarm = none := by
  induction events generalizing s with
  | nil => exact idle
  | cons e rest ih =>
    refine ih (meetIdle idle fun text made => ?_) fun text member => blank text (List.mem_cons_of_mem _ member)
    exact blank text (made ▸ List.mem_cons_self ..)

theorem idleSilent {s : Session} (idle : s.typing.alarm = none) (e : Event) : s.applied? e = none := by
  cases meetHeard s e with
  | set _ silent | closed _ silent | left silent => exact silent
  | applied _ pending => simp [Debounce.pending,idle] at pending

end

/-- Over every run of a session, and whatever happens next: what is applied to the fields is the text that was set last.
It is not blank, nothing has been applied since it was set, the session has not been closed since, and either a save is
asked for or it has been left alone for the delay. No other way but a command changes the form. Pending text is not blank.
Once the session is closed, or blank text is set, nothing is applied until a text is set that is not blank. -/
theorem typedTextFaithful (editor : Editor) (m : Mint) (p : Persistence) (autosaveDelay typingDelay : Rat)
    (events : List Event) (e : Event) :
    let first := start editor m p autosaveDelay typingDelay
    let s := first.after events
    (∀ text, s.applied? e = some text → (s.meet e).editor.fields = Editor.arranged (Outline.parse text s.mint).1.fields) ∧
    (s.applied? e = none → e.isEdit = false → (s.meet e).editor.content = s.editor.content) ∧
    (∀ text, s.applied? e = some text → Text.allBlank text = false ∧
      ∃ early mid, events = early ++ .move (.setText text) :: mid ∧ (∀ f ∈ mid, f.leavesText = true) ∧
        (e = .move .saveNow ∨ e = .move .ringTyping ∧ (first.after early).now + typingDelay ≤ s.now) ∧
        ∀ done f rest, events = done ++ f :: rest → (first.after done).applied? f ≠ none → done.length < early.length) ∧
    (s.typing.pending = true → Text.allBlank s.text = false) ∧
    ∀ before stop mid, events = before ++ stop :: mid →
      (stop = .move .close ∨ ∃ blank, stop = .move (.setText blank) ∧ Text.allBlank blank = true) →
      (∀ text, .move (.setText text) ∈ mid → Text.allBlank text = true) →
      s.typing.pending = false ∧ s.applied? e = none := by
  intro first s
  have kept : Kept first events := afterKept rfl events
  have waits (pending : s.typing.pending = true) :
      ∃ a, s.typing.alarm = some a ∧ Waits first events s.text (a.due - typingDelay) := by
    obtain ⟨a,alarm⟩ := Option.isSome_iff_exists.mp pending
    exact ⟨a,alarm,kept.waits a alarm⟩
  refine ⟨fun text applied => ?_,fun silent plain => ?_,fun text applied => ?_,fun pending => ?_,?_⟩
  · cases meetHeard s e with
    | set _ silent | closed _ silent | left silent => exact nomatch silent.symm.trans applied
    | applied turn _ _ _ _ fields =>
      cases turn.symm.trans applied
      exact fields
  · cases meetHeard s e with
    | set _ _ _ _ form | closed _ _ _ _ form => rw [form]
    | applied turn => exact nomatch silent.symm.trans turn
    | left _ _ _ content => exact content plain
  · cases meetHeard s e with
    | set _ silent | closed _ silent | left silent => exact nomatch silent.symm.trans applied
    | applied turn pending due =>
      cases turn.symm.trans applied
      obtain ⟨a,alarm,waiting⟩ := waits pending
      obtain ⟨early,mid,place,now,left,earlier⟩ := waiting.place
      refine ⟨waiting.solid,early,mid,place,left,due.imp id fun ⟨made,due⟩ => ⟨made,?_⟩,earlier⟩
      rw [now,sub_add_cancel]
      simpa [Debounce.isDue,alarm] using due
  · obtain ⟨_,-,waiting⟩ := waits pending
    exact waiting.solid
  · rintro before stop mid rfl stops blank
    have stopped : ((first.after before).meet stop).typing.alarm = none := by
      rcases stops with rfl | ⟨text,rfl,none⟩
      · rfl
      · rw [meet,move,setText,if_pos none]
        rfl
    have idle : s.typing.alarm = none := by
      rw [show s = ((first.after before).meet stop).after mid from afterAppend ..]
      exact afterIdle stopped blank
    exact ⟨by simp [Debounce.pending,idle],idleSilent idle e⟩

theorem laterTextApplied :
    let e : Editor := .ofParts [] (.str "") .null .default
    let events : List Event := [.move (.setText "a"),.move (.pass (1 / 2)),.move .ringTyping,.move (.setText "b"),
      .move (.pass 1)]
    let s := (start e (.atSeconds 0) .stalled 2 1).after events
    s.applied? (.move .ringTyping) = some "b" ∧ Text.allBlank "b" = false ∧
    (s.meet (.move .ringTyping)).editor.fields = Editor.arranged (Outline.parse "b" s.mint).1.fields ∧
    (s.meet (.move .ringTyping)).applied? (.move .saveNow) = none := by
  intro e events s
  have turn : s.applied? (.move .ringTyping) = some "b" := by decide +kernel
  have stopped : (s.meet (.move .ringTyping)).typing.pending = false := by decide +kernel
  obtain ⟨fields,-,faithful,-⟩ := typedTextFaithful e (.atSeconds 0) .stalled 2 1 events (.move .ringTyping)
  exact ⟨turn,(faithful "b" turn).1,fields "b" turn,by simp only [applied?,stopped]; rfl⟩

end FormBuilder.Session
