import FormBuilder.Proofs.Session.Edits
/-! Acts are made of moves, so whatever holds after all moves holds after all acts. After an act no save waits for its
turn any more. -/
namespace FormBuilder

def Act.ordinary : Act → Bool
  | .direct _ | .amend _ => false
  | _ => true

namespace Session

def actAll (s : Session) (acts : List Act) : Session := acts.foldl (fun s a => (s.act a).1) s

-- One session comes to the other by moves, of which only one that `may` be there closes it.
def Plays (may : Prop) (s t : Session) : Prop := ∃ moves, (Move.close ∈ moves → may) ∧ t = s.play moves

section
variable {may : Prop} {s t u : Session}

theorem Plays.refl (s : Session) : Plays may s s := ⟨[],by simp,rfl⟩

theorem Plays.move (s : Session) {m : Move} (allowed : m = .close → may) : Plays may s (s.move m) :=
  ⟨[m],fun closes => allowed (List.mem_singleton.mp closes).symm,rfl⟩

theorem Plays.trans (first : Plays may s t) (later : Plays may t u) : Plays may s u := by
  obtain ⟨ms,opened,rfl⟩ := first
  obtain ⟨ns,opened',rfl⟩ := later
  exact ⟨ms ++ ns,fun closes => (List.mem_append.mp closes).elim opened opened',by simp [play,List.foldl_append]⟩

theorem Plays.mono {more : Prop} (plays : Plays may s t) (allowed : may → more) : Plays more s t := by
  obtain ⟨moves,opened,same⟩ := plays
  exact ⟨moves,allowed ∘ opened,same⟩

theorem clockPlays (s : Session) (moment : Rat) : Plays may s { s with now := moment } := by
  have reached : s.now + (moment - s.now) = moment := by grind
  have played : Plays may s (s.move (.pass (moment - s.now))) := .move s nofun
  simpa only [Session.move,reached] using played

theorem goOffPlays (s : Session) : Plays may s s.goOff := by
  have rest (t : Session) : Plays may t t.ringTyping.serve :=
    (Plays.move t (m := .ringTyping) nofun).trans (Plays.move _ (m := .serve) nofun)
  unfold goOff
  split
  · exact rest s
  · exact (Plays.move s (m := .ringAutosave) nofun).trans (rest _)

theorem settlePlays (s : Session) : Plays may s s.settle := (goOffPlays s).trans (goOffPlays _)

theorem stopPlays (limit : Rat) (s : Session) : Plays may s (stop limit s) := by
  unfold stop
  split
  · exact .refl s
  · exact (clockPlays s _).trans (settlePlays _)

theorem advancePlays (s : Session) (duration : Rat) : Plays may s (s.advance duration) := by
  let limit := s.now + duration
  have once : Plays may s _ := stopPlays limit s
  have twice := once.trans (stopPlays limit _)
  have thrice := twice.trans (stopPlays limit _)
  exact (thrice.trans (clockPlays _ limit)).trans (settlePlays _)

theorem actPlays (s : Session) {a : Act} (ordinary : a.ordinary = true) : Plays (a = .close) s (s.act a).1 := by
  cases a with
  | direct e => contradiction
  | amend change => contradiction
  | dispatch e => exact (Plays.move s (m := .dispatch e) nofun).trans (settlePlays _)
  | setText text => exact (Plays.move s (m := .setText text) nofun).trans (settlePlays _)
  | saveNow => exact (Plays.move s (m := .saveNow) nofun).trans (settlePlays _)
  | close => exact (Plays.move s (m := .close) fun _ => rfl).trans (settlePlays _)
  | setPersistence p => exact (Plays.move s (m := .setPersistence p) nofun).trans (settlePlays _)
  | release => exact (Plays.move s (m := .resume (.ok ())) nofun).trans (settlePlays _)
  | advance duration => exact advancePlays s duration

theorem actAllPlays (s : Session) {acts : List Act} (ordinary : ∀ a ∈ acts, a.ordinary = true) :
    Plays (.close ∈ acts) s (s.actAll acts) := by
  induction acts generalizing s with
  | nil => exact .refl s
  | cons a rest ih =>
    obtain ⟨own,others⟩ := List.forall_mem_cons.mp ordinary
    have first : Plays (.close ∈ a :: rest) s (s.act a).1 := (actPlays s own).mono fun closes => closes ▸ List.mem_cons_self
    exact first.trans ((ih (s.act a).1 others).mono (List.mem_cons_of_mem a))

end

theorem goOffServes {s : Session} (rest : s.due = 0) : s.goOff.due = 0 := by
  have serves (t : Session) (few : t.due ≤ 1) : t.ringTyping.serve.due = 0 := by
    have due : t.ringTyping.due = t.due := by
      unfold ringTyping
      split
      · exact (applyTypedKept t).due
      · rfl
    unfold serve
    split
    · assumption
    · rename_i n more
      rw [(flushAside _ false).due]
      show n = 0
      omega
  unfold goOff
  split
  · exact serves s (by omega)
  · refine serves _ ?_
    unfold ringAutosave
    split
    · show s.due + 1 ≤ 1
      omega
    · omega

theorem settleServes {s : Session} (rest : s.due = 0) : s.settle.due = 0 := goOffServes (goOffServes rest)

theorem stopServes (limit : Rat) {s : Session} (rest : s.due = 0) : (stop limit s).due = 0 := by
  unfold stop
  split
  · exact rest
  · exact settleServes (s := { s with now := _ }) rest

theorem actServes {s : Session} (rest : s.due = 0) (a : Act) : (s.act a).1.due = 0 := by
  cases a with
  | dispatch e => exact settleServes ((dispatchKept s e).due.trans rest)
  | direct e => exact settleServes ((editKept s e).due.trans rest)
  | amend change => exact settleServes (s := { s with editor := change s.editor }) rest
  | setText text =>
    refine settleServes ?_
    unfold setText
    split <;> exact rest
  | saveNow =>
    refine settleServes ?_
    simp only [saveNow]
    rw [(flushAside _ true).due]
    split
    · exact (applyTypedKept s).due.trans rest
    · exact rest
  | close => exact settleServes (s := s.close) rest
  | setPersistence p => exact settleServes (s := { s with persistence := p }) rest
  | release => exact settleServes ((resumeAside s _).due.trans rest)
  | advance duration =>
    exact settleServes (s := { stop _ (stop _ (stop _ s)) with now := _ })
      (stopServes _ (stopServes _ (stopServes _ rest)))

theorem actAllServes {s : Session} (rest : s.due = 0) (acts : List Act) : (s.actAll acts).due = 0 := by
  induction acts generalizing s with
  | nil => exact rest
  | cons a others ih => exact ih (actServes rest a)

end Session
end FormBuilder
