import FormBuilder.Proofs.Session.Saves
/-! What an edit does to a session that it goes through. Saves are not its business; but once it has
been answered, whatever is unsaved waits for the quiet period. -/
namespace FormBuilder.Session
open Editor (Untouched Touched)

structure SavesKept (s t : Session) : Prop where
  saver : t.saver = s.saver
  flight : t.flight = s.flight
  due : t.due = s.due
  taken : t.lastTaken = s.lastTaken

inductive Edited (s t : Session) : Prop where
  | refused (same : Untouched s.editor t.editor) (autosave : t.autosave = s.autosave)
  | answered (editor : Untouched s.editor t.editor ∨ Touched s.editor t.editor)
      (armed : t.editor.dirty = true → t.autosave.pending = true)

theorem Edited.editor {s t : Session} (edited : Edited s t) :
    Untouched s.editor t.editor ∨ Touched s.editor t.editor := by
  cases edited with
  | refused same _ => exact .inl same
  | answered editor _ => exact editor

theorem editKept (s : Session) (e : Edit) : SavesKept s (s.edit e).1 :=
  ⟨rfl,rfl,rfl,lastTakenNotify _ _⟩

theorem dispatchKept (s : Session) (e : Edit) : SavesKept s (s.dispatch e).1 := by
  have kept := editKept s e
  simp only [dispatch]
  split
  · split
    · exact ⟨kept.saver,kept.flight,kept.due,kept.taken⟩
    · exact kept
  · exact kept

theorem dispatchEdited (s : Session) (e : Edit) : Edited s (s.dispatch e).1 := by
  have effect : Editor.Effect s.editor (s.editor.runEdit s.mint e) := Editor.runEditEffect s.editor s.mint e
  simp only [dispatch]
  split
  · have changed : Untouched s.editor (s.edit e).1.editor ∨ Touched s.editor (s.edit e).1.editor := by
      cases effect with
      | untouched same => exact .inl same
      | touched new _ => exact .inr new
    split
    · exact .answered changed fun _ => rfl
    · rename_i clean
      exact .answered changed fun dirty => absurd dirty clean
  · rename_i why refused
    exact .refused (effect.refused refused) rfl

theorem applyTypedKept (s : Session) : SavesKept s s.applyTyped := by
  have kept := dispatchKept { s with typing := s.typing.cancel } (.applyText (.str s.text))
  exact ⟨kept.saver,kept.flight,kept.due,kept.taken⟩

theorem applyTypedEdited (s : Session) : Edited s s.applyTyped := by
  cases dispatchEdited { s with typing := s.typing.cancel } (.applyText (.str s.text)) with
  | refused same autosave => exact .refused same autosave
  | answered editor armed => exact .answered editor armed

end FormBuilder.Session
