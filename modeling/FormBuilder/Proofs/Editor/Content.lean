import FormBuilder.Editor.Instruction
/-! What a command can do to the form being edited. Either it touches the editor, and then the revision
moves on and the editor is dirty; or everything that a save would keep stays as it was. -/
namespace FormBuilder.Editor

def content (e : Editor) : List Field × Value × Value × Settings :=
  (e.fields,e.title,e.description,e.settings)

theorem snapshotOfContent {a b : Editor} (same : a.content = b.content) : a.snapshot = b.snapshot := by
  simp only [content,Prod.mk.injEq] at same
  obtain ⟨fields,title,description,settings⟩ := same
  simp only [snapshot,fields,title,description,settings]

structure Untouched (before after : Editor) : Prop where
  content : after.content = before.content
  revision : after.revision = before.revision
  dirty : after.dirty = before.dirty

structure Touched (before after : Editor) : Prop where
  revision : after.revision = before.revision + 1
  dirty : after.dirty = true

theorem Untouched.refl (e : Editor) : Untouched e e := ⟨rfl,rfl,rfl⟩

inductive Effect (e : Editor) (p : Performed) : Prop where
  | untouched (same : Untouched e p.editor)
  | touched (new : Touched e p.editor) (through : ∃ reply, p.reply = .ok reply)

theorem Effect.refused {e p} (effect : Effect e p) {why} (refused : p.reply = .error why) :
    Untouched e p.editor := by
  cases effect with
  | untouched same => exact same
  | touched _ through =>
    obtain ⟨reply,answered⟩ := through
    rw [refused] at answered
    contradiction

theorem touchTouches (e : Editor) (m : Mint) (reply : Reply) {changed : Editor}
    (revision : changed.revision = e.revision) : Effect e (.ofOutcome (.silent changed.touch m reply)) :=
  .touched ⟨congrArg (· + 1) revision,rfl⟩ ⟨.inl reply,rfl⟩

theorem addEffect (e : Editor) (t position m) : Effect e (.ofOutcome (e.add t position m)) :=
  touchTouches e _ _ rfl

theorem updateEffect (e : Editor) (id changes m) : Effect e (.ofOutcome (e.update id changes m)) := by
  unfold update
  split
  · split
    · exact .untouched (.refl e)
    · exact .untouched (.refl e)
    · exact touchTouches e _ _ rfl
  · exact .untouched (.refl e)

theorem deleteEffect (e : Editor) (id m) : Effect e (.ofOutcome (e.delete id m)) := by
  unfold delete
  split
  · exact .untouched (.refl e)
  · exact touchTouches e _ _ rfl

theorem duplicateEffect (e : Editor) (id m) : Effect e (.ofOutcome (e.duplicate id m)) := by
  unfold duplicate
  split
  · exact touchTouches e _ _ rfl
  · exact .untouched (.refl e)

theorem reorderEffect (e : Editor) (source target m) : Effect e (.ofOutcome (e.reorder source target m)) := by
  unfold reorder
  split
  · exact touchTouches e _ _ rfl
  · exact .untouched (.refl e)

theorem setFieldsEffect (e : Editor) (items m) : Effect e (.ofOutcome (e.setFields items m)) := by
  unfold setFields
  split
  · exact .untouched (.refl e)
  · split
    · exact .untouched (.refl e)
    · exact touchTouches e _ _ rfl

theorem applyTextEffect (e : Editor) (text m) : Effect e (.ofOutcome (e.applyText text m)) :=
  .touched ⟨rfl,rfl⟩ ⟨_,rfl⟩

theorem updateSettingsEffect (e : Editor) (changes m) : Effect e (.ofOutcome (e.updateSettings changes m)) := by
  unfold updateSettings
  split
  · split
    · exact .untouched (.refl e)
    · exact touchTouches e _ _ rfl
  · exact .untouched (.refl e)

theorem runEffect (e : Editor) (m : Mint) (c : Command) : Effect e (.ofOutcome (e.run m c)) := by
  cases c with
  | add type position =>
    simp only [run]
    split
    · split
      · exact addEffect e _ _ m
      · exact .untouched (.refl e)
    · exact .untouched (.refl e)
  | update id changes => exact updateEffect e id changes m
  | delete id => exact deleteEffect e id m
  | duplicate id => exact duplicateEffect e id m
  | reorder source target => exact reorderEffect e source target m
  | select id => exact .untouched ⟨rfl,rfl,rfl⟩
  | setFields items => exact setFieldsEffect e items m
  | applyText text => exact applyTextEffect e text m
  | setTitle title => exact touchTouches e _ _ rfl
  | setDescription description => exact touchTouches e _ _ rfl
  | updateSettings changes => exact updateSettingsEffect e changes m
  | togglePreview => exact .untouched ⟨rfl,rfl,rfl⟩

theorem runEditEffect (e : Editor) (m : Mint) (edit : Edit) : Effect e (e.runEdit m edit) := by
  unfold runEdit
  split
  · exact runEffect e m _
  · exact .untouched (.refl e)
  · exact .untouched (.refl e)
  · unfold addBetween
    dsimp only
    split <;> exact .untouched (.refl e)

end FormBuilder.Editor
