import FormBuilder.Proofs.Editor.Content
import FormBuilder.Proofs.Editor.Guarded
/-! What an instruction comes to, whatever its arguments are. Either it is idle, and leaves content and revision as they
were; or the revision moves on by one, and but for a reset the editor is dirty. -/
namespace FormBuilder

namespace Edit

theorem readPlaceCases (size : Nat) (type : Value) (t : FieldType) (n : Index) :
    (∃ place, readPlace size type t n = .run (.add type place)) ∨ ∃ place, readPlace size type t n = .between t place := by
  unfold readPlace
  split
  · exact .inl ⟨_,rfl⟩
  · split
    · exact .inl ⟨_,rfl⟩
    · split
      · exact .inr ⟨_,rfl⟩
      · exact .inl ⟨_,rfl⟩

theorem readAddCases (size : Nat) (type position : Value) :
    (∃ place, readAdd size type position = .run (.add type place)) ∨
    (∃ why, readAdd size type position = .objection why) ∨
    ∃ t place, readAdd size type position = .between t place := by
  unfold readAdd
  cases typeOf? type with
  | none => exact .inr (.inl ⟨_,rfl⟩)
  | some t =>
    cases position with
    | null | bool | int => exact .inl ⟨_,rfl⟩
    | str | list | object => exact .inr (.inl ⟨_,rfl⟩)
    | float x =>
      rcases readPlaceCases size type t (.real x) with ⟨place,reads⟩ | ⟨place,reads⟩
      · exact .inl ⟨place,reads⟩
      · exact .inr (.inr ⟨t,place,reads⟩)

theorem readMoveCases (size : Nat) (source target : Value) :
    (∃ i j, readMove size source target = .run (.reorder i j)) ∨
    readMove size source target = .answer (.flag false) ∨
    ∃ why, readMove size source target = .objection why := by
  unfold readMove
  split
  · exact .inr (.inr ⟨_,rfl⟩)
  · split
    · exact .inr (.inl rfl)
    · split
      · exact .inr (.inr ⟨_,rfl⟩)
      · split
        · exact .inr (.inl rfl)
        · split
          · exact .inl ⟨_,_,rfl⟩
          · exact .inr (.inr ⟨_,rfl⟩)

theorem readTextCases (text : Value) :
    (∃ s, readText text = .run (.applyText s)) ∨ readText text = .objection .noText := by
  unfold readText
  split
  · exact .inl ⟨_,rfl⟩
  · split
    · exact .inl ⟨_,rfl⟩
    · exact .inr rfl

end Edit

namespace Editor

def Unknown (e : Editor) : Instruction → Prop
  | .edit (.update id _) | .edit (.delete id) | .edit (.duplicate id) => ∀ f ∈ e.fields, id ≠ .str f.id
  | _ => False

def Declined (p : Performed) : Instruction → Prop
  | .edit (.update _ _) | .edit (.duplicate _) => p.reply = .ok (.inl .nothing)
  | .edit (.delete _) | .edit (.reorder _ _) => p.reply = .ok (.inl (.flag false))
  | .edit (.updateSettings _) => p.notices ≠ []
  | _ => False

def Passive : Instruction → Prop
  | .edit (.select _) | .edit .togglePreview | .markSaved | .snapshot | .save _ | .endSave _ => True
  | _ => False

inductive Idle (e : Editor) (i : Instruction) (p : Performed) : Prop where
  | raised (why : Objection) (told : p.reply = .error why)
  | declined (told : Declined p i)
  | unknown (named : Unknown e i)
  | passive (kind : Passive i)

structure Unmoved (before after : Editor) : Prop where
  content : after.content = before.content
  revision : after.revision = before.revision

structure Moved (i : Instruction) (before after : Editor) : Prop where
  revision : after.revision = before.revision + 1
  dirty : i ≠ .reset → after.dirty = true

inductive Verdict (e : Editor) (i : Instruction) (p : Performed) : Prop where
  | idle (idle : Idle e i p) (same : Unmoved e p.editor)
  | moved (active : ¬Idle e i p) (new : Moved i e p.editor)

theorem Unmoved.refl (e : Editor) : Unmoved e e := ⟨rfl,rfl⟩

variable {e : Editor} {i : Instruction}

theorem failedVerdict (m : Mint) (why : Objection) : Verdict e i (.failed e m why) := .idle (.raised why rfl) (.refl e)

theorem answeredVerdict {p : Performed} {r : Reply ⊕ Snapshot} (reply : p.reply = .ok r) (done : ¬Declined p i)
    (known : ¬Unknown e i) (acts : ¬Passive i) (revision : p.editor.revision = e.revision + 1)
    (dirty : p.editor.dirty = true) : Verdict e i p := by
  refine .moved (fun idle => ?_) ⟨revision,fun _ => dirty⟩
  cases idle with
  | raised why told =>
    rw [reply] at told
    contradiction
  | declined told => exact done told
  | unknown named => exact known named
  | passive kind => exact acts kind

theorem indexKnown {s : String} {n : Nat} (index : e.indexOf? s = some n) : ¬∀ f ∈ e.fields, Value.str s ≠ .str f.id := by
  obtain ⟨f,there,named,-⟩ := indexFound index
  exact fun unknown => unknown f (List.mem_of_getElem? there) (congrArg Value.str named.symm)

theorem addVerdict (e : Editor) (m : Mint) (type position : Value) (place : Option Int) :
    Verdict e (.edit (.add type position)) (.ofOutcome (e.run m (.add type place))) := by
  unfold run
  dsimp only
  split
  · split
    · exact answeredVerdict rfl id id id rfl rfl
    · exact failedVerdict m _
  · exact failedVerdict m _

theorem updateVerdict (e : Editor) (m : Mint) (s : String) (changes : Value) :
    Verdict e (.edit (.update (.str s) changes)) (.ofOutcome (e.update s changes m)) := by
  unfold update
  split
  · rename_i index _
    split
    · exact failedVerdict m _
    · exact .idle (.declined rfl) (.refl e)
    · exact answeredVerdict rfl nofun (indexKnown index) id rfl rfl
  · exact .idle (.declined rfl) (.refl e)

theorem deleteVerdict (e : Editor) (m : Mint) (s : String) :
    Verdict e (.edit (.delete (.str s))) (.ofOutcome (e.delete s m)) := by
  unfold delete
  split
  · exact .idle (.declined rfl) (.refl e)
  · rename_i index
    exact answeredVerdict rfl nofun (indexKnown index) id rfl rfl

theorem duplicateVerdict (e : Editor) (m : Mint) (s : String) :
    Verdict e (.edit (.duplicate (.str s))) (.ofOutcome (e.duplicate s m)) := by
  unfold duplicate
  split
  · rename_i index _
    exact answeredVerdict rfl nofun (indexKnown index) id rfl rfl
  · exact .idle (.declined rfl) (.refl e)

theorem reorderVerdict (e : Editor) (m : Mint) (source target : Value) (i j : Int) :
    Verdict e (.edit (.reorder source target)) (.ofOutcome (e.reorder i j m)) := by
  unfold reorder
  split
  · exact answeredVerdict rfl nofun id id rfl rfl
  · exact .idle (.declined rfl) (.refl e)

theorem setFieldsVerdict (e : Editor) (m : Mint) (items : Value) :
    Verdict e (.edit (.setFields items)) (.ofOutcome (e.setFields items m)) := by
  unfold setFields
  split
  · exact failedVerdict m _
  · split
    · rename_i faults after _
      exact failedVerdict after _
    · exact answeredVerdict rfl id id id rfl rfl

theorem updateSettingsVerdict (e : Editor) (m : Mint) (changes : Value) :
    Verdict e (.edit (.updateSettings changes)) (.ofOutcome (e.updateSettings changes m)) := by
  unfold updateSettings
  split
  · split
    · exact .idle (.declined (List.cons_ne_nil _ _)) (.refl e)
    · exact answeredVerdict rfl (fun told => told rfl) id id rfl rfl
  · exact failedVerdict m _

theorem addBetweenVerdict (e : Editor) (m : Mint) (t : FieldType) (place : Double) :
    Verdict e i (e.addBetween t place m) := by
  unfold addBetween
  dsimp only
  split
  · exact failedVerdict _ _
  · exact failedVerdict _ _

theorem setItemsVerdict (e : Editor) (m : Mint) (items : List (Field ⊕ Value)) :
    Verdict e (.setItems items) (e.setItems items m) := by
  unfold setItems
  split
  · exact failedVerdict _ _
  · exact answeredVerdict rfl id id id rfl rfl

theorem runEditVerdict (e : Editor) (m : Mint) (edit : Edit) : Verdict e (.edit edit) (e.runEdit m edit) := by
  unfold runEdit
  cases edit with
  | add type position =>
    simp only [Edit.read]
    rcases Edit.readAddCases e.fields.length type position with ⟨place,reads⟩ | ⟨why,reads⟩ | ⟨t,place,reads⟩
    · rw [reads]
      exact addVerdict e m type position place
    · rw [reads]
      exact failedVerdict m why
    · rw [reads]
      exact addBetweenVerdict e m t place
  | update id changes =>
    cases id with
    | str s => exact updateVerdict e m s changes
    | _ => exact .idle (.declined rfl) (.refl e)
  | delete id =>
    cases id with
    | str s => exact deleteVerdict e m s
    | _ => exact .idle (.declined rfl) (.refl e)
  | duplicate id =>
    cases id with
    | str s => exact duplicateVerdict e m s
    | _ => exact .idle (.declined rfl) (.refl e)
  | reorder source target =>
    simp only [Edit.read]
    rcases Edit.readMoveCases e.fields.length source target with ⟨i,j,reads⟩ | reads | ⟨why,reads⟩
    · rw [reads]
      exact reorderVerdict e m source target i j
    · rw [reads]
      exact .idle (.declined rfl) (.refl e)
    · rw [reads]
      exact failedVerdict m why
  | select id => exact .idle (.passive trivial) ⟨rfl,rfl⟩
  | setFields items => exact setFieldsVerdict e m items
  | applyText text =>
    simp only [Edit.read]
    rcases Edit.readTextCases text with ⟨s,reads⟩ | reads
    · rw [reads]
      exact answeredVerdict rfl id id id rfl rfl
    · rw [reads]
      exact failedVerdict m .noText
  | setTitle title => exact answeredVerdict rfl id id id rfl rfl
  | setDescription description => exact answeredVerdict rfl id id id rfl rfl
  | updateSettings changes => exact updateSettingsVerdict e m changes
  | togglePreview => exact .idle (.passive trivial) ⟨rfl,rfl⟩

theorem saveUnmoved (e : Editor) (p : Persistence) : Unmoved e (e.save p).1 := by
  unfold save
  split
  · exact .refl e
  · exact .refl e
  · exact ⟨rfl,rfl⟩

theorem performVerdict (e : Editor) (m : Mint) (i : Instruction) : Verdict e i (e.perform m i) := by
  cases i with
  | edit edit => exact runEditVerdict e m edit
  | setItems items => exact setItemsVerdict e m items
  | markSaved => exact .idle (.passive trivial) ⟨rfl,rfl⟩
  | reset =>
    refine .moved (fun idle => ?_) ⟨rfl,fun other => absurd rfl other⟩
    cases idle with
    | raised why told => contradiction
    | declined told => exact told
    | unknown named => exact named
    | passive kind => exact kind
  | snapshot => exact .idle (.passive trivial) (.refl e)
  | save persistence => exact .idle (.passive trivial) (saveUnmoved e persistence)
  | endSave revision => exact .idle (.passive trivial) ⟨rfl,rfl⟩

/-- Whatever an instruction is given: if the content differs after it, the revision is greater than before, and unless it
was a reset the editor is dirty. What raises, is declined, names a field that is not there or only looks leaves content
and revision alone; everything else moves the revision on by one. -/
theorem contentMovesRevision (e : Editor) (m : Mint) (i : Instruction) :
    let p := e.perform m i
    (p.editor.content ≠ e.content → e.revision < p.editor.revision ∧ (i ≠ .reset → p.editor.dirty = true)) ∧
    (Idle e i p → p.editor.content = e.content ∧ p.editor.revision = e.revision) ∧
    (¬Idle e i p → p.editor.revision = e.revision + 1) := by
  intro p
  cases performVerdict e m i with
  | idle idle same =>
    exact ⟨fun differs => absurd same.content differs,fun _ => ⟨same.content,same.revision⟩,
      fun active => absurd idle active⟩
  | moved active new =>
    have later : e.revision < p.editor.revision := by
      rw [new.revision]
      exact Nat.lt_succ_self _
    exact ⟨fun _ => ⟨later,new.dirty⟩,fun idle => absurd idle active,fun _ => new.revision⟩

theorem placedNotMoved :
    let m := Mint.atSeconds 0
    let e : Editor := ⟨[⟨"f",none,"Name",0,.plain false,.text⟩],.str "Poll",.null,.default,none,false,false,false,0⟩
    let placed := Instruction.edit (.add (.str "email") (.bool true))
    let moved := Instruction.edit (.reorder (.int 1) .null)
    let after := (e.perform m placed).editor
    (after.content ≠ e.content ∧ e.revision < after.revision ∧ after.dirty = true) ∧
    (after.perform m moved).reply = .error .unordered ∧ (after.perform m moved).editor.content = after.content ∧
    (after.perform m moved).editor.revision = after.revision := by
  intro m e placed moved after
  have differs : after.content ≠ e.content := by
    intro same
    have count : 2 = 1 := congrArg (fun c => c.1.length) same
    contradiction
  obtain ⟨moves,-,-⟩ := contentMovesRevision e m placed
  obtain ⟨later,dirty⟩ := moves differs
  obtain ⟨-,idle,-⟩ := contentMovesRevision after m moved
  have raised : (after.perform m moved).reply = .error .unordered := rfl
  exact ⟨⟨differs,later,dirty nofun⟩,raised,idle (.raised _ raised)⟩

end Editor
end FormBuilder
