import FormBuilder.Field.Changes
import FormBuilder.Proofs.Field.Parts
import FormBuilder.Proofs.Text.Lower
/-! What a change of a field makes of its attributes: those it does not name, in any spelling, stay as they are. -/
namespace FormBuilder.Field

theorem overlayHeld {base next : Object × Object} {key name : String} {v : Value} (ok : overlay base key v = .ok next)
    (plain : name ≠ "config") (own : isFlat name = false) :
    next.1.value? name = if key = name then some v else base.1.value? name := by
  unfold overlay at ok
  split at ok
  · rename_i same
    obtain ⟨o,-,rfl⟩ := Checked.mapOk.mp ok
    rw [if_neg (same ▸ plain.symm)]
  · split at ok
    · rename_i flat
      cases ok
      rw [if_neg]
      rintro rfl
      rw [flat] at own
      contradiction
    · cases ok
      exact Object.valuePut _ _ _ _

theorem overlayAllHeld {base next : Object × Object} {changes : Object} {name : String}
    (ok : overlayAll base changes = .ok next) (plain : name ≠ "config") (own : isFlat name = false) :
    next.1.value? name = (Object.value? changes.reverse name).or (base.1.value? name) := by
  induction changes generalizing base with
  | nil =>
    cases ok
    rfl
  | cons e rest ih =>
    rw [overlayAll] at ok
    split at ok
    · rename_i after step
      rw [ih ok,overlayHeld step plain own,List.reverse_cons,Object.valueAppend,Object.valueCons,Object.valueNil]
      cases Object.value? rest.reverse name with
      | some w => rfl
      | none => split <;> rfl
    · contradiction

def asked (changes : Object) (name : String) : Option Value :=
  (changes.reverse.find? (fun c => Text.underscored c.1 == name)).map (·.2)

def Spares (changes : Object) (name : String) : Prop := ∀ c ∈ changes, Text.underscored c.1 ≠ name

theorem askedRenamed (changes : Object) (name : String) :
    (changes.renameKeys Text.underscored).value? name = asked changes name := by
  rw [Object.renamedOverlay,Object.valueOverlay,Object.valueNil,Option.or_none,Object.valueFind,← List.map_reverse,
    List.find?_map,Option.map_map]
  rfl

theorem askedNone {changes : Object} {name : String} : asked changes name = none ↔ Spares changes name := by
  simp [asked,Spares]

theorem changedHeld {f : Field} {changes : Object} {v : Value} (ok : changed f changes = .ok v) :
    ∃ raw : Object, v = .object raw ∧ ∀ name, name ≠ "config" → isFlat name = false →
      raw.value? name = (asked changes name).or ((f.entries .plain).value? name) := by
  unfold changed at ok
  obtain ⟨base,laid,rfl⟩ := Checked.mapOk.mp ok
  refine ⟨_,rfl,fun name plain own => ?_⟩
  rw [Object.valuePut,if_neg plain.symm,overlayAllHeld laid plain own,Object.valueReverse (Object.renamedDistinct _ _),
    askedRenamed]

def Became (asked : Option Value) (read : Value → Checked α) (before after : α) : Prop :=
  match asked with
  | none => after = before
  | some v => read v = .ok after

theorem readAtLaid {o : Object} {names : List String} {used : String} {asked : Option Value} {read : Value → Checked α}
    {written : Value} {before after default : α} (given : o.given? names = some (used,asked.getD written))
    (back : read written = .ok before) (ok : o.readAt names default read = .ok after) :
    Became asked read before after := by
  simp only [Object.readAt,given,Checked.underOk] at ok
  cases asked with
  | none => exact (Except.ok.inj (back.symm.trans ok)).symm
  | some v => exact ok

structure Placed (changes : Object) (f g : Field) : Prop where
  id : Became (asked changes "id") Scalar.text f.id g.id
  order : Became (asked changes "order") Scalar.nat f.order g.order
  persistedId : Became (asked changes "persisted_id") (Scalar.optional Scalar.text) f.persistedId g.persistedId

theorem Placed.same {changes : Object} {f g : Field} (placed : Placed changes f g) :
    (Spares changes "id" → g.id = f.id) ∧ (Spares changes "order" → g.order = f.order) ∧
      (Spares changes "persisted_id" → g.persistedId = f.persistedId) := by
  obtain ⟨id,order,persistedId⟩ := placed
  refine ⟨fun spares => ?_,fun spares => ?_,fun spares => ?_⟩
  · rwa [askedNone.mpr spares] at id
  · rwa [askedNone.mpr spares] at order
  · rwa [askedNone.mpr spares] at persistedId

-- No spelling without capitals is the one with a capital, so only the plain one is left.
theorem persistedGiven {f : Field} {changes raw : Object} (held : ∀ name, name ≠ "config" → isFlat name = false →
    raw.value? name = (asked changes name).or ((f.entries .plain).value? name)) :
    raw.given? persistedIdNames =
      some ("persisted_id",(asked changes "persisted_id").getD (.ofOption .str f.persistedId)) := by
  have plain : raw.value? "persisted_id" =
      some ((asked changes "persisted_id").getD (.ofOption .str f.persistedId)) := by
    rw [held _ (by decide) (by decide)]
    cases asked changes "persisted_id" <;> simp [entries,valuePlain,Key.id,Key.persistedId]
  have unspelled : raw.value? "persistedId" = none := by
    have spares : Spares changes "persistedId" := fun c _ => Text.underscoredAvoids (by decide) c.1
    rw [held _ (by decide) (by decide),askedNone.mpr spares]
    simp [entries,valuePlain,Key.id,Key.persistedId,Key.label,Key.order,Key.config,Key.type]
  simp [persistedIdNames,Object.given?,unspelled,plain]

theorem applyPlaced {f g : Field} {changes : Object} (ok : apply f changes = .ok (.ok g)) : Placed changes f g := by
  obtain ⟨v,change,ok⟩ := Checked.mapOk.mp ok
  obtain ⟨raw,rfl,held⟩ := changedHeld change
  obtain ⟨t,_,tag,parts⟩ := readParts ok
  cases taggedRaw tag
  have kept (name : String) (plain : name ≠ "config") (own : isFlat name = false) :
      (foldFlat raw).value? name = (asked changes name).or ((f.entries .plain).value? name) :=
    (foldFlatKeeps raw own plain).trans (held name plain own)
  have id : (foldFlat raw).value? "id" = some ((asked changes "id").getD (.str f.id)) := by
    rw [kept _ (by decide) (by decide)]
    cases asked changes "id" <;> simp [entries,valuePlain,Key.id]
  have order : (foldFlat raw).value? "order" = some ((asked changes "order").getD (.ofNat f.order)) := by
    rw [kept _ (by decide) (by decide)]
    cases asked changes "order" <;> simp [entries,valuePlain,Key.id,Key.persistedId,Key.label,Key.order]
  have back : Scalar.optional Scalar.text (.ofOption .str f.persistedId) = .ok f.persistedId := by
    cases f.persistedId <;> rfl
  exact ⟨readAtLaid (Object.givenCamel (k := .id) id) rfl parts.id,
    readAtLaid (Object.givenCamel (k := .order) order) (Scalar.readNat f.order) parts.order,
    readAtLaid (persistedGiven kept) back parts.persistedId⟩

end FormBuilder.Field
