import FormBuilder.Proofs.Editor.Order
import FormBuilder.Proofs.Store.MergedSettings
import FormBuilder.Proofs.Wire
/-! What an update of the settings leaves on the wire. A declared setting is found there with what was asked of it in
either spelling. All other names are respelled before they are laid over the settings, while the extras that are there
already are not: what is asked of an extra lands under its plain name, beside the extra of the name that was given,
and an extra that bears the plain name of a declared setting takes its place. -/
namespace FormBuilder

namespace Settings

theorem readsPart {o part : Object} {t : Settings} (ok : ofObject o = .ok t) (among : ∀ k ∈ keys,
    part.given? k.names = none ∨ (part.given? k.names).map Prod.snd = (o.given? k.names).map Prod.snd) :
    ∃ u, ofObject part = .ok u := by
  have reads := readsSound ok
  have each {α : Type} {k : Key} (declared : k ∈ keys) {default : α} {read : Value → Checked α} {a : α}
      (own : o.readAt k.names default read = .ok a) : ∃ b, part.readAt k.names default read = .ok b := by
    rcases among k declared with none | same
    · exact ⟨default,Object.readAtNone none _ _⟩
    · exact ⟨a,Object.readAtSame same own⟩
  obtain ⟨theme,readTheme⟩ := each (by simp [keys]) reads.theme
  obtain ⟨layout,readLayout⟩ := each (by simp [keys]) reads.layout
  obtain ⟨thankYou,readThankYou⟩ := each (by simp [keys]) reads.thankYou
  obtain ⟨redirect,readRedirect⟩ := each (by simp [keys]) reads.redirect
  obtain ⟨webhook,readWebhook⟩ := each (by simp [keys]) reads.webhook
  obtain ⟨enabled,readEnabled⟩ := each (by simp [keys]) reads.webhookEnabled
  obtain ⟨honeypot,readHoneypot⟩ := each (by simp [keys]) reads.honeypot
  obtain ⟨progress,readProgress⟩ := each (by simp [keys]) reads.progressBar
  obtain ⟨branding,readBranding⟩ := each (by simp [keys]) reads.branding
  obtain ⟨multiple,readMultiple⟩ := each (by simp [keys]) reads.multiple
  exact ⟨⟨theme,layout,thankYou,redirect,webhook,enabled,honeypot,progress,branding,multiple,extrasOf part⟩,
    readsComplete ⟨readTheme,readLayout,readThankYou,readRedirect,readWebhook,readEnabled,readHoneypot,readProgress,
      readBranding,readMultiple,rfl⟩⟩

theorem attributeSame {o part : Object} {t u : Settings} (ok : ofObject o = .ok t) (partly : ofObject part = .ok u)
    {k : Key} (declared : k ∈ keys) (same : (part.given? k.names).map Prod.snd = (o.given? k.names).map Prod.snd) :
    ∃ v, (k,v) ∈ t.attributes ∧ (k,v) ∈ u.attributes := by
  have reads := readsSound ok
  have readsPartly := readsSound partly
  have shared {α : Type} (put : α → Value) {default : α} {read : Value → Checked α} {a b : α}
      (own : o.readAt k.names default read = .ok a) (part : part.readAt k.names default read = .ok b)
      (left : (k,put a) ∈ t.attributes) (right : (k,put b) ∈ u.attributes) :
      ∃ v, (k,v) ∈ t.attributes ∧ (k,v) ∈ u.attributes := by
    cases Except.ok.inj ((Object.readAtSame same own).symm.trans part)
    exact ⟨put a,left,right⟩
  simp only [keys,List.mem_cons,List.not_mem_nil,or_false] at declared
  rcases declared with rfl | rfl | rfl | rfl | rfl | rfl | rfl | rfl | rfl | rfl
  · exact shared .str reads.theme readsPartly.theme (by simp [attributes]) (by simp [attributes])
  · exact shared .str reads.layout readsPartly.layout (by simp [attributes]) (by simp [attributes])
  · exact shared .str reads.thankYou readsPartly.thankYou (by simp [attributes]) (by simp [attributes])
  · exact shared (.ofOption .str) reads.redirect readsPartly.redirect (by simp [attributes]) (by simp [attributes])
  · exact shared (.ofOption .str) reads.webhook readsPartly.webhook (by simp [attributes]) (by simp [attributes])
  · exact shared .bool reads.webhookEnabled readsPartly.webhookEnabled (by simp [attributes]) (by simp [attributes])
  · exact shared .bool reads.honeypot readsPartly.honeypot (by simp [attributes]) (by simp [attributes])
  · exact shared .bool reads.progressBar readsPartly.progressBar (by simp [attributes]) (by simp [attributes])
  · exact shared .bool reads.branding readsPartly.branding (by simp [attributes]) (by simp [attributes])
  · exact shared .bool reads.multiple readsPartly.multiple (by simp [attributes]) (by simp [attributes])

theorem wireDeclared {t : Settings} (read : t.WasRead) {k : Key} {v : Value} (member : (k,v) ∈ t.attributes) :
    (t.entries .wire).value? k.camel = v.present := by
  rw [entriesSent read]
  exact sentCamel read member

theorem wireOther {t : Settings} (read : t.WasRead) {name : String} (other : ∀ k ∈ keys, k.camel ≠ name) :
    (t.entries .wire).value? name = (t.extra.value? name).bind Value.present := by
  rw [entriesSent read,sent,Object.valueAppend,sentForeign fun a member => other a.1 (attributeDeclared t member),
    Object.valuePresent read.distinct,Option.none_or]

def Validated (t : Settings) (k : Key) (v : Value) : Prop :=
  ∃ u, ofObject [(k.camel,v)] = .ok u ∧ (t.entries .wire).value? k.camel = (u.entries .wire).value? k.camel

section
variable {s t : Settings} {changes : Object}

theorem appliedValue (read : s.WasRead) (name : String) : (merged (s.entries .plain) changes).value? name =
    (Field.asked changes name).or ((s.extra.value? name).or ((Spelling.plain.entries s.attributes).value? name)) := by
  have kept : s.entries .plain = (Spelling.plain.entries s.attributes).overlay s.extra := keptPlain s
  rw [merged,Object.valueOverlayDistinct _ (Object.renamedDistinct _ _),Field.askedRenamed,kept,
    Object.valueOverlayDistinct _ read.distinct]

theorem appliedPlain (read : s.WasRead) : Plain (merged (s.entries .plain) changes) :=
  mergedIsPlain (keptIsPlain fun k declared _ => read.unsent k declared) changes

theorem appliedRead (ok : s.apply changes = .ok t) : t.WasRead :=
  readWasRead (Object.overlayDistinct (keptDistinct s) _) ok

theorem appliedGiven (read : s.WasRead) {k : Key} {written : Value} (member : (k,written) ∈ s.attributes) :
    (merged (s.entries .plain) changes).given? k.names =
      some (k.snake,((Field.asked changes k.snake).or (s.extra.value? k.snake)).getD written) := by
  refine plainGiven (appliedPlain read) (attributeDeclared s member) ?_
  rw [appliedValue read,attributeHeld s member]
  cases Field.asked changes k.snake <;> cases s.extra.value? k.snake <;> rfl

theorem declaredAlone {o : Object} (read : t.WasRead) (ok : ofObject o = .ok t) {k : Key} (declared : k ∈ keys)
    {used : String} {v : Value} (given : o.given? k.names = some (used,v)) : t.Validated k v := by
  have apart : ∀ k ∈ keys, ∀ l ∈ keys, l ≠ k → k.camel ≠ l.camel ∧ k.camel ≠ l.snake := by decide
  have own : Object.given? [(k.camel,v)] k.names = some (k.camel,v) := Object.givenCamel (if_pos rfl)
  have same : (Object.given? [(k.camel,v)] k.names).map Prod.snd = (o.given? k.names).map Prod.snd := by
    rw [own,given]
    rfl
  have alone : ∃ u, ofObject [(k.camel,v)] = .ok u := readsPart ok fun l among => by
    by_cases this : l = k
    · exact .inr (this ▸ same)
    · obtain ⟨camel,snake⟩ := apart k declared l among this
      exact .inl (Object.givenNone (if_neg camel) (if_neg snake))
  obtain ⟨u,partly⟩ := alone
  obtain ⟨w,left,right⟩ := attributeSame ok partly declared same
  have single : u.WasRead := readWasRead (by simp) partly
  exact ⟨u,partly,(wireDeclared read left).trans (wireDeclared single right).symm⟩

-- What the settings are on the wire after changes, name by name.
structure Landed (s : Settings) (changes : Object) (t : Settings) : Prop where
  declared : ∀ k ∈ keys,
    match (Field.asked changes k.snake).or (s.extra.value? k.snake) with
    | some v => t.Validated k v
    | none => (t.entries .wire).value? k.camel = (s.entries .wire).value? k.camel
  other : ∀ name, (∀ k ∈ keys, name ∉ k.names) →
    (t.entries .wire).value? name = ((Field.asked changes name).or (s.extra.value? name)).bind Value.present
  plain : ∀ k ∈ keys, k.camel ≠ k.snake → (t.entries .wire).value? k.snake = none

theorem declaredLands (read : s.WasRead) (ok : s.apply changes = .ok t) {k : Key} (declared : k ∈ keys) :
    match (Field.asked changes k.snake).or (s.extra.value? k.snake) with
    | some v => t.Validated k v
    | none => (t.entries .wire).value? k.camel = (s.entries .wire).value? k.camel := by
  obtain ⟨written,member⟩ := declaredAttribute s declared
  have after := appliedRead ok
  have given : (merged (s.entries .plain) changes).given? k.names = _ := appliedGiven read member
  split
  · rename_i v asked
    rw [asked,Option.getD_some] at given
    exact declaredAlone after ok declared given
  · rename_i unasked
    rw [unasked,Option.getD_none] at given
    have plain : Plain (Spelling.plain.entries s.attributes) := fun l among differs =>
      plainNames s l.camel (snakeNoCamel l among differs)
    have before := readsHeld plain fun a among => attributeHeld s among
    have own := plainGiven plain declared (attributeHeld s member)
    obtain ⟨v,left,right⟩ := attributeSame ok before declared (by rw [own,given])
    exact (wireDeclared after left).trans (wireDeclared read right).symm

theorem otherLands (read : s.WasRead) (ok : s.apply changes = .ok t) {name : String} (other : ∀ k ∈ keys, name ∉ k.names) :
    (t.entries .wire).value? name = ((Field.asked changes name).or (s.extra.value? name)).bind Value.present := by
  have camel : ∀ k ∈ keys, k.camel ≠ name := fun k declared same => other k declared (by simp [Key.names,same])
  have snake : ∀ k ∈ keys, k.snake ≠ name := fun k declared same => other k declared (by simp [Key.names,same])
  rw [wireOther (appliedRead ok) camel,(readsSound ok).extra,extrasOther (appliedPlain read) snake,appliedValue read,
    plainNames s name snake,Option.or_none]

theorem applyLands (read : s.WasRead) (ok : s.apply changes = .ok t) : Landed s changes t where
  declared _ declared := declaredLands read ok declared
  other _ other := otherLands read ok other
  plain k declared differs := by
    rw [wireOther (appliedRead ok) (camelForeign k declared differs),(readsSound ok).extra,
      (extrasClean (appliedPlain read) k declared).2]
    rfl

structure UnderOwnNames (s : Settings) (changes : Object) (t : Settings) : Prop where
  declared : ∀ c ∈ changes, ∀ k ∈ keys, c.1 ∈ k.names → t.Validated k c.2
  other : ∀ c ∈ changes, (∀ k ∈ keys, c.1 ∉ k.names) → (t.entries .wire).value? c.1 = c.2.present
  rest : ∀ name, (∀ c ∈ changes, c.1 ≠ name ∧ ∀ k ∈ keys, c.1 ∈ k.names → k.camel ≠ name) →
    (t.entries .wire).value? name = (s.entries .wire).value? name

def Distinct (changes : Object) : Prop := (changes.map (fun c => Text.underscored c.1)).Nodup

def OwnNames (changes : Object) : Prop :=
  ∀ c ∈ changes, (∃ k ∈ keys, c.1 ∈ k.names) ∨ Text.underscored c.1 = c.1

theorem askedOnce {changes : Object} (distinct : Distinct changes) {c : String × Value} (member : c ∈ changes) :
    Field.asked changes (Text.underscored c.1) = some c.2 := by
  have spelled : ((changes.map (fun c => (Text.underscored c.1,c.2))).map (·.1)).Nodup := by
    rw [List.map_map]
    exact distinct
  rw [← Field.askedRenamed,Object.renamedOverlay,Object.valueOverlayDistinct _ spelled,Object.valueNil,Option.or_none]
  exact Object.valueMember spelled (List.mem_map.mpr ⟨c,member,rfl⟩)

theorem namesRespelled {k : Key} (declared : k ∈ keys) {name : String} (member : name ∈ k.names) :
    Text.underscored name = k.snake := by
  obtain ⟨camel,snake⟩ := spelledPlain k declared
  simp only [Key.names,List.mem_cons,List.not_mem_nil,or_false] at member
  rcases member with rfl | rfl
  · exact camel
  · exact snake

theorem snakesApart : ∀ k ∈ keys, ∀ l ∈ keys, l.snake = k.snake → l = k := by decide

theorem declaredUnasked {k : Key} (declared : k ∈ keys) (unnamed : ∀ c ∈ changes, c.1 ∉ k.names)
    (own : OwnNames changes) : Field.asked changes k.snake = none := by
  refine Field.askedNone.mpr fun c member same => unnamed c member ?_
  rcases own c member with ⟨l,known,among⟩ | plain
  · rw [namesRespelled known among] at same
    exact snakesApart k declared l known same ▸ among
  · rw [plain] at same
    simp [Key.names,same]

theorem otherUnasked {name : String} (other : ∀ k ∈ keys, name ∉ k.names) (unnamed : ∀ c ∈ changes, c.1 ≠ name)
    (own : OwnNames changes) : Field.asked changes name = none := by
  refine Field.askedNone.mpr fun c member same => ?_
  rcases own c member with ⟨l,known,among⟩ | plain
  · rw [namesRespelled known among] at same
    exact other l known (by simp [Key.names,same])
  · exact unnamed c member (plain.symm.trans same)

theorem landsUnderOwnNames (read : s.WasRead) (landed : Landed s changes t) (distinct : Distinct changes)
    (clean : Clean s.extra) (own : OwnNames changes) : UnderOwnNames s changes t := by
  refine ⟨fun c member k declared among => ?_,fun c member other => ?_,fun name unnamed => ?_⟩
  · have lands := landed.declared k declared
    have asked := askedOnce distinct member
    rw [namesRespelled declared among] at asked
    rwa [asked,Option.some_or] at lands
  · have same : Text.underscored c.1 = c.1 :=
      (own c member).resolve_left fun ⟨k,declared,among⟩ => other k declared among
    have asked := askedOnce distinct member
    rw [same] at asked
    rw [landed.other c.1 other,asked]
    rfl
  · by_cases camel : ∃ k ∈ keys, k.camel = name
    · obtain ⟨k,declared,rfl⟩ := camel
      have lands := landed.declared k declared
      rwa [declaredUnasked declared (fun c member among => (unnamed c member).2 k declared among rfl) own,
        (clean k declared).2] at lands
    · have foreign : ∀ k ∈ keys, k.camel ≠ name := fun k declared same => camel ⟨k,declared,same⟩
      rw [wireOther read foreign]
      by_cases snake : ∃ k ∈ keys, k.snake = name
      · obtain ⟨k,declared,rfl⟩ := snake
        rw [landed.plain k declared (foreign k declared),(clean k declared).2]
        rfl
      · have other : ∀ k ∈ keys, name ∉ k.names := fun k declared among => by
          simp only [Key.names,List.mem_cons,List.not_mem_nil,or_false] at among
          rcases among with same | same
          · exact foreign k declared same.symm
          · exact snake ⟨k,declared,same.symm⟩
        rw [landed.other name other,otherUnasked other (fun c member => (unnamed c member).1) own,Option.none_or]

end
end Settings

namespace Editor

theorem updateSettingsRead {e : Editor} (read : e.settings.WasRead) (changes : Value) (m : Mint) :
    (e.updateSettings changes m).editor.settings.WasRead := by
  unfold updateSettings
  split
  · split
    · exact read
    · rename_i applied
      exact Settings.appliedRead applied
  · exact read

theorem runSettings (e : Editor) (m : Mint) (c : Command) (other : ∀ changes, c ≠ .updateSettings changes) :
    (e.run m c).editor.settings = e.settings := by
  cases c with
  | add type position =>
    unfold run
    dsimp only
    split
    · split <;> rfl
    · rfl
  | update id changes =>
    show (e.update id changes m).editor.settings = _
    unfold update
    split
    · split <;> rfl
    · rfl
  | delete id =>
    show (e.delete id m).editor.settings = _
    unfold delete
    split <;> rfl
  | duplicate id =>
    show (e.duplicate id m).editor.settings = _
    unfold duplicate
    split <;> rfl
  | reorder source target =>
    show (e.reorder source target m).editor.settings = _
    unfold reorder
    split <;> rfl
  | setFields items =>
    show (e.setFields items m).editor.settings = _
    unfold setFields
    split
    · rfl
    · split <;> rfl
  | updateSettings changes => exact absurd rfl (other changes)
  | select _ | applyText _ | setTitle _ | setDescription _ | togglePreview => rfl

theorem operateRead {e : Editor} (read : e.settings.WasRead) (m : Mint) (op : Operation) :
    (e.operate m op).1.settings.WasRead := by
  cases op with
  | command c =>
    by_cases settings : ∃ changes, c = .updateSettings changes
    · obtain ⟨changes,rfl⟩ := settings
      exact updateSettingsRead read changes m
    · show (e.run m c).editor.settings.WasRead
      rw [runSettings e m c fun changes same => settings ⟨changes,same⟩]
      exact read
  | replaceFields _ | markSaved => exact read
  | reset => exact ⟨List.nodup_nil,fun _ _ => rfl⟩

theorem operateAllRead {e : Editor} (read : e.settings.WasRead) (run : List (Mint × Operation)) :
    (e.operateAll run).settings.WasRead := by
  induction run generalizing e with
  | nil => exact read
  | cons step rest ih => exact ih (operateRead read step.1 step.2)

theorem acceptedApplies {e : Editor} {changes : Object} {m : Mint}
    (accepted : (e.updateSettings (.object changes) m).notices = []) :
    e.settings.apply changes = .ok (e.updateSettings (.object changes) m).editor.settings := by
  unfold updateSettings at accepted ⊢
  dsimp only at accepted ⊢
  cases applied : e.settings.apply changes with
  | error faults =>
    rw [applied] at accepted
    exact absurd accepted (List.cons_ne_nil _ _)
  | ok t => rfl

/-- After an update of the settings that was taken each name is on the wire with what landed there. As long as no extra
bears the name of a declared setting, and each change has such a name, in either spelling, or a plain one, changes of
distinct settings take effect under their own names, and everything else is as it was. -/
theorem settingsUpdateLands (fields : List Field) (title description : Value) {settings : Settings}
    (read : ∃ o : Object, (o.map (·.1)).Nodup ∧ Settings.ofObject o = .ok settings) (run : List (Mint × Operation))
    (changes : Object) (m : Mint) :
    let e := (ofParts fields title description settings).operateAll run
    let o := e.updateSettings (.object changes) m
    o.notices = [] →
      Settings.Landed e.settings changes o.editor.settings ∧
      (Settings.Distinct changes → Settings.Clean e.settings.extra → Settings.OwnNames changes →
        Settings.UnderOwnNames e.settings changes o.editor.settings) := by
  intro e o accepted
  obtain ⟨given,distinct,reads⟩ := read
  have start : (ofParts fields title description settings).settings.WasRead := Settings.readWasRead distinct reads
  have before : e.settings.WasRead := operateAllRead start run
  have landed := Settings.applyLands before (acceptedApplies accepted)
  exact ⟨landed,Settings.landsUnderOwnNames before landed⟩

theorem accentMissed :
    let settings : Settings := { Settings.default with
      redirectUrl := some "x", extra := [("redirect_url",.str "y"),("accentColor",.str "red")] }
    let e := ofParts [] (.str "T") .null settings
    let o := e.updateSettings (.object [("accentColor",.str "blue")]) (.atSeconds 0)
    let before := e.settings.entries .wire
    let after := o.editor.settings.entries .wire
    o.notices = [] ∧ after.value? "accentColor" = some (.str "red") ∧ after.value? "accent_color" = some (.str "blue") ∧
    before.value? "redirectUrl" = some (.str "x") ∧ after.value? "redirectUrl" = some (.str "y") ∧
    before.value? "redirect_url" = some (.str "y") ∧ after.value? "redirect_url" = none := by
  intro settings e o before after
  have accent : Text.underscored "accentColor" = "accent_color" := (Text.underscoredAscii (by decide)).trans (by decide)
  have renamed : Object.renameKeys Text.underscored [("accentColor",.str "blue")] = [("accent_color",.str "blue")] := by
    simp [Object.renameKeys,Object.put,accent]
  have read : Settings.ofObject [("redirectUrl",.str "x"),("redirect_url",.str "y"),("accentColor",.str "red")] =
      .ok settings := rfl
  have accepted : o.notices = [] := by
    have applied : ∃ t, e.settings.apply [("accentColor",.str "blue")] = .ok t := by
      rw [Settings.apply,Settings.merged,renamed]
      exact ⟨_,rfl⟩
    obtain ⟨t,applied⟩ := applied
    show (e.updateSettings _ _).notices = []
    unfold updateSettings
    dsimp only
    rw [applied]
    rfl
  obtain ⟨landed,-⟩ := settingsUpdateLands [] (.str "T") .null ⟨_,by decide,read⟩ [] [("accentColor",.str "blue")]
    (.atSeconds 0) accepted
  have asked (name : String) : Field.asked [("accentColor",.str "blue")] name =
      if "accent_color" = name then some (.str "blue") else none := by
    rw [← Field.askedRenamed,renamed]
    rfl
  have red := landed.other "accentColor" (by decide)
  have blue := landed.other "accent_color" (by decide)
  have url := landed.declared Settings.redirectUrlKey (by decide)
  rw [asked] at red blue url
  obtain ⟨u,alone,taken⟩ := url
  cases alone
  exact ⟨accepted,red,blue,rfl,taken,rfl,landed.plain Settings.redirectUrlKey (by decide) (by decide)⟩

end Editor
end FormBuilder
