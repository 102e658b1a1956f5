import FormBuilder.Proofs.Store.FieldRow
import FormBuilder.Proofs.Text.Lower
import FormBuilder.Store.Basic
/-! Settings that are kept under their plain names, and read again. They read well again unless one of the
extras bears the name of a declared setting. -/
namespace FormBuilder

namespace Settings

structure Reads (o : Object) (s : Settings) : Prop where
  theme : o.readAt themeKey.names default.theme Scalar.text = .ok s.theme
  layout : o.readAt layoutKey.names default.layout Scalar.text = .ok s.layout
  thankYou : o.readAt thankYouMessageKey.names default.thankYouMessage Scalar.text = .ok s.thankYouMessage
  redirect : o.readAt redirectUrlKey.names none (Scalar.optional Scalar.text) = .ok s.redirectUrl
  webhook : o.readAt webhookUrlKey.names none (Scalar.optional Scalar.text) = .ok s.webhookUrl
  webhookEnabled : o.readAt webhookEnabledKey.names false Scalar.bool = .ok s.webhookEnabled
  honeypot : o.readAt enableHoneypotKey.names false Scalar.bool = .ok s.enableHoneypot
  progressBar : o.readAt showProgressBarKey.names false Scalar.bool = .ok s.showProgressBar
  branding : o.readAt removeBrandingKey.names false Scalar.bool = .ok s.removeBranding
  multiple : o.readAt allowMultipleSubmissionsKey.names true Scalar.bool = .ok s.allowMultipleSubmissions
  extra : s.extra = extrasOf o

theorem readsSound {o : Object} {s : Settings} (ok : ofObject o = .ok s) : Reads o s := by
  simp only [ofObject,Checked.mapOk,Checked.partOk] at ok
  obtain ⟨_,⟨_,_,⟨_,_,⟨_,_,⟨_,_,⟨_,_,⟨_,_,⟨_,_,⟨_,_,⟨_,_,⟨_,theme,rfl⟩,layout,rfl⟩,thanks,rfl⟩,redirect,rfl⟩,
    webhook,rfl⟩,enabled,rfl⟩,honeypot,rfl⟩,progress,rfl⟩,branding,rfl⟩,multiple,rfl⟩,rfl⟩ := ok
  exact ⟨theme,layout,thanks,redirect,webhook,enabled,honeypot,progress,branding,multiple,rfl⟩

theorem readsComplete {o : Object} {s : Settings} (reads : Reads o s) : ofObject o = .ok s := by
  simp only [ofObject,reads.theme,reads.layout,reads.thankYou,reads.redirect,reads.webhook,
    reads.webhookEnabled,reads.honeypot,reads.progressBar,reads.branding,reads.multiple,← reads.extra]
  rfl

def Plain (o : Object) : Prop := ∀ k ∈ keys, k.camel ≠ k.snake → o.value? k.camel = none

def Clean (extra : Object) : Prop := ∀ k ∈ keys, extra.value? k.camel = none ∧ extra.value? k.snake = none

theorem snakeNoCamel : ∀ k ∈ keys, k.camel ≠ k.snake → ∀ l ∈ keys, l.snake ≠ k.camel := by decide

theorem camelCapital : ∀ k ∈ keys, k.camel ≠ k.snake → k.camel.toList.any Text.isUpperAscii = true := by
  decide +kernel

theorem keptPlain (s : Settings) :
    s.entries .plain = (Spelling.plain.entries s.attributes).overlay s.extra := by
  have all : s.extra.filter (fun _ => true) = s.extra := List.filter_eq_self.mpr (fun _ _ => rfl)
  exact congrArg (Object.overlay _) all

theorem attributeKeys (s : Settings) : s.attributes.map Prod.fst = keys := rfl

theorem attributeDeclared (s : Settings) {a : Key × Value} (member : a ∈ s.attributes) : a.1 ∈ keys :=
  attributeKeys s ▸ List.mem_map_of_mem member

theorem plainNames (s : Settings) (name : String) (foreign : ∀ k ∈ keys, k.snake ≠ name) :
    (Spelling.plain.entries s.attributes).value? name = none :=
  plainForeign fun a member => foreign a.1 (attributeDeclared s member)

theorem extrasValue (o : Object) (name : String) :
    (extrasOf o).value? name = if keys.any (fun k => usedName o k == some name) then none else o.value? name := by
  refine (Object.valueKept o (fun name => !keys.any (fun k => usedName o k == some name)) name).trans ?_
  cases keys.any (fun k => usedName o k == some name) <;> rfl

theorem extrasHidden {o : Object} {name : String} {k : Key} (declared : k ∈ keys)
    (used : (o.value? name).isSome → usedName o k = some name) : (extrasOf o).value? name = none := by
  rw [extrasValue]
  split
  · rfl
  · rename_i unused
    cases given : o.value? name with
    | none => rfl
    | some v =>
      have taken := used (by simp [given])
      exact absurd (List.any_eq_true.mpr ⟨k,declared,by simp [taken]⟩) unused

theorem usedCamel {o : Object} {k : Key} (given : (o.value? k.camel).isSome) : usedName o k = some k.camel := by
  obtain ⟨v,camel⟩ := Option.isSome_iff_exists.mp given
  simp [usedName,Object.givenCamel camel]

theorem usedSnake {o : Object} {k : Key} (camel : o.value? k.camel = none) (given : (o.value? k.snake).isSome) :
    usedName o k = some k.snake := by
  obtain ⟨v,snake⟩ := Option.isSome_iff_exists.mp given
  simp [usedName,Object.givenSnake camel snake]

theorem extrasClean {o : Object} (plain : Plain o) : Clean (extrasOf o) := by
  intro k declared
  refine ⟨extrasHidden declared usedCamel,extrasHidden declared fun given => ?_⟩
  by_cases same : k.camel = k.snake
  · rw [← same] at given ⊢
    exact usedCamel given
  · exact usedSnake (plain k declared same) given

theorem extrasPlain (o : Object) : Plain (extrasOf o) := fun _ declared _ => extrasHidden declared usedCamel

theorem keptIsPlain {s : Settings} (extra : Plain s.extra) : Plain (s.entries .plain) := by
  intro k declared differs
  rw [keptPlain,Object.valueOverlayAbsent _ (extra k declared differs)]
  exact plainNames s k.camel (snakeNoCamel k declared differs)

theorem mergedIsPlain {o : Object} (plain : Plain o) (changes : Object) :
    Plain (merged o changes) := by
  intro k declared differs
  have avoided : (changes.renameKeys Text.underscored).value? k.camel = none :=
    Object.valueRenamed _ fun e _ => Text.underscoredAvoids (camelCapital k declared differs) e.1
  rw [merged,Object.valueOverlayAbsent _ avoided]
  exact plain k declared differs

theorem attributeHeld (s : Settings) {a : Key × Value} (member : a ∈ s.attributes) :
    (Spelling.plain.entries s.attributes).value? a.1.snake = some a.2 := by
  have distinct : (keys.map Key.snake).Nodup := by decide
  rw [← attributeKeys s,List.map_map] at distinct
  exact plainHeld distinct a member

theorem keptHeld {s : Settings} (clean : Clean s.extra) :
    ∀ a ∈ s.attributes, (s.entries .plain).value? a.1.snake = some a.2 := by
  intro a member
  rw [keptPlain,Object.valueOverlayAbsent _ (clean a.1 (attributeDeclared s member)).2]
  exact attributeHeld s member

theorem plainGiven {o : Object} (plain : Plain o) {k : Key} (declared : k ∈ keys) {v : Value}
    (snake : o.value? k.snake = some v) : o.given? k.names = some (k.snake,v) :=
  Object.givenPlain (plain k declared) snake

theorem textAgain (t : Option String) :
    Scalar.optional Scalar.text (Value.ofOption .str t) = .ok t := by
  cases t <;> rfl

theorem readsGiven {o : Object} {s : Settings} (given : ∀ a ∈ s.attributes,
    (∃ used, o.given? a.1.names = some (used,a.2)) ∨ a.2 = .null ∧ o.given? a.1.names = none) :
    ofObject o = .ok { s with extra := extrasOf o } := by
  have text {k : Key} {t : String} (member : (k,.str t) ∈ s.attributes) (default : String) :
      o.readAt k.names default Scalar.text = .ok t := by
    rcases given _ member with ⟨used,held⟩ | ⟨null,-⟩
    · exact Object.readAtGiven held (show Scalar.text (.str t) = .ok t from rfl) _
    · contradiction
  have optional {k : Key} {t : Option String} (member : (k,.ofOption .str t) ∈ s.attributes) :
      o.readAt k.names none (Scalar.optional Scalar.text) = .ok t := by
    rcases given _ member with ⟨used,held⟩ | ⟨null,absent⟩
    · exact Object.readAtGiven held (textAgain t) _
    · cases t with
      | none => exact Object.readAtNone absent _ _
      | some t => contradiction
  have flag {k : Key} {b : Bool} (member : (k,.bool b) ∈ s.attributes) (default : Bool) :
      o.readAt k.names default Scalar.bool = .ok b := by
    rcases given _ member with ⟨used,held⟩ | ⟨null,-⟩
    · exact Object.readAtGiven held (show Scalar.bool (.bool b) = .ok b from rfl) _
    · contradiction
  exact readsComplete {
    theme := text (by simp [attributes]) _
    layout := text (by simp [attributes]) _
    thankYou := text (by simp [attributes]) _
    redirect := optional (by simp [attributes])
    webhook := optional (by simp [attributes])
    webhookEnabled := flag (by simp [attributes]) _
    honeypot := flag (by simp [attributes]) _
    progressBar := flag (by simp [attributes]) _
    branding := flag (by simp [attributes]) _
    multiple := flag (by simp [attributes]) _
    extra := rfl }

theorem readsHeld {o : Object} {s : Settings} (plain : Plain o)
    (held : ∀ a ∈ s.attributes, o.value? a.1.snake = some a.2) : ofObject o = .ok { s with extra := extrasOf o } := by
  refine readsGiven fun a member => .inl ⟨a.1.snake,?_⟩
  exact plainGiven plain (attributeDeclared s member) (held a member)

theorem keptReadsBack {s : Settings} (clean : Clean s.extra) :
    ofObject (s.entries .plain) = .ok { s with extra := extrasOf (s.entries .plain) } :=
  readsHeld (keptIsPlain fun k declared _ => (clean k declared).1) (keptHeld clean)

theorem attributesDistinct (s : Settings) : ((Spelling.plain.entries s.attributes).map (·.1)).Nodup := by
  have names : (Spelling.plain.entries s.attributes).map (·.1) = keys.map Key.snake := rfl
  rw [names]
  decide

theorem keptDistinct (s : Settings) : ((s.entries .plain).map (·.1)).Nodup := by
  rw [keptPlain]
  exact Object.overlayDistinct (attributesDistinct s) s.extra

structure Tidy (o : Object) : Prop where
  plain : Plain o
  distinct : (o.map (·.1)).Nodup
  finite : Value.finiteEntries o = true

theorem keptUsed {s : Settings} (clean : Clean s.extra) :
    ∀ k ∈ keys, usedName (s.entries .plain) k = some k.snake := by
  intro k declared
  obtain ⟨a,member,rfl⟩ := List.mem_map.mp (attributeKeys s ▸ declared)
  have plain : Plain (s.entries .plain) := keptIsPlain fun k declared _ => (clean k declared).1
  rw [usedName,plainGiven plain declared (keptHeld clean a member),Option.map_some]

theorem keptExtras {s : Settings} (clean : Clean s.extra) (distinct : (s.extra.map (·.1)).Nodup) :
    extrasOf (s.entries .plain) = s.extra := by
  have foreign : ∀ e ∈ s.extra, ∀ k ∈ keys, k.snake ≠ e.1 := by
    intro e member k declared same
    exact (Object.valueNone _ _).mp (clean k declared).2 e member same.symm
  have declared (name : String) : keys.any (fun k => usedName (s.entries .plain) k == some name) = true ↔
      ∃ k ∈ keys, k.snake = name := by
    rw [List.any_eq_true]
    exact exists_congr fun k => and_congr_right fun among => by simp [keptUsed clean k among]
  have split : s.entries .plain = Spelling.plain.entries s.attributes ++ s.extra := by
    rw [keptPlain,Object.overlayFresh distinct fun e member => plainNames s e.1 (foreign e member)]
  rw [extrasOf,split,List.filter_append,← split]
  have none : (Spelling.plain.entries s.attributes).filter
      (fun e => !keys.any (fun k => usedName (s.entries .plain) k == some e.1)) = [] := by
    refine List.filter_eq_nil_iff.mpr fun e member => ?_
    have name : e.1 ∈ keys.map Key.snake := List.mem_map_of_mem (f := Prod.fst) member
    simpa using (declared e.1).mpr (List.mem_map.mp name)
  have all : s.extra.filter (fun e => !keys.any (fun k => usedName (s.entries .plain) k == some e.1)) = s.extra := by
    refine List.filter_eq_self.mpr fun e member => ?_
    rw [Bool.not_eq_true',Bool.eq_false_iff]
    intro taken
    obtain ⟨k,among,same⟩ := (declared e.1).mp taken
    exact foreign e member k among same
  rw [none,all,List.nil_append]

theorem extrasDistinct {o : Object} (distinct : (o.map (·.1)).Nodup) : ((extrasOf o).map (·.1)).Nodup :=
  distinct.sublist (List.filter_sublist.map _)

theorem dumpedValue (s : Settings) (name : String) :
    s.dumped.extra.value? name = (s.extra.value? name).map Value.dumped := Value.valueDumped s.extra name

theorem dumpedClean {s : Settings} (clean : Clean s.extra) : Clean s.dumped.extra := by
  intro k declared
  rw [dumpedValue,dumpedValue,(clean k declared).1,(clean k declared).2]
  exact ⟨rfl,rfl⟩

theorem dumpedPlain {s : Settings} (plain : Plain s.extra) : Plain s.dumped.extra := by
  intro k declared differs
  rw [dumpedValue,plain k declared differs]
  rfl

theorem attributesFinite (s : Settings) : Value.finiteEntries (Spelling.plain.entries s.attributes) = true := by
  have text (t : Option String) : (Value.ofOption Value.str t).finite = true := by cases t <;> rfl
  simp [attributes,Spelling.entries,Value.finiteEntries,Value.finite,text]

theorem keptFinite (s : Settings) : Value.finiteEntries (Store.keptSettings s) = true := by
  rw [Store.keptSettings,keptPlain]
  exact Value.finiteOverlay (attributesFinite s.dumped) (Value.dumpedEntriesFinite s.extra)

theorem Tidy.dumped {o : Object} {s : Settings} (tidy : Tidy o) (ok : ofObject o = .ok s) : s.dumped = s := by
  have finite : Value.finiteEntries s.extra = true := by
    rw [(readsSound ok).extra,Value.finiteEntriesAll]
    exact fun e member => (Value.finiteEntriesAll o).mp tidy.finite e (List.mem_filter.mp member).1
  rw [Settings.dumped,Value.finiteEntriesDumped finite]

theorem Tidy.again {o : Object} {s : Settings} (tidy : Tidy o) (ok : ofObject o = .ok s) :
    ofObject (Store.keptSettings s) = .ok s := by
  have extra := (readsSound ok).extra
  have clean : Clean s.extra := extra ▸ extrasClean tidy.plain
  have distinct : (s.extra.map (·.1)).Nodup := extra ▸ extrasDistinct tidy.distinct
  rw [Store.keptSettings,tidy.dumped ok,keptReadsBack clean,keptExtras clean distinct]

theorem readReadsBack {o : Object} {s : Settings} (plain : Plain o) (ok : ofObject o = .ok s) :
    ∃ t, ofObject (Store.keptSettings s) = .ok t := by
  have clean : Clean s.extra := (readsSound ok).extra ▸ extrasClean plain
  exact ⟨_,keptReadsBack (dumpedClean clean)⟩

theorem readKeepsTidy {o : Object} {s : Settings} (ok : ofObject o = .ok s) : Tidy (Store.keptSettings s) := by
  exact ⟨keptIsPlain (dumpedPlain ((readsSound ok).extra ▸ extrasPlain o)),keptDistinct s.dumped,keptFinite s⟩

end Settings
end FormBuilder
