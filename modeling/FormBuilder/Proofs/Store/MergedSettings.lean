import FormBuilder.Proofs.Store.KeptSettings
/-! Settings merged into the ones a form has, kept, and read again. What is declared comes out as it was given.
Of the rest, what was given comes under its plain name, beside what the form had already. -/
namespace FormBuilder.Settings

theorem spelledPlain : ∀ k ∈ keys, Text.underscored k.camel = k.snake ∧ Text.underscored k.snake = k.snake := by
  have spelled : ∀ k ∈ keys, ∀ name ∈ k.names, (Text.splitWords none name.toList).all (·.toNat < 128) = true ∧
      String.ofList ((Text.splitWords none name.toList).map Text.lowerAscii) = k.snake := by decide +kernel
  intro k declared
  have each : ∀ name ∈ k.names, Text.underscored name = k.snake := by
    intro name member
    obtain ⟨ascii,same⟩ := spelled k declared name member
    rw [Text.underscoredAscii ascii,same]
  exact ⟨each _ (by simp [Key.names]),each _ (by simp [Key.names])⟩

def Apart (extra : Object) : Prop := ∀ e ∈ extra, ∀ k ∈ keys, Text.underscored e.1 ≠ k.snake

theorem apartFresh {s : Settings} (apart : Apart s.extra) :
    ∀ e ∈ s.extra, (Spelling.plain.entries s.attributes).value? e.1 = none := by
  intro e member
  refine plainNames s e.1 fun k declared same => apart e member k declared ?_
  rw [← same]
  exact (spelledPlain k declared).2

theorem keptAppend {s : Settings} (apart : Apart s.extra) (distinct : (s.extra.map (·.1)).Nodup) :
    s.entries .plain = Spelling.plain.entries s.attributes ++ s.extra := by
  rw [keptPlain,Object.overlayFresh distinct (apartFresh apart)]

theorem changesValue {s : Settings} (apart : Apart s.extra) (distinct : (s.extra.map (·.1)).Nodup) (name : String) :
    ((s.entries .plain).renameKeys Text.underscored).value? name =
      ((s.extra.renameKeys Text.underscored).value? name).or ((Spelling.plain.entries s.attributes).value? name) := by
  have declared : ∀ e ∈ Spelling.plain.entries s.attributes, Text.underscored e.1 = e.1 := by
    intro e member
    have name : e.1 ∈ keys.map Key.snake := List.mem_map_of_mem (f := Prod.fst) member
    obtain ⟨k,declared,same⟩ := List.mem_map.mp name
    rw [← same]
    exact (spelledPlain k declared).2
  rw [keptAppend apart distinct,Object.valueRenamedAppend,Object.valueRenamedSame (attributesDistinct s) declared]

theorem respelledApart {extra : Object} (apart : Apart extra) :
    ∀ k ∈ keys, (extra.renameKeys Text.underscored).value? k.snake = none := by
  intro k declared
  rw [Object.renamedOverlay,Object.valueOverlay,Object.valueNil,Option.or_none,Object.valueNone]
  intro e member
  obtain ⟨given,among,rfl⟩ := List.mem_map.mp (List.mem_reverse.mp member)
  exact apart given among k declared

theorem usedAmong {o : Object} {k : Key} {name : String} (used : usedName o k = some name) :
    name = k.camel ∨ name = k.snake := by
  obtain ⟨given,found,rfl⟩ := Option.map_eq_some_iff.mp used
  rw [Key.names,Object.givenTwo] at found
  rcases Option.or_eq_some_iff.mp found with camel | ⟨-,snake⟩
  · obtain ⟨v,-,rfl⟩ := Option.map_eq_some_iff.mp camel
    exact .inl rfl
  · obtain ⟨v,-,rfl⟩ := Option.map_eq_some_iff.mp snake
    exact .inr rfl

theorem extrasOther {o : Object} (plain : Plain o) {name : String} (other : ∀ k ∈ keys, k.snake ≠ name) :
    (extrasOf o).value? name = o.value? name := by
  rw [extrasValue]
  split
  · rename_i used
    obtain ⟨k,declared,used⟩ := List.any_eq_true.mp used
    rcases usedAmong (beq_iff_eq.mp used) with rfl | same
    · exact (plain k declared (other k declared).symm).symm
    · exact absurd same.symm (other k declared)
  · rfl

theorem declaredOrOther (name : String) : (∃ k ∈ keys, k.snake = name) ∨ ∀ k ∈ keys, k.snake ≠ name := by
  by_cases declared : ∃ k ∈ keys, k.snake = name
  · exact .inl declared
  · exact .inr fun k member same => declared ⟨k,member,same⟩

theorem mergedHeld (o : Object) {given : Settings} (apart : Apart given.extra)
    (distinct : (given.extra.map (·.1)).Nodup) :
    ∀ a ∈ given.attributes, (merged o (given.entries .plain)).value? a.1.snake = some a.2 := by
  intro a member
  have declared : a.1 ∈ keys := attributeKeys given ▸ List.mem_map_of_mem (f := Prod.fst) member
  rw [merged,Object.valueOverlayDistinct o (Object.renamedDistinct _ _)]
  show ((given.entries .plain).renameKeys Text.underscored |>.value? _).or _ = _
  rw [changesValue apart distinct,respelledApart apart a.1 declared,attributeHeld given member]
  rfl

theorem mergedExtras {o : Object} (tidy : Tidy o) {given : Settings} (apart : Apart given.extra)
    (distinct : (given.extra.map (·.1)).Nodup) (name : String) :
    (extrasOf (merged o (given.entries .plain))).value? name =
      ((given.extra.renameKeys Text.underscored).value? name).or ((extrasOf o).value? name) := by
  have plain := mergedIsPlain tidy.plain (given.entries .plain)
  rcases declaredOrOther name with ⟨k,declared,rfl⟩ | other
  · rw [(extrasClean plain k declared).2,(extrasClean tidy.plain k declared).2,respelledApart apart k declared]
    rfl
  · rw [extrasOther plain other,extrasOther tidy.plain other,merged,
      Object.valueOverlayDistinct o (Object.renamedDistinct _ _)]
    show ((given.entries .plain).renameKeys Text.underscored |>.value? _).or _ = _
    rw [changesValue apart distinct,plainNames given name other,Option.or_none]

theorem dumpedApart {s : Settings} (apart : Apart s.extra) : Apart s.dumped.extra := by
  intro e member
  rw [dumped,Value.dumpedEntriesMap] at member
  obtain ⟨given,among,rfl⟩ := List.mem_map.mp member
  exact apart given among

theorem dumpedDistinct {s : Settings} (distinct : (s.extra.map (·.1)).Nodup) : (s.dumped.extra.map (·.1)).Nodup := by
  rw [dumped,Value.dumpedEntriesMap,List.map_map]
  exact distinct

structure KeptNames (extra : Object) : Prop where
  same : ∀ e ∈ extra, Text.underscored e.1 = e.1
  foreign : ∀ e ∈ extra, ∀ k ∈ keys, e.1 ≠ k.snake

theorem KeptNames.apart {extra : Object} (own : KeptNames extra) : Apart extra := by
  intro e member k declared
  rw [own.same e member]
  exact own.foreign e member k declared

theorem KeptNames.dumpedSame {extra : Object} (own : KeptNames extra) :
    ∀ e ∈ Value.dumpedEntries extra, Text.underscored e.1 = e.1 := by
  rw [Value.dumpedEntriesMap]
  exact List.forall_mem_map.mpr own.same

theorem mergedTidy {o changes : Object} (tidy : Tidy o) (finite : Value.finiteEntries changes = true) :
    Tidy (merged o changes) := by
  refine ⟨mergedIsPlain tidy.plain changes,Object.overlayDistinct tidy.distinct _,Value.finiteOverlay tidy.finite ?_⟩
  rw [Value.finiteEntriesAll] at finite
  rw [Object.renamedOverlay]
  exact Value.finiteOverlay rfl ((Value.finiteEntriesAll _).mpr (List.forall_mem_map.mpr finite))

theorem mergedReadsBack {o : Object} {old given settings later : Settings} (tidy : Tidy o) (reads : ofObject o = .ok old)
    (apart : Apart given.extra) (distinct : (given.extra.map (·.1)).Nodup)
    (together : ofObject (merged o (Store.keptSettings given)) = .ok settings)
    (again : ofObject (Store.keptSettings settings) = .ok later) :
    later.attributes = given.attributes ∧
    ∀ name, later.extra.value? name =
      ((given.dumped.extra.renameKeys Text.underscored).value? name).or (old.extra.value? name) := by
  have apart := dumpedApart apart
  have distinct := dumpedDistinct distinct
  have whole := mergedTidy tidy (keptFinite given)
  cases (whole.again together).symm.trans again
  cases (readsHeld whole.plain (mergedHeld o apart distinct)).symm.trans together
  refine ⟨rfl,fun name => ?_⟩
  rw [(readsSound reads).extra]
  exact mergedExtras tidy apart distinct name

end FormBuilder.Settings
