import Mathlib.Data.List.Find
import FormBuilder.Proofs.Field.Turned
import FormBuilder.Proofs.Text.Names
/-! Two changes of a field, one after the other, come to a single one, in which the later counts wherever both ask
for the same. -/
namespace FormBuilder.Field

def isAttribute (name : String) : Bool := name != "config" && !isFlat name

def attributesAsked (changes : Object) : Object :=
  (changes.renameKeys Text.underscored).filter (fun e => isAttribute e.1)

def together (first later : Object) : Object :=
  ((attributesAsked first).overlay (attributesAsked later)).put "config"
    (.object ((settingsAsked first).overlay (settingsAsked later)))

def Mergeable (changes : Object) : Prop :=
  ∀ v, asked changes "config" = some v → v.isVoid = true ∨ ∃ o, v = .object o

theorem askedSpelled {o : Object} (distinct : (o.map (·.1)).Nodup) (spelled : Spelled o) {known : String}
    (plain : known.toList.all Text.isPlain = true) : asked o known = o.value? known := by
  rw [← Object.valueReverse distinct,Object.valueFind]
  refine congrArg (Option.map Prod.snd) (List.find?_congr fun e member => ?_)
  obtain ⟨name,same⟩ := spelled e (List.mem_reverse.mp member)
  rw [same,Bool.eq_iff_iff,beq_iff_eq,beq_iff_eq,Text.underscoredAgain (List.all_eq_true.mp plain)]

theorem configPlain : "config".toList.all Text.isPlain = true := by decide

theorem flatAgain {name : String} (flat : isFlat (Text.underscored (Text.underscored name)) = true) :
    isFlat (Text.underscored name) = true := by
  have spelled : ∀ key ∈ flatKeys, key.toList.any Text.isUpperAscii = true ∨ key.toList.all Text.isPlain = true := by
    decide +kernel
  generalize again : Text.underscored (Text.underscored name) = key at flat
  rcases spelled key (List.contains_iff_mem.mp flat) with capital | plain
  · exact absurd again (Text.underscoredAvoids capital _)
  · rwa [(Text.underscoredAgain (List.all_eq_true.mp plain) name).mp again]

theorem attributesDistinct (changes : Object) : ((attributesAsked changes).map (·.1)).Nodup :=
  (Object.renamedDistinct _ changes).sublist (List.filter_sublist.map _)

theorem attributesNames (changes : Object) :
    ∀ e ∈ attributesAsked changes, isAttribute e.1 = true ∧ ∃ name, e.1 = Text.underscored name := fun e member =>
  let ⟨among,own⟩ := List.mem_filter.mp member
  ⟨own,renamedSpelled changes e among⟩

theorem settingsDistinct (changes : Object) : ((settingsAsked changes).map (·.1)).Nodup :=
  Object.overlayDistinct (o := []) List.nodup_nil _

section
variable (first later : Object)

theorem togetherDistinct : ((together first later).map (·.1)).Nodup :=
  Object.putDistinct (Object.overlayDistinct (attributesDistinct first) _) _ _

theorem togetherNames : ∀ e ∈ together first later,
    (e.1 = "config" ∨ isAttribute e.1 = true) ∧ ∃ name, e.1 = Text.underscored name := by
  have config : "config" = Text.underscored "config" :=
    ((Text.underscoredAscii (by decide)).trans (by decide)).symm
  let p (key : String) : Prop := (key = "config" ∨ isAttribute key = true) ∧ ∃ name, key = Text.underscored name
  refine Object.putNames (p := p) (Object.overlayNames (p := p) ?_ ?_) ⟨.inl rfl,_,config⟩ _
  · exact fun e member => (attributesNames first e member).imp_left .inr
  · exact fun e member => (attributesNames later e member).imp_left .inr

theorem togetherSpelled : Spelled (together first later) := fun e member => (togetherNames first later e member).2

theorem askedTogether {known : String} (plain : known.toList.all Text.isPlain = true)
    (own : isAttribute known = true) :
    asked (together first later) known = (asked later known).or (asked first known) := by
  have other : "config" ≠ known := by
    rintro rfl
    revert own
    decide
  have among (changes : Object) : (attributesAsked changes).value? known = asked changes known := by
    rw [attributesAsked,Object.valueKept _ isAttribute,if_pos own,askedRenamed]
  rw [askedSpelled (togetherDistinct first later) (togetherSpelled first later) plain,together,Object.valuePut,
    if_neg other,Object.valueOverlayDistinct _ (attributesDistinct later),among,among]

theorem configTogether : asked (together first later) "config" =
    some (.object ((settingsAsked first).overlay (settingsAsked later))) := by
  rw [askedSpelled (togetherDistinct first later) (togetherSpelled first later) configPlain,together,Object.valuePut,
    if_pos rfl]

theorem onlyGiven {α : Type} {o : Object} (distinct : (o.map (·.1)).Nodup) {e : String × Value} (member : e ∈ o)
    {f : String × Value → List α} (none : ∀ d ∈ o, d.1 ≠ e.1 → f d = []) : o.flatMap f = f e := by
  induction o with
  | nil => contradiction
  | cons d rest ih =>
    obtain ⟨once,distinct⟩ := List.nodup_cons.mp distinct
    obtain ⟨first,others⟩ := List.forall_mem_cons.mp none
    rw [List.flatMap_cons]
    rcases List.mem_cons.mp member with rfl | later
    · have nothing : ∀ d ∈ rest, f d = [] := fun d among =>
        others d among fun same => once (List.mem_map.mpr ⟨d,among,same⟩)
      rw [List.flatMap_eq_nil_iff.mpr nothing,List.append_nil]
    · have other : d.1 ≠ e.1 := fun same => once (List.mem_map.mpr ⟨e,later,same.symm⟩)
      rw [first other,ih distinct later others,List.nil_append]

theorem settingsTogether {known : String} (plain : known.toList.all Text.isPlain = true) :
    (settingsAsked (together first later)).value? known =
      ((settingsAsked later).value? known).or ((settingsAsked first).value? known) := by
  have given : ("config",.object ((settingsAsked first).overlay (settingsAsked later))) ∈
      (together first later).renameKeys Text.underscored :=
    Object.valueFound ((askedRenamed _ _).trans (configTogether first later))
  have none : ∀ d ∈ (together first later).renameKeys Text.underscored, d.1 ≠ "config" → settingsIn d = [] := by
    intro d member other
    obtain ⟨e,among,same⟩ := Object.renamedNames _ _ d member
    obtain ⟨config | own,name,spelled⟩ := togetherNames first later e among
    · rw [same,config] at other
      exact absurd ((Text.underscoredAscii (by decide)).trans (by decide)) other
    · have apart : ¬ isFlat d.1 = true := fun flat => by
        rw [same,spelled] at flat
        have flat := flatAgain flat
        rw [← spelled] at flat
        simp [isAttribute,flat] at own
      rw [settingsIn,if_neg other,if_neg apart]
  have distinct : (((settingsAsked first).overlay (settingsAsked later)).map (·.1)).Nodup :=
    Object.overlayDistinct (settingsDistinct first) _
  have spelled : Spelled ((settingsAsked first).overlay (settingsAsked later)) :=
    Object.overlayNames (p := fun key => ∃ name, key = Text.underscored name) (settingsSpelled first) (settingsSpelled later)
  have inside : settingsIn ("config",.object ((settingsAsked first).overlay (settingsAsked later))) =
      Object.renameKeys Text.underscored ((settingsAsked first).overlay (settingsAsked later)) := rfl
  rw [settingsAsked,onlyGiven (Object.renamedDistinct _ _) given none,inside,Object.ofEntries,
    Object.valueOverlayDistinct _ (Object.renamedDistinct _ _),Object.valueNil,Option.or_none,askedRenamed,
    askedSpelled distinct spelled plain,Object.valueOverlayDistinct _ (settingsDistinct later)]

end

theorem mergeableTogether (first later : Object) : Mergeable (together first later) := fun _ given =>
  .inr ⟨_,Option.some.inj (given.symm.trans (configTogether first later))⟩

theorem sparesTogether {first later : Object} (spares : Spares first "type") (after : Spares later "type") :
    Spares (together first later) "type" := by
  rw [← askedNone,askedTogether first later (by decide) (by decide),askedNone.mpr spares,askedNone.mpr after]
  rfl

theorem turnedTogether (f : Field) (first later : Object) :
    f.turned (asked (together first later)) (settingsAsked (together first later)).value? =
      f.turned (fun name => (asked later name).or (asked first name))
        (fun name => ((settingsAsked later).value? name).or ((settingsAsked first).value? name)) := by
  have attributes : ∀ k ∈ [Key.id,.persistedId,.label,.order],
      k.snake.toList.all Text.isPlain = true ∧ isAttribute k.snake = true := by decide +kernel
  have settings : ∀ k ∈ settingKeys, k.snake.toList.all Text.isPlain = true := by decide +kernel
  refine turnedAlike f (fun k own => ?_) (fun k own => settingsTogether first later (settings k own))
  obtain ⟨plain,among⟩ := attributes k own
  exact askedTogether first later plain among

theorem applyParsed {f g : Field} {changes : Object} (ok : apply f changes = .ok (.ok g)) : g.Parsed := by
  obtain ⟨v,-,ok⟩ := Checked.mapOk.mp ok
  exact ⟨f.id,v,ok⟩

/-- Nothing asked for leaves a field that was read as it is. Of two changes one after the other that spare the type
and give the settings, if at all, by an object or by nothing, the second ends as both together do on the field as it
was, once the first went well; and a change that went well comes to nothing new when it is made again. -/
theorem changesCompose {f : Field} (parsed : f.Parsed) :
    apply f [] = .ok (.ok f) ∧
    ∀ first later : Object, Spares first "type" → Spares later "type" → Mergeable first → Mergeable later →
      ∀ g, apply f first = .ok (.ok g) →
        (∃ outcome, apply g later = .ok outcome ∧ apply f (together first later) = .ok outcome) ∧
        apply g first = .ok (.ok g) := by
  have named := parsedNamed parsed
  refine ⟨?_,fun first later spares after given next g ok => ?_⟩
  · have turned : apply f [] = _ := applyTurned named (List.forall_mem_nil _) (fun v none => nomatch none)
    rw [turned]
    exact congrArg (fun c => Except.ok (Checked.under _ c)) (turnedNothing f)
  · have namedAfter := parsedNamed (applyParsed ok)
    have turned := Checked.underOk.mp (Except.ok.inj ((applyTurned named spares given).symm.trans ok))
    have same : g.type = f.type := turnedType turned
    have again := applyTurned namedAfter after next
    rw [turnedAgain turned,← turnedTogether,same] at again
    have once := applyTurned namedAfter spares given
    rw [turnedAgain turned] at once
    simp only [Option.or_self,turned] at once
    exact ⟨⟨_,again,applyTurned named (sparesTogether spares after) (mergeableTogether first later)⟩,once⟩

theorem boundsSetInTurn :
    let f : Field := ⟨"n",none,"N",0,⟨true,none,none⟩,.number none none⟩
    let g : Field := ⟨"n",none,"Age",0,⟨true,none,none⟩,.number (some .one) none⟩
    let first : Object := [("config",.object [("min",.int 1)]),("Label",.str "Age")]
    let later : Object := [("max",.int 1),("label",.str "Years")]
    f.Parsed ∧ Spares first "type" ∧ Spares later "type" ∧ Mergeable first ∧ Mergeable later ∧
    apply f first = .ok (.ok g) ∧ apply g first = .ok (.ok g) ∧ apply g later = apply f (together first later) ∧
    apply g later = .ok (.ok ⟨"n",none,"Years",0,⟨true,none,none⟩,.number (some .one) (some .one)⟩) := by
  intro f g first later
  have parsed : f.Parsed := ⟨"n",.object [("type",.str "number"),("label",.str "N"),("required",.bool true)],rfl⟩
  have config : Text.underscored "config" = "config" := (Text.underscoredAscii (by decide)).trans (by decide)
  have min : Text.underscored "min" = "min" := (Text.underscoredAscii (by decide)).trans (by decide)
  have max : Text.underscored "max" = "max" := (Text.underscoredAscii (by decide)).trans (by decide)
  have capital : Text.underscored "Label" = "label" := (Text.underscoredAscii (by decide)).trans (by decide)
  have label : Text.underscored "label" = "label" := (Text.underscoredAscii (by decide)).trans (by decide)
  have spares : Spares first "type" := by simp [Spares,first,config,capital]
  have after : Spares later "type" := by simp [Spares,later,max,label]
  have given : Mergeable first := by simp [Mergeable,asked,first,config,capital]
  have next : Mergeable later := by simp [Mergeable,asked,later,max,label]
  have renamed : first.renameKeys Text.underscored = [("config",.object [("min",.int 1)]),("label",.str "Age")] := by
    simp [first,Object.renameKeys,Object.put,config,capital]
  have inside : Object.renameKeys Text.underscored [("min",.int 1)] = [("min",.int 1)] := by
    simp [Object.renameKeys,Object.put,min]
  have renamedLater : later.renameKeys Text.underscored = [("max",.int 1),("label",.str "Years")] := by
    simp [later,Object.renameKeys,Object.put,max,label]
  have ok : apply f first = .ok (.ok g) := by
    simp only [apply,changed,renamed,overlayAll,overlay,configChange,inside]
    rfl
  have years : apply g later =
      .ok (.ok ⟨"n",none,"Years",0,⟨true,none,none⟩,.number (some .one) (some .one)⟩) := by
    rw [apply,changed,renamedLater]
    rfl
  obtain ⟨⟨_,last,both⟩,again⟩ := (changesCompose parsed).2 first later spares after given next g ok
  exact ⟨parsed,spares,after,given,next,ok,again,last.trans both.symm,years⟩

end FormBuilder.Field
