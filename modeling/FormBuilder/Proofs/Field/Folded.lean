import FormBuilder.Field.Initial
import FormBuilder.Proofs.Field.Parts
import FormBuilder.Proofs.Field.Turned
/-! Where a setting of a raw field may stand: inside `config` or beside the attributes, under either name. What is
read depends on one value for each setting, and this is which one it is. -/
namespace FormBuilder

namespace Checked

def causes (a : Checked α) : Except (List Cause) α := a.mapError (List.map Fault.cause)

@[simp]
theorem causesOk (a : α) : causes (.ok a) = .ok a := rfl

@[simp]
theorem causesError (faults : List Fault) : causes (.error faults : Checked α) = .error (faults.map Fault.cause) := rfl

theorem causesUnder (step : Step) (a : Checked α) : (under step a).causes = a.causes := by
  cases a with
  | ok a => rfl
  | error faults => simp [under,Function.comp_def]

theorem causesBoth {f : α → β → γ} {a a' : Checked α} {b b' : Checked β} (left : a.causes = a'.causes)
    (right : b.causes = b'.causes) : (both f a b).causes = (both f a' b').causes := by
  cases a <;> cases a' <;> cases b <;> cases b' <;> simp_all [both]

theorem causesPart {f f' : Checked (α → β)} {a a' : Checked α} (left : f.causes = f'.causes)
    (right : a.causes = a'.causes) : (part f a).causes = (part f' a').causes := causesBoth left right

theorem causesMap {f : α → β} {a a' : Checked α} (same : a.causes = a'.causes) :
    causes (a.map f) = causes (a'.map f) := by
  cases a <;> cases a' <;> simp_all [Except.map]

end Checked

open Checked (causes causesUnder causesBoth causesPart causesMap)

namespace Object

def used (o : Object) (names : List String) : Option Value := (o.given? names).map Prod.snd

theorem readAtCauses {o part : Object} {names : List String} (same : o.used names = part.used names) (default : α)
    (read : Value → Checked α) : causes (o.readAt names default read) = causes (part.readAt names default read) := by
  unfold used at same
  unfold readAt
  cases left : o.given? names with
  | none =>
    rw [left,Option.map_none,eq_comm,Option.map_eq_none_iff] at same
    rw [same]
  | some entry =>
    rw [left,Option.map_some,eq_comm,Option.map_eq_some_iff] at same
    obtain ⟨other,right,own⟩ := same
    rw [right]
    exact (causesUnder _ _).trans (own ▸ (causesUnder _ _).symm)

theorem usedSame {o part : Object} {names : List String} (same : ∀ name ∈ names, o.value? name = part.value? name) :
    o.used names = part.used names := by
  induction names with
  | nil => rfl
  | cons name rest ih =>
    obtain ⟨own,others⟩ := List.forall_mem_cons.mp same
    have later := ih others
    unfold used given? at later ⊢
    rw [List.findSome?_cons,List.findSome?_cons,own]
    cases part.value? name with
    | none => exact later
    | some v => rfl

theorem usedKey (o : Object) (k : Key) : o.used k.names = (o.value? k.camel).or (o.value? k.snake) := by
  rw [used,Key.names,givenTwo]
  cases o.value? k.camel <;> cases o.value? k.snake <;> rfl

end Object

def Kind.keys (t : FieldType) : List Key := (Kind.plain t).attributes.map Prod.fst

theorem Kind.readCauses {t : FieldType} {config other : Object}
    (same : ∀ k ∈ keys t, config.used k.names = other.used k.names) : causes (read config t) = causes (read other t) := by
  have second {a b : Key} : b ∈ [a,b] := List.mem_cons_of_mem a List.mem_cons_self
  cases t with
  | text | email | phone | url | date | signature | pageBreak | divider => rfl
  | longtext | checkbox | radio | dropdown | rating | ranking =>
    exact causesMap (Object.readAtCauses (same _ List.mem_cons_self) _ _)
  | number | file | matrix | pictureChoice =>
    exact causesBoth (Object.readAtCauses (same _ List.mem_cons_self) _ _) (Object.readAtCauses (same _ second) _ _)

theorem Common.readCauses {config other : Object}
    (same : ∀ k ∈ [Key.required,.placeholder,.condition], config.used k.names = other.used k.names) :
    causes (read config) = causes (read other) := by
  simp only [List.forall_mem_cons,List.not_mem_nil,false_implies,implies_true,and_true] at same
  obtain ⟨required,placeholder,condition⟩ := same
  exact causesPart (causesPart (causesMap (Object.readAtCauses required _ _)) (Object.readAtCauses placeholder _ _))
    (Object.readAtCauses condition _ _)

namespace Field

def keysOf (t : FieldType) : List Key := [.required,.placeholder,.condition] ++ Kind.keys t

theorem keysDeclared {t : FieldType} : ∀ k ∈ keysOf t, k ∈ settingKeys := by
  cases t <;> decide

theorem keysFlat : ∀ k ∈ settingKeys, ∀ name ∈ k.names, isFlat name = true := by decide

theorem namesApart : ∀ k ∈ settingKeys, ∀ l ∈ settingKeys, l ≠ k → ∀ name ∈ l.names, name ∉ k.names := by decide

theorem readSettingsCauses {t : FieldType} {config other : Object}
    (same : ∀ k ∈ keysOf t, config.used k.names = other.used k.names) :
    causes (readSettings t (.object config)) = causes (readSettings t (.object other)) := by
  obtain ⟨common,kind⟩ := List.forall_mem_append.mp same
  exact causesBoth (Common.readCauses common) (Kind.readCauses kind)

/-! ### The settings of a raw field, gathered -/

def inside (raw : Object) : Object :=
  match raw.value? "config" with
  | some (.object config) => config
  | _ => []

def gathered (raw : Object) : Object := Object.overlay (raw.filter (fun e => isFlat e.1)) (inside raw)

-- Raw fields whose settings can be gathered. Null passes for `config` only where there is something beside it.
inductive Gathers (raw : Object) : Prop where
  | absent (none : raw.value? "config" = none)
  | null (null : raw.value? "config" = some .null) {name : String} (flat : isFlat name = true)
      (beside : raw.value? name ≠ none)
  | object {config : Object} (given : raw.value? "config" = some (.object config)) (distinct : (config.map (·.1)).Nodup)

theorem Gathers.distinct {raw : Object} (gathers : Gathers raw) : ((inside raw).map (·.1)).Nodup := by
  cases gathers with
  | absent none => simp [inside,none]
  | null null _ _ => simp [inside,null]
  | object given distinct => simpa [inside,given] using distinct

theorem gatheredValue {raw : Object} (gathers : Gathers raw) {name : String} (flat : isFlat name = true) :
    (gathered raw).value? name = ((inside raw).value? name).or (raw.value? name) := by
  rw [gathered,Object.valueOverlayDistinct _ gathers.distinct,Object.valueKept raw isFlat name,if_pos flat]

theorem gatheredSettings {raw : Object} (gathers : Gathers raw) (t : FieldType) :
    causes (settingsOf t (foldFlat raw)) = causes (readSettings t (.object (gathered raw))) := by
  have put (rest : Object) (v : Value) : causes (settingsOf t (rest.put "config" v)) = causes (readSettings t v) := by
    rw [settingsOf,Object.valuePut,if_pos rfl]
    exact causesUnder _ _
  by_cases nothing : (raw.filter (fun e => isFlat e.1)) = []
  · have same : foldFlat raw = raw := by simp [foldFlat,nothing]
    rw [same,settingsOf,gathered,nothing]
    cases gathers with
    | absent none =>
      simp only [inside,none]
      rfl
    | @null null name flat beside =>
      have kept := Object.valueKept raw isFlat name
      rw [nothing,if_pos flat] at kept
      exact absurd kept.symm beside
    | object given distinct =>
      simp only [inside,given]
      rw [causesUnder]
      refine readSettingsCauses fun k _ => Object.usedSame fun name _ => ?_
      rw [Object.valueOverlayDistinct _ distinct,Object.valueNil,Option.or_none]
  · have some : (raw.filter (fun e => isFlat e.1)).isEmpty = false := by simpa using nothing
    cases gathers with
    | absent none =>
      simp only [foldFlat,some,gathered,inside,none]
      exact put _ _
    | null null _ _ =>
      simp only [foldFlat,some,gathered,inside,null]
      exact put _ _
    | object given _ =>
      simp only [foldFlat,some,gathered,inside,given]
      exact put _ _

/-! ### What a raw field is read as -/

def outcome (m : Mint) (raw : Object) : Except (List Cause) Field × Mint :=
  (causes (parse (.object raw) m).1,(parse (.object raw) m).2)

def attributeNames : List String := ["type","id","persistedId","persisted_id","dbId","label","order"]

theorem ofObjectCauses {t : FieldType} {raw other : Object}
    (own : ∀ name ∈ attributeNames, raw.value? name = other.value? name)
    (settings : causes (settingsOf t (foldFlat raw)) = causes (settingsOf t (foldFlat other))) (fresh : String) :
    causes (ofObject fresh t raw) = causes (ofObject fresh t other) := by
  have apart : ∀ name ∈ attributeNames, isFlat name = false ∧ name ≠ "config" := by decide
  have used (names : List String) (among : ∀ name ∈ names, name ∈ attributeNames) :
      (foldFlat raw).used names = (foldFlat other).used names := by
    refine Object.usedSame fun name member => ?_
    obtain ⟨foreign,outside⟩ := apart name (among name member)
    rw [foldFlatKeeps raw foreign outside,foldFlatKeeps other foreign outside,own name (among name member)]
  exact causesPart (causesPart (causesPart (causesPart
    (causesMap (Object.readAtCauses (used Key.id.names (by decide)) _ _))
    (Object.readAtCauses (used persistedIdNames (by decide)) _ _))
    (Object.readAtCauses (used Key.label.names (by decide)) _ _))
    (Object.readAtCauses (used Key.order.names (by decide)) _ _)) settings

theorem readCauses {t : FieldType} {raw : Object} (kind : raw.value? "type" = some (.str t.name)) (fresh : String) :
    causes (read fresh (.object raw)) = causes (ofObject fresh t raw) := by
  simp only [read,taggedKnown kind,causesUnder]

theorem outcomeAlike {t : FieldType} {raw other : Object} (kind : raw.value? "type" = some (.str t.name))
    (own : ∀ name ∈ attributeNames, raw.value? name = other.value? name) (gathers : Gathers raw) (also : Gathers other)
    (same : ∀ k ∈ keysOf t, (gathered raw).used k.names = (gathered other).used k.names) (m : Mint) :
    outcome m raw = outcome m other := by
  have tag : other.value? "type" = some (.str t.name) := own "type" (by decide) ▸ kind
  have settings : causes (settingsOf t (foldFlat raw)) = causes (settingsOf t (foldFlat other)) := by
    rw [gatheredSettings gathers,gatheredSettings also]
    exact readSettingsCauses same
  have read (fresh : String) : causes (read fresh (.object raw)) = causes (read fresh (.object other)) := by
    rw [readCauses kind,readCauses tag]
    exact ofObjectCauses own settings fresh
  have takes : takesFresh (.object raw) = takesFresh (.object other) := by
    simp only [takesFresh,taggedKnown kind,taggedKnown tag,Object.has,own "id" (by decide)]
  unfold outcome parse
  rw [takes]
  split
  · exact Prod.ext (read _) rfl
  · exact Prod.ext (read _) rfl

/-! ### The value that counts -/

def preferred (raw : Object) (k : Key) : Option Value := ((inside raw).used k.names).or (raw.used k.names)

-- A setting stands inside under its second name only, and beside under its first.
def crossed (raw : Object) (k : Key) : Bool :=
  ((inside raw).value? k.camel).isNone && ((inside raw).value? k.snake).isSome && (raw.value? k.camel).isSome

def decisive (raw : Object) (k : Key) : Option Value := if crossed raw k then raw.value? k.camel else preferred raw k

def settled (rule : Key → Option Value) (keys : List Key) : Object :=
  keys.filterMap (fun k => (rule k).map (fun v => (k.snake,v)))

def settledBy (rule : Object → Key → Option Value) (t : FieldType) (raw : Object) : Object :=
  Object.put (raw.filter (fun e => !isFlat e.1)) "config" (.object (settled (rule raw) (keysOf t)))

theorem gatheredDecisive {raw : Object} (gathers : Gathers raw) {k : Key} (declared : k ∈ settingKeys) :
    (gathered raw).used k.names = decisive raw k := by
  have flat := keysFlat k declared
  rw [Object.usedKey,gatheredValue gathers (flat _ List.mem_cons_self),
    gatheredValue gathers (flat _ (List.mem_cons_of_mem _ List.mem_cons_self)),decisive,crossed,preferred,Object.usedKey,
    Object.usedKey]
  cases (inside raw).value? k.camel <;> cases (inside raw).value? k.snake <;> cases raw.value? k.camel <;> rfl

theorem keysDistinct (t : FieldType) : ((keysOf t).map Key.snake).Nodup := by cases t <;> decide

theorem snakesApart : ∀ k ∈ settingKeys, ∀ l ∈ settingKeys, l.snake = k.snake ∨ l.snake = k.camel → l = k := by decide

theorem settledNames (rule : Key → Option Value) (keys : List Key) :
    ((settled rule keys).map (·.1)).Sublist (keys.map Key.snake) := by
  induction keys with
  | nil => exact .slnil
  | cons k rest ih =>
    rw [settled,List.filterMap_cons]
    cases rule k with
    | none => exact ih.cons _
    | some v => exact ih.cons_cons _

theorem settledAlike {rule other : Key → Option Value} {keys : List Key} (same : ∀ k ∈ keys, rule k = other k) :
    settled rule keys = settled other keys := by
  unfold settled
  induction keys with
  | nil => rfl
  | cons k rest ih =>
    obtain ⟨own,later⟩ := List.forall_mem_cons.mp same
    rw [List.filterMap_cons,List.filterMap_cons,own,ih later]

theorem settledForeign {rule : Key → Option Value} {keys : List Key} {name : String}
    (foreign : ∀ k ∈ keys, k.snake ≠ name) : (settled rule keys).value? name = none := by
  refine (Object.valueNone _ _).mpr fun e member same => ?_
  obtain ⟨k,among,own⟩ := List.mem_map.mp ((settledNames rule keys).subset (List.mem_map_of_mem member))
  exact foreign k among (own.trans same)

theorem settledValue {rule : Key → Option Value} {keys : List Key} (distinct : (keys.map Key.snake).Nodup) :
    ∀ k ∈ keys, (settled rule keys).value? k.snake = rule k := by
  induction keys with
  | nil => simp
  | cons head rest ih =>
    obtain ⟨once,distinct⟩ := List.nodup_cons.mp distinct
    have first : (settled rule (head :: rest)) = (((rule head).map (fun v => (head.snake,v))).toList ++ settled rule rest) := by
      rw [settled,List.filterMap_cons]
      cases rule head <;> rfl
    refine List.forall_mem_cons.mpr ⟨?_,fun k member => ?_⟩
    · have absent : (settled rule rest).value? head.snake = none :=
        settledForeign fun k member same => once (List.mem_map.mpr ⟨k,member,same⟩)
      rw [first,Object.valueAppend,absent,Option.or_none]
      cases rule head <;> simp [Object.valueCons]
    · have other : head.snake ≠ k.snake := fun same => once (List.mem_map.mpr ⟨k,member,same.symm⟩)
      rw [first,Object.valueAppend,ih distinct k member]
      cases rule head <;> simp [Object.valueCons,other]

theorem settledGathers (rule : Object → Key → Option Value) (t : FieldType) (raw : Object) :
    Gathers (settledBy rule t raw) :=
  .object (by rw [settledBy,Object.valuePut,if_pos rfl]) ((keysDistinct t).sublist (settledNames (rule raw) (keysOf t)))

theorem settledKeeps (rule : Object → Key → Option Value) (t : FieldType) (raw : Object) :
    ∀ name ∈ attributeNames, (settledBy rule t raw).value? name = raw.value? name := by
  have apart : ∀ name ∈ attributeNames, isFlat name = false ∧ "config" ≠ name := by decide
  intro name own
  obtain ⟨foreign,outside⟩ := apart name own
  rw [settledBy,Object.valuePut,if_neg outside,Object.valueKept raw (fun key => !isFlat key) name,foreign]
  rfl

theorem settledUsed (rule : Object → Key → Option Value) {t : FieldType} (raw : Object) {k : Key} (own : k ∈ keysOf t) :
    (gathered (settledBy rule t raw)).used k.names = rule raw k := by
  have inner : inside (settledBy rule t raw) = settled (rule raw) (keysOf t) := by
    rw [inside,settledBy,Object.valuePut,if_pos rfl]
  have gather (name : String) (among : name ∈ k.names) :
      (gathered (settledBy rule t raw)).value? name = (settled (rule raw) (keysOf t)).value? name := by
    have flat := keysFlat k (keysDeclared k own) name among
    have outside : "config" ≠ name := by
      rintro rfl
      exact absurd flat (by decide)
    rw [gatheredValue (settledGathers rule t raw) flat,inner,settledBy,Object.valuePut,if_neg outside,
      Object.valueKept raw (fun key => !isFlat key) name,flat,Bool.not_true,if_neg Bool.false_ne_true,Option.or_none]
  have snake : (settled (rule raw) (keysOf t)).value? k.snake = rule raw k := settledValue (keysDistinct t) k own
  rw [Object.usedSame gather,Object.usedKey,snake]
  by_cases same : k.camel = k.snake
  · rw [same,snake,Option.or_self]
  · have absent : (settled (rule raw) (keysOf t)).value? k.camel = none := by
      refine settledForeign fun l member met => same ?_
      obtain rfl := snakesApart k (keysDeclared k own) l (keysDeclared l member) (.inr met)
      exact met.symm
    rw [absent,Option.none_or]

/-! ### Moving and respelling a setting -/

theorem flatOutside {name : String} (flat : isFlat name = true) : name ≠ "config" := by
  rintro rfl
  exact absurd flat (by decide)

theorem flatNoAttribute {name : String} (flat : isFlat name = true) : name ∉ attributeNames := fun member => by
  have foreign : ∀ name ∈ attributeNames, isFlat name = false := by decide
  rw [foreign name member] at flat
  contradiction

theorem movedOut {t : FieldType} {raw config : Object} (kind : raw.value? "type" = some (.str t.name))
    (given : raw.value? "config" = some (.object config)) (distinct : (config.map (·.1)).Nodup) {name : String}
    (flat : isFlat name = true) {v : Value} (held : config.value? name = some v) (m : Mint) :
    outcome m ((raw.put "config" (.object (config.without name))).put name v) = outcome m raw := by
  let moved := (raw.put "config" (.object (config.without name))).put name v
  have value (other : String) : moved.value? other = if name = other then some v
      else if "config" = other then some (.object (config.without name)) else raw.value? other := by
    rw [Object.valuePut,Object.valuePut]
  have now : moved.value? "config" = some (.object (config.without name)) := by
    rw [value,if_neg (flatOutside flat),if_pos rfl]
  have gathers : Gathers raw := .object given distinct
  have still : Gathers moved := .object now (distinct.sublist (List.filter_sublist.map _))
  refine (outcomeAlike kind (fun other own => ?_) gathers still (fun k own => ?_) m).symm
  · have away : name ≠ other := by
      rintro rfl
      exact flatNoAttribute flat own
    have outside : "config" ≠ other := by
      rintro rfl
      exact absurd own (by decide)
    rw [value,if_neg away,if_neg outside]
  · refine Object.usedSame fun other among => ?_
    have inner := keysFlat k (keysDeclared k own) other among
    rw [gatheredValue gathers inner,gatheredValue still inner]
    simp only [inside,given,now,Object.valueWithout]
    by_cases same : other = name
    · rw [if_pos same,same,held,value,if_pos rfl]
      rfl
    · rw [if_neg same,value,if_neg (Ne.symm same),if_neg (flatOutside inner).symm]

def GivenOnce (k : Key) (o : Object) (name : String) (v : Value) : Prop :=
  ∀ other ∈ k.names, o.value? other = if other = name then some v else none

theorem GivenOnce.used {k : Key} {o : Object} {name : String} {v : Value} (once : GivenOnce k o name v)
    (own : name ∈ k.names) : o.used k.names = some v := by
  have camel := once k.camel List.mem_cons_self
  have snake := once k.snake (List.mem_cons_of_mem _ List.mem_cons_self)
  rw [Object.usedKey,camel,snake]
  simp only [Key.names,List.mem_cons,List.not_mem_nil,or_false] at own
  rcases own with rfl | rfl
  · rw [if_pos rfl,Option.some_or]
  · rw [if_pos rfl]
    split <;> rfl

theorem respelled {t : FieldType} {raw after : Object} (kind : raw.value? "type" = some (.str t.name))
    (own : ∀ name ∈ attributeNames, raw.value? name = after.value? name) (gathers : Gathers raw) (still : Gathers after)
    {k : Key} (declared : k ∈ settingKeys) {name other : String} (first : name ∈ k.names) (second : other ∈ k.names) {v : Value}
    (before : GivenOnce k (gathered raw) name v) (now : GivenOnce k (gathered after) other v)
    (others : ∀ away, away ∉ k.names → isFlat away = true → (gathered raw).value? away = (gathered after).value? away)
    (m : Mint) : outcome m after = outcome m raw := by
  refine (outcomeAlike kind own gathers still (fun l among => ?_) m).symm
  by_cases same : l = k
  · rw [same,before.used first,now.used second]
  · have known := keysDeclared l among
    exact Object.usedSame fun away part =>
      others away (namesApart k declared l known same away part) (keysFlat l known away part)

theorem respelledBeside {t : FieldType} {raw : Object} (kind : raw.value? "type" = some (.str t.name))
    (gathers : Gathers raw) {k : Key} (declared : k ∈ settingKeys) {name other : String} (first : name ∈ k.names)
    (second : other ∈ k.names) {v : Value} (once : GivenOnce k raw name v)
    (free : ∀ n ∈ k.names, (inside raw).value? n = none) (m : Mint) :
    outcome m ((raw.without name).put other v) = outcome m raw := by
  let after := (raw.without name).put other v
  have value (n : String) : after.value? n = if other = n then some v else if n = name then none else raw.value? n := by
    rw [Object.valuePut,Object.valueWithout]
  have keeps {n : String} (away : n ∉ k.names) : after.value? n = raw.value? n := by
    have left : other ≠ n := fun same => away (same ▸ second)
    have right : n ≠ name := fun same => away (same ▸ first)
    rw [value,if_neg left,if_neg right]
  have outside : "config" ∉ k.names := fun member => flatOutside (keysFlat k declared _ member) rfl
  have same : inside after = inside raw := by rw [inside,keeps outside,inside]
  have still : Gathers after := by
    cases gathers with
    | absent none => exact .absent ((keeps outside).trans none)
    | null null flat beside =>
      exact .null ((keeps outside).trans null) (keysFlat k declared other second) (by rw [value,if_pos rfl]; simp)
    | object given distinct => exact .object ((keeps outside).trans given) distinct
  refine respelled kind (fun n own => (keeps fun part => ?_).symm) gathers still declared first second (v := v)
    (fun n part => ?_) (fun n part => ?_) (fun n away flat => ?_) m
  · exact flatNoAttribute (keysFlat k declared n part) own
  · rw [gatheredValue gathers (keysFlat k declared n part),free n part,Option.none_or,once n part]
  · rw [gatheredValue still (keysFlat k declared n part),same,free n part,Option.none_or,value,once n part]
    by_cases own : n = other
    · rw [if_pos own.symm,if_pos own]
    · rw [if_neg (Ne.symm own),if_neg own]
      split <;> rfl
  · rw [gatheredValue gathers flat,gatheredValue still flat,same,keeps away]

theorem respelledInside {t : FieldType} {raw config : Object} (kind : raw.value? "type" = some (.str t.name))
    (given : raw.value? "config" = some (.object config)) (distinct : (config.map (·.1)).Nodup) {k : Key}
    (declared : k ∈ settingKeys) {name other : String} (first : name ∈ k.names) (second : other ∈ k.names) {v : Value}
    (once : GivenOnce k config name v) (free : ∀ n ∈ k.names, raw.value? n = none) (m : Mint) :
    outcome m (raw.put "config" (.object ((config.without name).put other v))) = outcome m raw := by
  let after := raw.put "config" (.object ((config.without name).put other v))
  have now : after.value? "config" = some (.object ((config.without name).put other v)) := by
    rw [Object.valuePut,if_pos rfl]
  have keeps {n : String} (outside : n ≠ "config") : after.value? n = raw.value? n := by
    rw [Object.valuePut,if_neg (Ne.symm outside)]
  have gathers : Gathers raw := .object given distinct
  have still : Gathers after := .object now (Object.putDistinct (distinct.sublist (List.filter_sublist.map _)) other v)
  have value (n : String) : (inside after).value? n =
      if other = n then some v else if n = name then none else config.value? n := by
    simp only [inside,now]
    rw [Object.valuePut,Object.valueWithout]
  have held : inside raw = config := by rw [inside,given]
  refine respelled kind (fun n own => (keeps ?_).symm) gathers still declared first second (v := v) (fun n part => ?_)
    (fun n part => ?_) (fun n away flat => ?_) m
  · rintro rfl
    exact absurd own (by decide)
  · rw [gatheredValue gathers (keysFlat k declared n part),free n part,Option.or_none,held,once n part]
  · have flat := keysFlat k declared n part
    rw [gatheredValue still flat,keeps (flatOutside flat),free n part,Option.or_none,value,once n part]
    by_cases own : n = other
    · rw [if_pos own.symm,if_pos own]
    · rw [if_neg (Ne.symm own),if_neg own]
      split <;> rfl
  · have left : other ≠ n := fun same => away (same ▸ second)
    have right : n ≠ name := fun same => away (same ▸ first)
    rw [gatheredValue gathers flat,gatheredValue still flat,keeps (flatOutside flat),value,held,if_neg left,if_neg right]

def Foldable (raw : Object) : Prop :=
  raw.value? "config" = none ∨ raw.value? "config" = some .null ∨
    ∃ config, raw.value? "config" = some (.object config) ∧ (config.map (·.1)).Nodup

structure Hollow (raw : Object) : Prop where
  null : raw.value? "config" = some .null
  bare : ∀ name, isFlat name = true → raw.value? name = none

theorem hollowFails {t : FieldType} {raw : Object} (kind : raw.value? "type" = some (.str t.name)) (hollow : Hollow raw)
    (m : Mint) : ∃ causes, (outcome m raw).1 = .error causes := by
  have nothing : raw.filter (fun e => isFlat e.1) = [] := List.filter_eq_nil_iff.mpr fun e member flat =>
    (Object.valueNone raw e.1).mp (hollow.bare e.1 flat) e member rfl
  have same : foldFlat raw = raw := by simp [foldFlat,nothing]
  have settings : settingsOf t (foldFlat raw) = .error [⟨.notRecord,[.name "config"]⟩] := by
    simp only [same,settingsOf,hollow.null,readSettings]
    rfl
  have fails (fresh : String) : ∃ faults, causes (read fresh (.object raw)) = .error faults := by
    rw [readCauses kind]
    simp only [ofObject,settings]
    have last (f : Checked (Common × Kind → Field)) : ∃ faults,
        causes (Checked.part f (.error [⟨.notRecord,[.name "config"]⟩])) = .error faults := by
      cases f <;> exact ⟨_,rfl⟩
    exact last _
  unfold outcome parse
  split
  · exact fails _
  · exact fails _

theorem gathersUnlessHollow {raw : Object} (folds : Foldable raw) (full : ¬ Hollow raw) : Gathers raw := by
  rcases folds with none | null | ⟨config,given,distinct⟩
  · exact .absent none
  · have beside : ∃ name, isFlat name = true ∧ raw.value? name ≠ none := by
      refine Classical.byContradiction fun bare => full ⟨null,fun name flat => ?_⟩
      exact Classical.byContradiction fun held => bare ⟨name,flat,held⟩
    obtain ⟨name,flat,held⟩ := beside
    exact .null null flat held
  · exact .object given distinct

theorem insideGiven {raw : Object} (folds : Foldable raw) {name : String} (held : (inside raw).value? name ≠ none) :
    raw.value? "config" = some (.object (inside raw)) ∧ ((inside raw).map (·.1)).Nodup := by
  rcases folds with none | null | ⟨config,given,distinct⟩
  · simp [inside,none] at held
  · simp [inside,null] at held
  · have same : inside raw = config := by rw [inside,given]
    exact same ▸ ⟨given,distinct⟩

/-- A raw field whose settings stand inside `config` or beside the attributes, under either of their names, comes to the
same as one that has them all inside, each with one value. That is the value inside, if there is one under either name,
and else the value beside, except for a setting that is crossed: inside under its second name only, beside under its
first. There the value beside counts. A setting inside can be taken out, and one that is given once can be given under
its other name, with nothing changed. A null for `config` is refused if no setting stands beside it. -/
theorem settingsFold {t : FieldType} {raw : Object} (kind : raw.value? "type" = some (.str t.name))
    (folds : Foldable raw) (m : Mint) :
    (Hollow raw → ∃ causes, (outcome m raw).1 = .error causes) ∧
    (¬ Hollow raw → outcome m raw = outcome m (settledBy decisive t raw) ∧
      ((∀ k ∈ keysOf t, crossed raw k = false) → outcome m raw = outcome m (settledBy preferred t raw))) ∧
    (∀ name v, isFlat name = true → (inside raw).value? name = some v →
      outcome m ((raw.put "config" (.object ((inside raw).without name))).put name v) = outcome m raw) ∧
    (∀ k ∈ keysOf t, ∀ name ∈ k.names, ∀ other ∈ k.names, ∀ v,
      (GivenOnce k raw name v → (∀ n ∈ k.names, (inside raw).value? n = none) →
        outcome m ((raw.without name).put other v) = outcome m raw) ∧
      (GivenOnce k (inside raw) name v → (∀ n ∈ k.names, raw.value? n = none) →
        outcome m (raw.put "config" (.object (((inside raw).without name).put other v))) = outcome m raw)) := by
  have settles (full : ¬ Hollow raw) : outcome m raw = outcome m (settledBy decisive t raw) :=
    have gathers := gathersUnlessHollow folds full
    outcomeAlike kind (fun name own => (settledKeeps _ t raw name own).symm) gathers (settledGathers _ t raw)
      (fun k own => (gatheredDecisive gathers (keysDeclared k own)).trans (settledUsed _ raw own).symm) m
  refine ⟨fun hollow => hollowFails kind hollow m,fun full => ⟨settles full,fun straight => ?_⟩,fun name v flat held => ?_,
    fun k own name first other second v => ⟨fun once free => ?_,fun once free => ?_⟩⟩
  · have same : settled (decisive raw) (keysOf t) = settled (preferred raw) (keysOf t) :=
      settledAlike fun k own => by rw [decisive,straight k own,if_neg Bool.false_ne_true]
    rw [settles full,settledBy,same,settledBy]
  · obtain ⟨given,distinct⟩ := insideGiven folds (Option.ne_none_iff_exists'.mpr ⟨v,held⟩)
    exact movedOut kind given distinct flat held m
  · have beside : raw.value? name = some v := (once name first).trans (if_pos rfl)
    have full : ¬ Hollow raw := fun hollow => by
      rw [hollow.bare name (keysFlat k (keysDeclared k own) name first)] at beside
      contradiction
    exact respelledBeside kind (gathersUnlessHollow folds full) (keysDeclared k own) first second once free m
  · have held : (inside raw).value? name = some v := (once name first).trans (if_pos rfl)
    obtain ⟨given,distinct⟩ := insideGiven folds (Option.ne_none_iff_exists'.mpr ⟨v,held⟩)
    exact respelledInside kind given distinct (keysDeclared k own) first second once free m

theorem scaleBesideCounts :
    let m := Mint.atSeconds 0
    let raw : Object := [("type",.str "rating"),("id",.str "a"),("label",.str "R"),("maxRating",.int 7),
      ("config",.object [("max_rating",.int 3)])]
    let field (top : Nat) (positive : 0 < top) : Field := ⟨"a",none,"R",0,⟨false,none,none⟩,.rating ⟨top,positive⟩⟩
    crossed raw .maxRating = true ∧ outcome m raw = outcome m (settledBy decisive .rating raw) ∧
    outcome m raw = (.ok (field 7 (by decide)),m) ∧
    outcome m (settledBy preferred .rating raw) = (.ok (field 3 (by decide)),m) := by
  intro m raw field
  have full : ¬ Hollow raw := fun hollow => absurd hollow.null (by simp [raw,Object.valueCons])
  have config : raw.value? "config" = some (.object [("max_rating",.int 3)]) := rfl
  have kind : raw.value? "type" = some (.str FieldType.rating.name) := rfl
  obtain ⟨-,settles,-⟩ := settingsFold kind (.inr (.inr ⟨_,config,by decide⟩)) m
  exact ⟨rfl,(settles full).1,rfl,rfl⟩

end Field
end FormBuilder
