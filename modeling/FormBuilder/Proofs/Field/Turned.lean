import FormBuilder.Proofs.Field.Changed
import FormBuilder.Proofs.Store.Parsed
/-! A change of a field, attribute by attribute: what is asked for is read as it always is, and all the rest stays. So
what a change comes to depends only on what it asks of the attributes and of the settings that the field has. -/
namespace FormBuilder

def turn (used : String) (read : Value → Checked α) (asked : Option Value) (before : α) : Checked α :=
  match asked with
  | none => .ok before
  | some v => Checked.under (.name used) (read v)

theorem turnAgain {used : String} {read : Value → Checked α} {first : Option Value} {before between : α}
    (ok : turn used read first before = .ok between) (later : Option Value) :
    turn used read later between = turn used read (later.or first) before := by
  cases later with
  | none => exact ok.symm
  | some v => rfl

theorem readTurned {o : Object} {k : Key} {asked : Option Value} {written : Value} {read : Value → Checked α}
    {before : α} (camel : k.camel ≠ k.snake → o.value? k.camel = none)
    (held : o.value? k.snake = some (asked.getD written)) (back : read written = .ok before) (default : α) :
    o.readAt k.names default read = turn k.snake read asked before := by
  simp only [Object.readAt,Object.givenPlain camel held]
  cases asked with
  | none =>
    rw [Option.getD_none,back]
    rfl
  | some v => rfl

namespace Kind

def turned (asked : String → Option Value) : Kind → Checked Kind
  | longtext help =>
    (turn Key.helpText.snake (Scalar.optional Scalar.text) (asked Key.helpText.snake) help).map longtext
  | number least most =>
    .both number (turn Key.min.snake (Scalar.optional Scalar.double) (asked Key.min.snake) least)
      (turn Key.max.snake (Scalar.optional Scalar.double) (asked Key.max.snake) most)
  | checkbox options => (turn Key.options.snake Scalar.texts (asked Key.options.snake) options).map checkbox
  | radio options => (turn Key.options.snake Scalar.texts (asked Key.options.snake) options).map radio
  | dropdown options => (turn Key.options.snake Scalar.texts (asked Key.options.snake) options).map dropdown
  | rating scale => (turn Key.maxRating.snake Scale.read (asked Key.maxRating.snake) scale).map rating
  | file types maxSize =>
    .both file (turn Key.fileTypes.snake Scalar.texts (asked Key.fileTypes.snake) types)
      (turn Key.maxFileSize.snake (Scalar.optional Scalar.nat) (asked Key.maxFileSize.snake) maxSize)
  | matrix rows columns =>
    .both matrix (turn Key.rows.snake Scalar.texts (asked Key.rows.snake) rows)
      (turn Key.columns.snake Scalar.texts (asked Key.columns.snake) columns)
  | ranking options => (turn Key.options.snake Scalar.texts (asked Key.options.snake) options).map ranking
  | pictureChoice options images =>
    .both pictureChoice (turn Key.options.snake Scalar.texts (asked Key.options.snake) options)
      (turn Key.imageUrls.snake Scalar.texts (asked Key.imageUrls.snake) images)
  | k => .ok k

theorem turnedAgain {first : String → Option Value} {k between : Kind} (ok : k.turned first = .ok between)
    (later : String → Option Value) : between.turned later = k.turned (fun name => (later name).or (first name)) := by
  cases k with
  | text | email | phone | url | date | signature | pageBreak | divider =>
    cases ok
    rfl
  | longtext _ | checkbox _ | radio _ | dropdown _ | rating _ | ranking _ =>
    obtain ⟨_,own,rfl⟩ := Checked.mapOk.mp ok
    simp only [turned,turnAgain own]
  | number _ _ | file _ _ | matrix _ _ | pictureChoice _ _ =>
    obtain ⟨_,_,left,right,rfl⟩ := Checked.bothOk.mp ok
    simp only [turned,turnAgain left,turnAgain right]

theorem turnedType {asked : String → Option Value} {k after : Kind} (ok : k.turned asked = .ok after) :
    after.type = k.type := by
  cases k with
  | text | email | phone | url | date | signature | pageBreak | divider =>
    cases ok
    rfl
  | longtext _ | checkbox _ | radio _ | dropdown _ | rating _ | ranking _ =>
    obtain ⟨_,-,rfl⟩ := Checked.mapOk.mp ok
    rfl
  | number _ _ | file _ _ | matrix _ _ | pictureChoice _ _ =>
    obtain ⟨_,_,-,-,rfl⟩ := Checked.bothOk.mp ok
    rfl

end Kind

def LaidOver (asked : String → Option Value) (among : List (Key × Value)) (o : Object) : Prop :=
  ∀ a ∈ among, o.value? a.1.snake = some ((asked a.1.snake).getD a.2) ∧
    (a.1.camel ≠ a.1.snake → o.value? a.1.camel = none)

theorem LaidOver.turned {asked : String → Option Value} {among : List (Key × Value)} {o : Object}
    (laid : LaidOver asked among o) {k : Key} {written : Value} (member : (k,written) ∈ among) {read : Value → Checked α}
    {before : α} (back : read written = .ok before) (default : α) :
    o.readAt k.names default read = turn k.snake read (asked k.snake) before :=
  readTurned (laid _ member).2 (laid _ member).1 back default

theorem optionalBack {read : Value → Checked α} {put : α → Value} (back : ∀ a, Scalar.optional read (put a) = .ok (some a))
    (given : Option α) : Scalar.optional read (Value.ofOption put given) = .ok given := by
  cases given with
  | none => rfl
  | some a => exact back a

theorem Kind.readTurned {asked : String → Option Value} {k : Kind} {config : Object}
    (laid : LaidOver asked k.attributes config) : Kind.read config k.type = k.turned asked := by
  have text (s : String) : Scalar.optional Scalar.text (.str s) = .ok (some s) := rfl
  have bound (x : Double) : Scalar.optional Scalar.double (.float x) = .ok (some x) := rfl
  have size (n : Nat) : Scalar.optional Scalar.nat (.ofNat n) = .ok (some n) := congrArg (Except.map some) (Scalar.readNat n)
  have texts (items : List String) : Scalar.texts (.texts items) = .ok items := readTexts 0 items
  have second {a b : Key × Value} : b ∈ [a,b] := List.mem_cons_of_mem a List.mem_cons_self
  cases k with
  | text | email | phone | url | date | signature | pageBreak | divider => rfl
  | longtext help =>
    have own := laid.turned List.mem_cons_self (optionalBack text help) none
    simp only [read,type,own,turned]
  | number least most =>
    have left := laid.turned List.mem_cons_self (optionalBack bound least) none
    have right := laid.turned second (optionalBack bound most) none
    simp only [read,type,left,right,turned]
  | checkbox options | radio options | dropdown options | ranking options =>
    have own := laid.turned List.mem_cons_self (texts options) []
    simp only [read,optionList,type,own,turned]
  | rating scale =>
    have own := laid.turned List.mem_cons_self (readScale scale) .default
    simp only [read,type,own,turned]
  | file types maxSize =>
    have left := laid.turned List.mem_cons_self (texts types) []
    have right := laid.turned second (optionalBack size maxSize) none
    simp only [read,type,left,right,turned]
  | matrix rows columns =>
    have left := laid.turned List.mem_cons_self (texts rows) []
    have right := laid.turned second (texts columns) []
    simp only [read,type,left,right,turned]
  | pictureChoice options images =>
    have left := laid.turned List.mem_cons_self (texts options) []
    have right := laid.turned second (texts images) []
    simp only [read,optionList,type,left,right,turned]

theorem conditionBack {c : Condition} (named : Operator.ofName c.operator.name = c.operator) :
    Scalar.optional Condition.read (c.write .plain) = .ok (some c) := by
  let o := Spelling.plain.entries c.attributes
  have target : o.value? "target_field_id" = some (.str c.target) := by simp [o,Condition.attributes,valuePlain,Key.target]
  have operator : o.value? "operator" = some (.str c.operator.name) := by
    simp [o,Condition.attributes,valuePlain,Key.target,Key.operator]
  have value : o.value? "value" = some c.value := by
    simp [o,Condition.attributes,valuePlain,Key.target,Key.operator,Key.value]
  have given : o.given? Condition.targetNames = some ("target_field_id",.str c.target) := by
    have camel : o.value? "targetFieldId" = none := by
      simp [o,Condition.attributes,valuePlain,Key.target,Key.operator,Key.value]
    simp [Condition.targetNames,Object.given?,camel,target]
  have text : Scalar.text (.str c.target) = .ok c.target := rfl
  have readTarget : o.readAt Condition.targetNames "" Scalar.text = .ok c.target := Object.readAtGiven given text _
  have known : Operator.read (.str c.operator.name) = .ok c.operator := congrArg Except.ok named
  have readOperator : o.readAt Key.operator.names .equals Operator.read = .ok c.operator :=
    Object.readAtGiven (Object.givenCamel (k := .operator) operator) known _
  have readValue : o.readAt Key.value.names .null .ok = .ok c.value :=
    Object.readAtGiven (Object.givenCamel (k := .value) value) rfl _
  show Except.map some (Condition.ofObject o) = _
  simp only [Condition.ofObject,readTarget,readOperator,readValue]
  rfl

namespace Common

def turned (asked : String → Option Value) (c : Common) : Checked Common :=
  .part (.part ((turn Key.required.snake readRequired (asked Key.required.snake) c.required).map Common.mk)
    (turn Key.placeholder.snake (Scalar.optional Scalar.text) (asked Key.placeholder.snake) c.placeholder))
    (turn Key.condition.snake (Scalar.optional Condition.read) (asked Key.condition.snake) c.condition)

theorem turnedAgain {first : String → Option Value} {c between : Common} (ok : c.turned first = .ok between)
    (later : String → Option Value) : between.turned later = c.turned (fun name => (later name).or (first name)) := by
  simp only [turned,Checked.partOk,Checked.mapOk] at ok
  obtain ⟨_,_,⟨_,_,⟨_,required,rfl⟩,placeholder,rfl⟩,condition,rfl⟩ := ok
  simp only [turned,turnAgain required,turnAgain placeholder,turnAgain condition]

theorem readTurned {asked : String → Option Value} {c : Common} {config : Object}
    (named : ∀ d, c.condition = some d → Operator.ofName d.operator.name = d.operator)
    (laid : LaidOver asked (c.attributes .plain) config) : Common.read config = c.turned asked := by
  have text (s : String) : Scalar.optional Scalar.text (.str s) = .ok (some s) := rfl
  have flag : readRequired (.bool c.required) = .ok c.required := rfl
  have test : Scalar.optional Condition.read (Value.ofOption (Condition.write .plain) c.condition) = .ok c.condition := by
    cases own : c.condition with
    | none => rfl
    | some d => exact conditionBack (named d own)
  have required := laid.turned List.mem_cons_self flag false
  have placeholder := laid.turned (List.mem_cons_of_mem _ List.mem_cons_self) (optionalBack text c.placeholder) none
  have condition := laid.turned (List.mem_cons_of_mem _ (List.mem_cons_of_mem _ List.mem_cons_self)) test none
  simp only [read,required,placeholder,condition,turned]

end Common

namespace Field

def turned (attributes settings : String → Option Value) (f : Field) : Checked Field :=
  .part (.part (.part (.part ((turn Key.id.snake Scalar.text (attributes Key.id.snake) f.id).map assemble)
    (turn Key.persistedId.snake (Scalar.optional Scalar.text) (attributes Key.persistedId.snake) f.persistedId))
    (turn Key.label.snake Scalar.text (attributes Key.label.snake) f.label))
    (turn Key.order.snake Scalar.nat (attributes Key.order.snake) f.order))
    (Checked.under (.name Key.config.snake) (.both Prod.mk (f.common.turned settings) (f.kind.turned settings)))

theorem turnedAgain {first firstSettings : String → Option Value} {f between : Field}
    (ok : f.turned first firstSettings = .ok between) (later laterSettings : String → Option Value) :
    between.turned later laterSettings = f.turned (fun name => (later name).or (first name))
      (fun name => (laterSettings name).or (firstSettings name)) := by
  simp only [turned,Checked.partOk,Checked.mapOk,Checked.underOk,Checked.bothOk] at ok
  obtain ⟨_,_,⟨_,_,⟨_,_,⟨_,_,⟨_,id,rfl⟩,persisted,rfl⟩,label,rfl⟩,order,rfl⟩,⟨_,_,common,kind,rfl⟩,rfl⟩ := ok
  simp only [turned,assemble,turnAgain id,turnAgain persisted,turnAgain label,turnAgain order,
    Common.turnedAgain common,Kind.turnedAgain kind]

theorem turnedType {attributes settings : String → Option Value} {f after : Field}
    (ok : f.turned attributes settings = .ok after) : after.type = f.type := by
  simp only [turned,Checked.partOk,Checked.mapOk,Checked.underOk,Checked.bothOk] at ok
  obtain ⟨_,_,⟨_,_,⟨_,_,⟨_,_,⟨_,-,rfl⟩,-,rfl⟩,-,rfl⟩,-,rfl⟩,⟨_,_,-,kind,rfl⟩,rfl⟩ := ok
  exact Kind.turnedType kind

theorem turnedNothing (f : Field) : f.turned (fun _ => none) (fun _ => none) = .ok f := by
  obtain ⟨id,persistedId,label,order,common,kind⟩ := f
  cases kind <;> rfl

def settingKeys : List Key :=
  [.required,.placeholder,.condition,.options,.min,.max,.maxRating,.rows,.columns,.imageUrls,.helpText,.fileTypes,
    .maxFileSize]

theorem turnedAlike {attributes attributes' settings settings' : String → Option Value} (f : Field)
    (own : ∀ k ∈ [Key.id,.persistedId,.label,.order], attributes k.snake = attributes' k.snake)
    (inside : ∀ k ∈ settingKeys, settings k.snake = settings' k.snake) :
    f.turned attributes settings = f.turned attributes' settings' := by
  simp only [settingKeys,List.forall_mem_cons,List.not_mem_nil,false_implies,implies_true,and_true] at own inside
  obtain ⟨id,persistedId,label,order⟩ := own
  have common : f.common.turned settings = f.common.turned settings' := by
    simp only [Common.turned,inside]
  have kind : f.kind.turned settings = f.kind.turned settings' := by
    cases f.kind <;> simp only [Kind.turned,inside]
  simp only [turned,id,persistedId,label,order,common,kind]

def settingsIn (e : String × Value) : Object :=
  if e.1 = "config" then
    match e.2 with
    | .object o => Object.renameKeys Text.underscored o
    | _ => []
  else if isFlat e.1 then [e]
  else []

def settingsAsked (changes : Object) : Object :=
  Object.ofEntries ((changes.renameKeys Text.underscored).flatMap settingsIn)

theorem overlaySettings {base next : Object × Object} {e : String × Value} (ok : overlay base e.1 e.2 = .ok next)
    (name : String) : next.2.value? name = (Object.value? (settingsIn e).reverse name).or (base.2.value? name) := by
  obtain ⟨key,v⟩ := e
  unfold overlay at ok
  unfold settingsIn
  dsimp only at ok ⊢
  split at ok
  · rename_i config
    rw [if_pos config]
    cases v with
    | object o =>
      cases ok
      exact Object.valueOverlay _ _ _
    | _ =>
      simp only [configChange] at ok
      split at ok
      · cases ok
        rfl
      · contradiction
  · rename_i other
    rw [if_neg other]
    split at ok
    · rename_i flat
      cases ok
      rw [if_pos flat,Object.valuePut]
      simp only [List.reverse_singleton,Object.valueCons,Object.valueNil]
      split <;> rfl
    · rename_i own
      cases ok
      rw [if_neg own]
      rfl

theorem overlayAllSettings {base next : Object × Object} {changes : Object} (ok : overlayAll base changes = .ok next)
    (name : String) :
    next.2.value? name = (Object.value? (changes.flatMap settingsIn).reverse name).or (base.2.value? name) := by
  induction changes generalizing base with
  | nil =>
    cases ok
    rfl
  | cons e rest ih =>
    rw [overlayAll] at ok
    split at ok
    · rename_i after step
      rw [ih ok,overlaySettings step,List.flatMap_cons,List.reverse_append,Object.valueAppend,Option.or_assoc]
    · contradiction

theorem overlayAllKeeps {base next : Object × Object} {changes : Object} (ok : overlayAll base changes = .ok next)
    {name : String} (settings : name = "config" ∨ isFlat name = true) : next.1.value? name = base.1.value? name := by
  induction changes generalizing base with
  | nil =>
    cases ok
    rfl
  | cons e rest ih =>
    rw [overlayAll] at ok
    split at ok
    · rename_i after step
      rw [ih ok]
      unfold overlay at step
      split at step
      · obtain ⟨o,-,rfl⟩ := Checked.mapOk.mp step
        rfl
      · rename_i other
        split at step
        · cases step
          rfl
        · rename_i own
          cases step
          refine (Object.valuePut _ _ _ _).trans (if_neg ?_)
          rintro rfl
          rcases settings with config | flat
          · exact other config
          · exact own flat
    · contradiction

theorem configChangeFails {v : Value} {m : Misuse} :
    configChange v = .error m ↔ m = .noNames ∧ v.isVoid = false ∧ ∀ o, v ≠ .object o := by
  cases v with
  | object o => simp [configChange]
  | null | bool _ | int _ | float _ | str _ | list _ =>
    simp only [configChange]
    split
    · rename_i void
      simp [void]
    · rename_i some
      simp [some,@eq_comm _ Misuse.noNames m]

theorem overlayFails {base : Object × Object} {e : String × Value} {m : Misuse} :
    overlay base e.1 e.2 = .error m ↔ e.1 = "config" ∧ configChange e.2 = .error m := by
  unfold overlay
  split
  · rename_i config
    cases configChange e.2 <;> simp [config,Except.map]
  · rename_i other
    split <;> simp [other]

theorem overlayAllFails {base : Object × Object} {changes : Object} {m : Misuse} :
    overlayAll base changes = .error m ↔ ∃ e ∈ changes, e.1 = "config" ∧ configChange e.2 = .error m := by
  induction changes generalizing base with
  | nil => simp [overlayAll]
  | cons e rest ih =>
    have here : overlay base e.1 e.2 = .error m ↔ _ := overlayFails
    simp only [overlayAll,List.mem_cons,or_and_right,exists_or,exists_eq_left,← here]
    cases step : overlay base e.1 e.2 with
    | ok next => simp [ih]
    | error first =>
      -- There is but one way to fail, so the first failure is the failure.
      have only := (configChangeFails.mp (overlayFails.mp step).2).1
      simp only [Except.error.injEq]
      constructor
      · exact .inl
      · rintro (same | ⟨_,-,-,other⟩)
        · exact same
        · exact only.trans (configChangeFails.mp other).1.symm

theorem changedFails {f : Field} {changes : Object} {m : Misuse} :
    changed f changes = .error m ↔ ∃ v, asked changes "config" = some v ∧ configChange v = .error m := by
  have fails : changed f changes = .error m ↔
      overlayAll (f.entries .plain,f.config .plain) (changes.renameKeys Text.underscored) = .error m := by
    unfold changed
    cases overlayAll (f.entries .plain,f.config .plain) (changes.renameKeys Text.underscored) <;> simp [Except.map]
  rw [fails,overlayAllFails]
  constructor
  · rintro ⟨⟨_,v⟩,member,rfl,refused⟩
    exact ⟨v,(askedRenamed _ _).symm.trans (Object.valueMember (Object.renamedDistinct _ _) member),refused⟩
  · rintro ⟨v,given,refused⟩
    exact ⟨_,Object.valueFound ((askedRenamed _ _).trans given),rfl,refused⟩

structure Laid (changes : Object) (f : Field) (raw config : Object) : Prop where
  attributes : ∀ name, name ≠ "config" → isFlat name = false →
    raw.value? name = (asked changes name).or ((f.entries .plain).value? name)
  inside : raw.value? "config" = some (.object config)
  folded : ∀ name, isFlat name = true → raw.value? name = none
  settings : ∀ name, config.value? name = ((settingsAsked changes).value? name).or ((f.config .plain).value? name)

theorem flatForeign (f : Field) {name : String} (flat : isFlat name = true) : (f.entries .plain).value? name = none := by
  refine plainForeign fun a member => ?_
  have own : isFlat a.1.snake = false := by
    have all : ∀ k ∈ [Key.id,.persistedId,.label,.order,.config,.type], isFlat k.snake = false := by decide
    refine all a.1 ?_
    have declared := List.mem_map_of_mem (f := Prod.fst) member
    exact declared
  rintro rfl
  rw [flat] at own
  contradiction

theorem changedLaid {f : Field} {changes : Object} {v : Value} (ok : changed f changes = .ok v) :
    ∃ raw config : Object, v = .object raw ∧ Laid changes f raw config := by
  obtain ⟨raw,rfl,attributes⟩ := changedHeld ok
  unfold changed at ok
  obtain ⟨base,laid,same⟩ := Checked.mapOk.mp ok
  obtain rfl := Value.object.inj same
  refine ⟨_,base.2,rfl,attributes,?_,fun name flat => ?_,fun name => ?_⟩
  · rw [Object.valuePut,if_pos rfl]
  · have other : "config" ≠ name := by
      rintro rfl
      revert flat
      decide
    rw [Object.valuePut,if_neg other,overlayAllKeeps laid (.inr flat),flatForeign f flat]
  · rw [overlayAllSettings laid,settingsAsked,Object.ofEntries,Object.valueOverlay,Object.valueNil,Option.or_none]

def settings (f : Field) : List (Key × Value) := f.common.attributes .plain ++ f.kind.attributes

theorem settingsDeclared (f : Field) : ∀ a ∈ f.settings, a.1 ∈ settingKeys := by
  have all : ∀ k ∈ f.settings.map Prod.fst, k ∈ settingKeys := by
    unfold settings
    cases f.kind <;> simp [Common.attributes,Kind.attributes,settingKeys]
  exact fun a member => all a.1 (List.mem_map_of_mem member)

theorem settingsOnce (f : Field) : (f.settings.map (fun a => a.1.snake)).Nodup := by
  unfold settings
  cases f.kind <;> simp [Common.attributes,Kind.attributes,Key.required,Key.placeholder,Key.condition,Key.options,
    Key.min,Key.max,Key.maxRating,Key.rows,Key.columns,Key.imageUrls,Key.helpText,Key.fileTypes,Key.maxFileSize]

def Spelled (o : Object) : Prop := ∀ e ∈ o, ∃ name, e.1 = Text.underscored name

theorem renamedSpelled (o : Object) : Spelled (o.renameKeys Text.underscored) := fun e member =>
  let ⟨d,_,same⟩ := Object.renamedNames _ o e member
  ⟨d.1,same⟩

theorem settingsSpelled (changes : Object) : Spelled (settingsAsked changes) := by
  refine Object.overlayNames (p := fun key => ∃ name, key = Text.underscored name) (List.forall_mem_nil _) ?_
  intro e member
  obtain ⟨given,among,member⟩ := List.mem_flatMap.mp member
  unfold settingsIn at member
  split at member
  · split at member
    · exact renamedSpelled _ e member
    · contradiction
  · split at member
    · rw [List.mem_singleton.mp member]
      exact renamedSpelled _ given among
    · contradiction

theorem settingsLaid {changes : Object} {f : Field} {raw config : Object} (laid : Laid changes f raw config) :
    LaidOver (settingsAsked changes).value? f.settings config := by
  have plain : f.config .plain = Spelling.plain.entries f.settings := rfl
  have capital : ∀ k ∈ settingKeys, k.camel ≠ k.snake → k.camel.toList.any Text.isUpperAscii = true := by decide +kernel
  have foreign : ∀ k ∈ settingKeys, k.camel ≠ k.snake → ∀ l ∈ settingKeys, l.snake ≠ k.camel := by decide +kernel
  intro a member
  have declared := settingsDeclared f a member
  refine ⟨?_,fun differs => ?_⟩
  · rw [laid.settings,plain,plainHeld (settingsOnce f) a member]
    cases (settingsAsked changes).value? a.1.snake <;> rfl
  · have unasked : (settingsAsked changes).value? a.1.camel = none := by
      refine (Object.valueNone _ _).mpr fun e among => ?_
      obtain ⟨name,same⟩ := settingsSpelled changes e among
      exact same ▸ Text.underscoredAvoids (capital _ declared differs) name
    rw [laid.settings,unasked,Option.none_or,plain]
    exact plainForeign fun b among => foreign _ declared differs _ (settingsDeclared f b among)

theorem attributesLaid {changes : Object} {f : Field} {raw config : Object} (laid : Laid changes f raw config) :
    LaidOver (asked changes) [(.id,.str f.id),(.label,.str f.label),(.order,.ofNat f.order)] raw := by
  have held (name : String) (plain : name ≠ "config") (own : isFlat name = false) {v : Value}
      (written : (f.entries .plain).value? name = some v) : raw.value? name = some ((asked changes name).getD v) := by
    rw [laid.attributes name plain own,written]
    cases asked changes name <;> rfl
  simp only [LaidOver,List.forall_mem_cons,List.not_mem_nil,false_implies,implies_true,and_true]
  refine ⟨⟨held _ (by decide) (by decide) ?_,fun differs => absurd rfl differs⟩,
    ⟨held _ (by decide) (by decide) ?_,fun differs => absurd rfl differs⟩,
    held _ (by decide) (by decide) ?_,fun differs => absurd rfl differs⟩
  all_goals simp [entries,valuePlain,Key.id,Key.persistedId,Key.label,Key.order]

theorem applyTurned {f : Field} {changes : Object} (named : f.Named) (spares : Spares changes "type")
    (names : ∀ v, asked changes "config" = some v → v.isVoid = true ∨ ∃ o, v = .object o) :
    apply f changes = .ok (Checked.under (.name f.type.name)
      (f.turned (asked changes) (settingsAsked changes).value?)) := by
  unfold apply
  cases change : changed f changes with
  | error misuse =>
    obtain ⟨v,given,refused⟩ := changedFails.mp change
    obtain ⟨-,some,nameless⟩ := configChangeFails.mp refused
    rcases names v given with void | ⟨o,same⟩
    · rw [void] at some
      contradiction
    · exact absurd same (nameless o)
  | ok v =>
    obtain ⟨raw,config,rfl,laid⟩ := changedLaid change
    have type : raw.value? "type" = some (.str f.type.name) := by
      rw [laid.attributes _ (by decide) (by decide),askedNone.mpr spares]
      simp [entries,valuePlain,Key.id,Key.persistedId,Key.label,Key.order,Key.config,Key.type]
    have tag : tagged (.object raw) = .ok (f.type,raw) := taggedKnown type
    have unfolded : foldFlat raw = raw := by
      have none : raw.filter (fun e => isFlat e.1) = [] := List.filter_eq_nil_iff.mpr fun e member flat =>
        (Object.valueNone _ _).mp (laid.folded e.1 flat) e member rfl
      simp [foldFlat,none]
    have text (s : String) : Scalar.text (.str s) = .ok s := rfl
    have attributes := attributesLaid laid
    have id := attributes.turned (.head _) (text f.id) f.id
    have label := attributes.turned (.tail _ (.head _)) (text f.label) ""
    have order := attributes.turned (.tail _ (.tail _ (.head _))) (Scalar.readNat f.order) 0
    have settings := settingsLaid laid
    have common : Common.read config = f.common.turned (settingsAsked changes).value? :=
      Common.readTurned named fun a member => settings a (List.mem_append_left _ member)
    have kind : Kind.read config f.type = f.kind.turned (settingsAsked changes).value? :=
      Kind.readTurned fun a member => settings a (List.mem_append_right _ member)
    have inside : settingsOf f.type raw = Checked.under (.name "config")
        (.both Prod.mk (f.common.turned (settingsAsked changes).value?)
          (f.kind.turned (settingsAsked changes).value?)) := by
      simp only [settingsOf,laid.inside,readSettings,common,kind]
    have persisted : raw.readAt persistedIdNames none (Scalar.optional Scalar.text) =
        turn "persisted_id" (Scalar.optional Scalar.text) (asked changes "persisted_id") f.persistedId := by
      simp only [Object.readAt,persistedGiven laid.attributes]
      cases asked changes "persisted_id" with
      | none =>
        cases f.persistedId <;> rfl
      | some v => rfl
    simp only [Except.map,read,tag,ofObject,unfolded,id,label,order,persisted,inside]
    rfl

end Field
end FormBuilder
