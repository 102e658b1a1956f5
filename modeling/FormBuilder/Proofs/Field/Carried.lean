import FormBuilder.Field.Wire
import FormBuilder.Proofs.Field.Parts
/-! Fields read from what they wrote of themselves, wherever it has come to stand. -/
namespace FormBuilder

@[simp]
theorem presentBool (b : Bool) : (Value.bool b).present = some (.bool b) := rfl

@[simp]
theorem presentStr (s : String) : (Value.str s).present = some (.str s) := rfl

@[simp]
theorem presentTexts (items : List String) : (Value.texts items).present = some (.texts items) := rfl

@[simp]
theorem presentFloat (x : Double) : (Value.float x).present = some (.float x) := rfl

@[simp]
theorem presentNat (n : Nat) : (Value.ofNat n).present = some (.ofNat n) := rfl

theorem presentOption (put : α → Value) (notNull : ∀ a, (put a).present = some (put a)) (given : Option α) :
    (Value.ofOption put given).present = given.map put := by
  cases given with
  | none => rfl
  | some a => simp [Value.ofOption,notNull]

theorem readTexts (start : Nat) (items : List String) :
    Checked.each Scalar.text start (items.map .str) = .ok items := by
  induction items generalizing start with
  | nil => rfl
  | cons s rest ih =>
    simp only [List.map_cons,Checked.each,ih]
    rfl

theorem readScale (scale : Scale) : Scale.read (.ofNat scale.top) = .ok scale := by
  have positive : (0 : Int) < scale.top := Int.natCast_pos.mpr scale.positive
  simp only [Scale.read,Value.ofNat,Scalar.int,dif_pos positive]
  rfl

def Condition.named (c : Condition) : Condition := { c with operator := .ofName c.operator.name }

def Kind.CarriedTo (k : Kind) (config : Object) : Prop :=
  ∀ name, name ∉ ["required","placeholder","condition"] →
    config.value? name = (Spelling.wire.entries k.attributes).value? name

structure Field.CarriedTo (f : Field) (config : Object) : Prop where
  required : config.value? Key.required.camel = some (.bool f.required)
  placeholder : config.value? Key.placeholder.camel = f.common.placeholder.map .str
  condition : config.value? Key.condition.camel = f.condition.map (Condition.write .wire)
  kind : f.kind.CarriedTo config

theorem readOptional {o : Object} {k : Key} {given : Option α} {put : α → Value} {read : Value → Checked β}
    {keep : α → β} (camel : o.value? k.camel = given.map put) (snake : given = none → o.value? k.snake = none)
    (reads : ∀ a, Scalar.optional read (put a) = .ok (some (keep a))) :
    o.readAt k.names none (Scalar.optional read) = .ok (given.map keep) := by
  cases given with
  | none => exact Object.readAtNone (Object.givenNone camel (snake rfl)) _ _
  | some a => exact Object.readAtGiven (Object.givenCamel camel) (reads a) _

theorem readTextsAt {o : Object} {k : Key} {items : List String} (camel : o.value? k.camel = some (.texts items)) :
    o.readAt k.names [] Scalar.texts = .ok items := Object.readAtGiven (Object.givenCamel camel) (readTexts 0 items) _

theorem conditionCarried (c : Condition) : Condition.read (c.write .wire) = .ok c.named := by
  let o : Object := Spelling.wire.entries c.attributes
  have target : o.value? "targetFieldId" = some (.str c.target) := by
    simp [o,Condition.attributes,valueWire,Key.target]
  have operator : o.value? "operator" = some (.str c.operator.name) := by
    simp [o,Condition.attributes,valueWire,Key.target,Key.operator]
  have value : o.value? "value" = c.value.present := by
    simp [o,Condition.attributes,valueWire,Key.target,Key.operator,Key.value]
  have readValue : o.readAt Key.value.names .null .ok = .ok c.value := by
    rcases presentCases c.value with ⟨absent,null⟩ | present
    · rw [absent] at value
      rw [Object.readAtNone (Object.givenNone value value),null]
    · rw [present] at value
      exact Object.readAtGiven (Object.givenCamel value) rfl _
  have given : o.given? Condition.targetNames = some ("targetFieldId",.str c.target) := by
    simp [Condition.targetNames,Object.given?,target]
  have text : Scalar.text (.str c.target) = .ok c.target := rfl
  have name : Operator.read (.str c.operator.name) = .ok (.ofName c.operator.name) := rfl
  have readTarget : o.readAt Condition.targetNames "" Scalar.text = .ok c.target :=
    Object.readAtGiven given text _
  have readOperator : o.readAt Key.operator.names .equals Operator.read = .ok (.ofName c.operator.name) :=
    Object.readAtGiven (Object.givenCamel operator) name _
  show Condition.ofObject o = _
  simp only [Condition.ofObject,readTarget,readOperator,readValue]
  rfl

theorem sizeCarried (size : Nat) : Scalar.optional Scalar.nat (.ofNat size) = .ok (some size) :=
  congrArg (Except.map some) (Scalar.readNat size)

theorem textCarried (s : String) : Scalar.optional Scalar.text (.str s) = .ok (some s) := rfl

theorem boundCarried (x : Double) : Scalar.optional Scalar.double (.float x) = .ok (some x) := rfl

theorem kindCarried {config : Object} {kind : Kind} (held : kind.CarriedTo config) :
    Kind.read config kind.type = .ok kind := by
  cases kind with
  | text | email | phone | url | date | signature | pageBreak | divider => rfl
  | longtext help =>
    have camel : config.value? Key.helpText.camel = help.map .str :=
      (held _ (by decide)).trans (by simp [Kind.attributes,valueWire,presentOption _ presentStr])
    have snake : config.value? Key.helpText.snake = none :=
      (held _ (by decide)).trans (by simp [Kind.attributes,valueWire,Key.helpText])
    simp only [Kind.read,Kind.type,readOptional camel (fun _ => snake) textCarried]
    simp [Except.map]
  | number least most =>
    have leastHeld : config.value? Key.min.camel = least.map .float :=
      (held _ (by decide)).trans (by simp [Kind.attributes,valueWire,presentOption _ presentFloat,Key.min,Key.max])
    have mostHeld : config.value? Key.max.camel = most.map .float :=
      (held _ (by decide)).trans (by simp [Kind.attributes,valueWire,presentOption _ presentFloat,Key.min,Key.max])
    simp only [Kind.read,Kind.type,
      readOptional leastHeld (fun none => leastHeld.trans (by simp [none])) boundCarried,
      readOptional mostHeld (fun none => mostHeld.trans (by simp [none])) boundCarried]
    simp [Checked.both]
  | checkbox options | radio options | dropdown options | ranking options =>
    have texts : config.value? Key.options.camel = some (.texts options) :=
      (held _ (by decide)).trans (by simp [Kind.attributes,valueWire])
    simp only [Kind.read,Kind.optionList,Kind.type,readTextsAt texts]
    rfl
  | rating scale =>
    have top : config.value? Key.maxRating.camel = some (.ofNat scale.top) :=
      (held _ (by decide)).trans (by simp [Kind.attributes,valueWire])
    have reads := Object.readAtGiven (Object.givenCamel top) (readScale scale) Scale.default
    simp only [Kind.read,Kind.type,reads]
    rfl
  | file types maxSize =>
    have typesHeld : config.value? Key.fileTypes.camel = some (.texts types) :=
      (held _ (by decide)).trans (by simp [Kind.attributes,valueWire])
    have sizeHeld : config.value? Key.maxFileSize.camel = maxSize.map .ofNat :=
      (held _ (by decide)).trans
        (by simp [Kind.attributes,valueWire,presentOption _ presentNat,Key.fileTypes,Key.maxFileSize])
    have snake : config.value? Key.maxFileSize.snake = none :=
      (held _ (by decide)).trans (by simp [Kind.attributes,valueWire,Key.fileTypes,Key.maxFileSize])
    simp only [Kind.read,Kind.type,readTextsAt typesHeld,readOptional sizeHeld (fun _ => snake) sizeCarried]
    simp [Checked.both]
  | matrix rows columns =>
    have rowsHeld : config.value? Key.rows.camel = some (.texts rows) :=
      (held _ (by decide)).trans (by simp [Kind.attributes,valueWire])
    have columnsHeld : config.value? Key.columns.camel = some (.texts columns) :=
      (held _ (by decide)).trans (by simp [Kind.attributes,valueWire,Key.rows,Key.columns])
    simp only [Kind.read,Kind.type,readTextsAt rowsHeld,readTextsAt columnsHeld]
    rfl
  | pictureChoice options images =>
    have optionsHeld : config.value? Key.options.camel = some (.texts options) :=
      (held _ (by decide)).trans (by simp [Kind.attributes,valueWire])
    have imagesHeld : config.value? Key.imageUrls.camel = some (.texts images) :=
      (held _ (by decide)).trans (by simp [Kind.attributes,valueWire,Key.options,Key.imageUrls])
    simp only [Kind.read,Kind.optionList,Kind.type,readTextsAt optionsHeld,readTextsAt imagesHeld]
    rfl

theorem commonCarried {config : Object} {f : Field} (held : f.CarriedTo config) :
    Common.read config = .ok { f.common with condition := f.condition.map Condition.named } := by
  have flag : Common.readRequired (.bool f.required) = .ok f.required := rfl
  have test (c : Condition) : Scalar.optional Condition.read (c.write .wire) = .ok (some c.named) :=
    congrArg (Except.map some) (conditionCarried c)
  have required := Object.readAtGiven (Object.givenCamel held.required) flag false
  have placeholder := readOptional held.placeholder (fun none => held.placeholder.trans (by simp [none])) textCarried
  have condition := readOptional held.condition (fun none => held.condition.trans (by simp [none])) test
  simp only [Common.read,required,placeholder,condition]
  simp [Checked.part,Checked.both,Except.map,Field.required]

theorem settingsCarried {config : Object} {f : Field} (held : f.CarriedTo config) {raw : Object}
    (given : raw.value? Key.config.camel = some (.object config)) : Field.settingsOf f.type raw =
      .ok ({ f.common with condition := f.condition.map Condition.named },f.kind) := by
  have kind : Kind.read config f.type = .ok f.kind := kindCarried held.kind
  have given : raw.value? "config" = some (.object config) := given
  simp only [Field.settingsOf,given,Field.readSettings,commonCarried held,kind]
  rfl

theorem kindKeepsOut (kind : Kind) : ∀ name ∈ ["required","placeholder","condition"],
    (Spelling.wire.entries kind.attributes).value? name = none := by
  cases kind <;> simp [Kind.attributes,valueWire,Key.helpText,Key.min,Key.max,Key.options,Key.maxRating,
    Key.fileTypes,Key.maxFileSize,Key.rows,Key.columns,Key.imageUrls]

theorem fieldConfig (f : Field) (name : String) :
    (f.config .wire).value? name =
      if name = "required" then some (.bool f.required)
      else if name = "placeholder" then f.common.placeholder.map .str
      else if name = "condition" then f.condition.map (Condition.write .wire)
      else (Spelling.wire.entries f.kind.attributes).value? name := by
  have apart := kindKeepsOut f.kind
  simp only [List.forall_mem_cons] at apart
  obtain ⟨-,placeholder,condition,-⟩ := apart
  simp only [Field.config,Common.attributes,List.cons_append,List.nil_append,valueWire,presentBool,
    presentOption _ presentStr,presentOption (Condition.write .wire) (fun _ => rfl),
    Key.required,Key.placeholder,Key.condition,Option.some_or,@eq_comm _ _ name]
  split
  · rfl
  · split
    · rename_i same
      simp [same,placeholder]
    · split
      · rename_i same
        rw [same,condition,Option.or_none]
        rfl
      · rfl

end FormBuilder
