import FormBuilder.Proofs.Sanitize.Neat
import FormBuilder.Proofs.Service.Loaded
import FormBuilder.Proofs.Wire
/-! Lists of fields as the service prepares them, whatever reads the markup in their texts: when a list is turned
down, what becomes of one that is not, and that a prepared list is not changed by preparing it again. -/
namespace FormBuilder
open Sanitize (Neat cleanWith cleanOptionalWith)

namespace Kind

def help? : Kind → Option String
  | longtext help => help
  | _ => none

def withoutHelp : Kind → Kind
  | longtext _ => longtext none
  | k => k

end Kind

/-! ### With any reader of markup -/

namespace Field

def cleanKindWith (reader : String → Option String) : Kind → Kind
  | .longtext help => .longtext (cleanOptionalWith reader help)
  | k => k

def cleanedWith (reader : String → Option String) (f : Field) : Field :=
  { f with
    label := cleanWith reader f.label
    common := { f.common with placeholder := cleanOptionalWith reader f.common.placeholder }
    kind := cleanKindWith reader f.kind }

def arrangeWith (reader : String → Option String) (fields : List Field) : Except ListFault (List Field) :=
  if distinctIds fields then .ok (renumber ((sorted fields).map (cleanedWith reader))) else .error .repeatedId

def prepareWith (reader : String → Option String) (items : List Value) (m : Mint) :
    Except ListFault (List Field) × Mint :=
  match parseAll items m with
  | (.error faults,m) => (.error (.malformed faults),m)
  | (.ok fields,m) => (arrangeWith reader fields,m)

theorem cleanedRead : cleanedWith Sanitize.read = cleaned := by
  funext f
  have kind : cleanKindWith Sanitize.read f.kind = cleanKind f.kind := by cases f.kind <;> rfl
  rw [cleanedWith,kind]
  rfl

theorem arrangeRead : arrangeWith Sanitize.read = arrange := by
  funext fields
  rw [arrangeWith,cleanedRead,arrange]

theorem prepareRead : prepareWith Sanitize.read = prepare := by
  funext items m
  simp only [prepareWith,arrangeRead]
  rfl

end Field

def Service.prepareWith (reader : String → Option String) (source : FieldSource) (m : Mint) :
    Except ServiceFault (List Field) × Mint :=
  match source with
  | .ready fields => ((Field.arrangeWith reader fields).mapError (fun e => .input (.badFields e)),m)
  | .raw items =>
    match items.parts with
    | .error misuse => (.error (.misuse misuse),m)
    | .ok items =>
      let (prepared,m) := Field.prepareWith reader items m
      (prepared.mapError (fun e => .input (.badFields e)),m)

namespace Field

structure Neatened (reader : String → Option String) (f g : Field) : Prop where
  id : g.id = f.id
  row : g.persistedId = f.persistedId
  type : g.type = f.type
  required : g.required = f.required
  condition : g.condition = f.condition
  settings : g.kind.withoutHelp = f.kind.withoutHelp
  label : g.label = cleanWith reader f.label
  placeholder : g.common.placeholder = cleanOptionalWith reader f.common.placeholder
  help : g.kind.help? = cleanOptionalWith reader f.kind.help?
  neatLabel : Neat g.label
  neatPlaceholder : ∀ s, g.common.placeholder = some s → Neat s ∧ s ≠ ""
  neatHelp : ∀ s, g.kind.help? = some s → Neat s ∧ s ≠ ""

theorem cleanKindKeeps (reader : String → Option String) (k : Kind) :
    (cleanKindWith reader k).type = k.type ∧ (cleanKindWith reader k).withoutHelp = k.withoutHelp ∧
      (cleanKindWith reader k).help? = cleanOptionalWith reader k.help? := by
  cases k <;> exact ⟨rfl,rfl,rfl⟩

theorem cleanedNeatened (reader : String → Option String) (f : Field) (order : Nat) :
    Neatened reader f { cleanedWith reader f with order } := by
  obtain ⟨type,settings,help⟩ := cleanKindKeeps reader f.kind
  refine ⟨?_,?_,type,?_,?_,settings,?_,?_,help,Sanitize.cleanWithNeat reader f.label,
    fun _ left => Sanitize.cleanOptionalNeat reader left,
    fun _ left => Sanitize.cleanOptionalNeat reader (help.symm.trans left)⟩ <;>
    simp only [cleanedWith,required,condition]

theorem Neatened.again {reader : String → Option String} {f g : Field} (neatened : Neatened reader f g) :
    cleanedWith reader g = g := by
  have kind : cleanKindWith reader g.kind = g.kind := by
    have help := Sanitize.cleanOptionalSame reader neatened.neatHelp
    cases own : g.kind with
    | longtext text =>
      rw [own] at help
      exact congrArg Kind.longtext help
    | _ => rfl
  rw [cleanedWith,neatened.neatLabel.same reader,Sanitize.cleanOptionalSame reader neatened.neatPlaceholder,kind]

theorem Neatened.named {reader : String → Option String} {f g : Field} (neatened : Neatened reader f g)
    (named : f.Named) : g.Named := fun c own => named c (neatened.condition ▸ own)

end Field

namespace Service

end Service
end FormBuilder
