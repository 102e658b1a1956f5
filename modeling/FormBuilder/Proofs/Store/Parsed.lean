import FormBuilder.Proofs.Store.KeptSettings
/-! Fields that were read from data, with no number in them that is not finite, lose nothing in their rows:
they come back as they were put away, but for the row they now come from. -/
namespace FormBuilder

def Kind.finite : Kind → Bool
  | .number least most => least.all Double.isFinite && most.all Double.isFinite
  | _ => true

namespace Field

def finite (f : Field) : Bool := f.condition.all (·.value.finite) && f.kind.finite

def Parsed (f : Field) : Prop := ∃ fresh v, read fresh v = .ok f

def Named (f : Field) : Prop := ∀ c, f.condition = some c → Operator.ofName c.operator.name = c.operator

end Field

theorem Operator.nameOfName (s : String) : (ofName s).name = s := by
  unfold ofName
  cases found : known.find? (fun o => o.name == s) with
  | none => rfl
  | some o => simpa using List.find?_some found

theorem Operator.readNamed {v : Value} {o : Operator} (ok : read v = .ok o) : ofName o.name = o := by
  cases v with
  | str s =>
    cases ok
    rw [nameOfName]
  | _ => contradiction

theorem Condition.readNamed {v : Value} {c : Condition} (ok : read v = .ok c) :
    Operator.ofName c.operator.name = c.operator := by
  cases v with
  | object o =>
    simp only [read,ofObject,Checked.partOk,Checked.mapOk] at ok
    obtain ⟨_,_,⟨_,operator,⟨_,-,rfl⟩,own,rfl⟩,-,rfl⟩ := ok
    rcases Object.readAtOk own with rfl | ⟨v,given⟩
    · show Operator.ofName Operator.equals.name = .equals
      decide
    · exact Operator.readNamed given
  | _ => contradiction

theorem Scalar.optionalSome {read : Value → Checked α} {v : Value} {a : α} (ok : optional read v = .ok (some a)) :
    read v = .ok a := by
  cases v with
  | null => simp [optional] at ok
  | _ =>
    simp only [optional,Checked.mapOk] at ok
    obtain ⟨b,reads,same⟩ := ok
    exact Option.some.inj same ▸ reads

theorem Common.readCondition {config : Object} {common : Common} (ok : read config = .ok common) :
    ∀ c, common.condition = some c → ∃ v, Condition.read v = .ok c := by
  simp only [read,Checked.partOk,Checked.mapOk] at ok
  obtain ⟨_,condition,⟨_,_,⟨_,-,rfl⟩,-,rfl⟩,given,rfl⟩ := ok
  rintro c rfl
  rcases Object.readAtOk given with absent | ⟨v,reads⟩
  · contradiction
  · exact ⟨v,Scalar.optionalSome reads⟩

theorem Field.readCommon {fresh : String} {v : Value} {f : Field} (ok : read fresh v = .ok f) :
    ∃ config, Common.read config = .ok f.common := by
  obtain ⟨t,raw,-,parts⟩ := readParts ok
  have given := parts.settings
  have inside : ∃ v, readSettings t v = .ok (f.common,f.kind) := by
    unfold settingsOf at given
    split at given
    · exact ⟨_,given⟩
    · exact ⟨_,Checked.underOk.mp given⟩
  obtain ⟨v,reads⟩ := inside
  cases v with
  | object config =>
    obtain ⟨common,kind,own,-,same⟩ := Checked.bothOk.mp reads
    exact ⟨config,(Prod.mk.inj same).1 ▸ own⟩
  | _ => contradiction

theorem Field.parsedNamed {f : Field} (parsed : f.Parsed) : f.Named := by
  obtain ⟨fresh,v,ok⟩ := parsed
  obtain ⟨config,common⟩ := readCommon ok
  intro c some
  obtain ⟨w,reads⟩ := Common.readCondition common c some
  exact Condition.readNamed reads

theorem Field.keptSame {f : Field} (named : f.Named) (finite : f.finite = true) (row : Int) :
    f.kept row = { f with persistedId := some (toString row) } := by
  rw [Field.finite,Bool.and_eq_true] at finite
  obtain ⟨settled,-⟩ := finite
  have condition : f.common.condition.map Condition.kept = f.common.condition := by
    cases own : f.common.condition with
    | none => rfl
    | some c =>
      rw [Field.condition,own,Option.all_some] at settled
      rw [Option.map_some,Condition.kept,Condition.named,Condition.dumped,named c own,Value.finiteDumped settled]
  rw [kept,condition]

theorem Condition.keptAgain (c : Condition) : c.kept.kept = c.kept := by
  simp only [kept,named,dumped,Operator.nameOfName,Value.dumpedAgain]

theorem Field.keptAgain (f : Field) (row other : Int) : (f.kept row).kept other = f.kept other := by
  have condition : (f.common.condition.map Condition.kept).map Condition.kept = f.common.condition.map Condition.kept := by
    rw [Option.map_map]
    exact congrArg (Option.map · f.common.condition) (funext Condition.keptAgain)
  simp only [kept,condition]

theorem wireFinite (among : List (Key × Value)) :
    Value.finiteEntries (Spelling.wire.entries among) = among.all (fun a => a.2.finite) := by
  induction among with
  | nil => rfl
  | cons a rest ih =>
    obtain ⟨k,v⟩ := a
    cases v <;> simp [Spelling.entries,Value.finiteEntries,Value.finite,← ih]

theorem Condition.dumpedFinite (c : Condition) : (c.dumped.write .wire).finite = true := by
  rw [write,Value.finite,wireFinite]
  simp [attributes,dumped,Value.finite,Value.dumpedFinite]

theorem Kind.attributesFinite (k : Kind) : k.attributes.all (fun a => a.2.finite) = k.finite := by
  have texts (t : Option String) : (Value.ofOption Value.str t).finite = true := by cases t <;> rfl
  have size (n : Nat) : (Value.ofNat n).finite = true := rfl
  have sizes (n : Option Nat) : (Value.ofOption Value.ofNat n).finite = true := by cases n <;> rfl
  have bounds (x : Option Double) : (Value.ofOption Value.float x).finite = x.all Double.isFinite := by cases x <;> rfl
  cases k <;> simp [attributes,finite,texts,size,sizes,bounds]

theorem Field.storableExact (f : Field) : f.storable = f.kind.finite := by
  have text (t : Option String) : (Value.ofOption Value.str t).finite = true := by cases t <;> rfl
  have condition : (Value.ofOption (Condition.write .wire) f.dumped.common.condition).finite = true := by
    rw [dumped]
    cases f.common.condition with
    | none => rfl
    | some c => exact c.dumpedFinite
  rw [storable,config,wireFinite,List.all_append]
  have kind : f.dumped.kind.attributes.all (fun a => a.2.finite) = f.kind.finite := f.kind.attributesFinite
  rw [kind]
  simp [Common.attributes,text,Value.finite,condition]

theorem Field.finiteStorable {f : Field} (finite : f.finite = true) : f.storable = true := by
  rw [Field.finite,Bool.and_eq_true] at finite
  rw [storableExact,finite.2]

end FormBuilder
