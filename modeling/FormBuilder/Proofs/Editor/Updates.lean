import Mathlib.Data.List.Find
import FormBuilder.Proofs.Editor.Guarded
import FormBuilder.Proofs.Field.Merged
import FormBuilder.Proofs.Wire
/-! How an update of a field ends. It puts a valid field in its place, or it leaves everything as it was; and it fails
only where the settings of a field that is there are given by something that has no names. -/
namespace FormBuilder.Editor

def Nameless (changes : Object) : Prop :=
  ∃ v, Field.asked changes "config" = some v ∧ v.isVoid = false ∧ ∀ o, v ≠ .object o

theorem askedSlipped (changes : Object) {name : String} (free : ∀ key ∈ protectedKeys, Text.underscored key ≠ name) :
    Field.asked (slipped changes) name = Field.asked changes name := by
  have backwards : (slipped changes).reverse = changes.reverse.filter (fun c => !protectedKeys.contains c.1) :=
    List.filter_reverse.symm
  rw [Field.asked,Field.asked,backwards,List.find?_filter]
  refine congrArg (Option.map Prod.snd) (List.find?_congr fun c _ => ?_)
  by_cases same : Text.underscored c.1 = name
  · have out : c.1 ∉ protectedKeys := fun inside => free c.1 inside same
    simp [same,out]
  · simp [same]

theorem configFree : ∀ key ∈ protectedKeys, Text.underscored key ≠ "config" := by
  have respelled : ∀ key ∈ protectedKeys, (Text.splitWords none key.toList).all (·.toNat < 128) = true ∧
      String.ofList ((Text.splitWords none key.toList).map Text.lowerAscii) ≠ "config" := by decide +kernel
  intro key protect
  obtain ⟨ascii,other⟩ := respelled key protect
  rwa [Text.underscoredAscii ascii]

theorem applyFails {f : Field} {changes : Object} {m : Misuse} :
    f.apply changes = .error m ↔ m = .noNames ∧ Nameless changes := by
  have fails : f.apply changes = .error m ↔ f.changed changes = .error m := by
    unfold Field.apply
    cases f.changed changes <;> simp [Except.map]
  simp only [fails,Field.changedFails,Field.configChangeFails,Nameless]
  constructor
  · rintro ⟨v,given,same,some,nameless⟩
    exact ⟨same,v,given,some,nameless⟩
  · rintro ⟨same,v,given,some,nameless⟩
    exact ⟨v,given,same,some,nameless⟩

theorem slippedFails {f : Field} {changes : Object} {m : Misuse} :
    f.apply (slipped changes) = .error m ↔ m = .noNames ∧ Nameless changes := by
  rw [applyFails,Nameless,askedSlipped changes configFree]
  rfl

theorem indexNone {e : Editor} {id : String} : e.indexOf? id = none ↔ ∀ f ∈ e.fields, f.id ≠ id := by
  simp [indexOf?,List.findIdx?_eq_none_iff]

/-- An update fails exactly if the field is there and its settings are given by something that has no names, and then
nothing has changed. Otherwise it replies nothing, and nothing has changed, or it replies a valid field, which now
stands in the place of the one that was updated, and there is something to save. -/
theorem updateEnds (e : Editor) (id : String) (changes : Object) (m : Mint) :
    let o := e.update id (.object changes) m
    ((∃ fault, o.reply = .error fault) ↔ (∃ f ∈ e.fields, f.id = id) ∧ Nameless changes) ∧
    match o.reply with
    | .error fault => fault = .misuse .noNames ∧ o.editor = e
    | .ok .nothing => o.editor = e
    | .ok (.field g) => (∀ n, Field.parse g.toWire n = (.ok g,n)) ∧ ∃ i, e.indexOf? id = some i ∧
        o.editor.fields[i]? = some g ∧
        o.editor = { e with fields := e.fields.set i g, dirty := true, revision := e.revision + 1 }
    | _ => False := by
  intro o
  cases index : e.indexOf? id with
  | none =>
    have missing : o = .silent e m .nothing := by simp only [o,update,index]
    rw [missing]
    refine ⟨?_,rfl⟩
    simpa [Outcome.silent] using fun f member own => absurd own (indexNone.mp index f member)
  | some i =>
    obtain ⟨f,there,own,found⟩ := indexFound index
    have known : ∃ f ∈ e.fields, f.id = id := ⟨f,List.mem_of_getElem? there,own⟩
    have through : (permitted (.object changes)).bind f.apply = f.apply (slipped changes) := rfl
    cases applied : f.apply (slipped changes) with
    | error misuse =>
      have failed : o = .failed e m (.misuse misuse) := by simp only [o,update,index,found,through,applied]
      obtain ⟨same,nameless⟩ := slippedFails.mp applied
      rw [failed,same]
      exact ⟨⟨fun _ => ⟨known,nameless⟩,fun _ => ⟨_,rfl⟩⟩,rfl,rfl⟩
    | ok outcome =>
      have unnamed : ¬ Nameless changes := fun nameless => by
        rw [slippedFails.mpr ⟨rfl,nameless⟩] at applied
        contradiction
      cases outcome with
      | error faults =>
        have dropped : o = ⟨e,m,.ok .nothing,[rejectedUpdate id faults]⟩ := by
          simp only [o,update,index,found,through,applied]
        rw [dropped]
        exact ⟨by simp [unnamed],rfl⟩
      | ok g =>
        have changed : o = .silent ({ e with fields := e.fields.set i g }.touch) m (.field g) := by
          simp only [o,update,index,found,through,applied]
        rw [changed]
        refine ⟨by simp [unnamed,Outcome.silent],fun n => ?_,i,rfl,?_,rfl⟩
        · exact fieldParsesBack (Field.parsedNamed (Field.applyParsed applied)) n
        · exact List.getElem?_set_self (List.getElem?_eq_some_iff.mp there).1

theorem numberForSettings :
    let e : Editor := ⟨[⟨"a",none,"A",0,⟨false,none,none⟩,.text⟩],.str "T",.null,.default,none,false,false,false,0⟩
    let o := e.update "a" (.object [("config",.int 5)]) (.atSeconds 0)
    o.reply = .error (.misuse .noNames) ∧ o.editor = e := by
  intro e o
  have config : Text.underscored "config" = "config" := (Text.underscoredAscii (by decide)).trans (by decide)
  have nameless : Nameless [("config",.int 5)] := ⟨.int 5,by simp [Field.asked,config],rfl,fun _ => nofun⟩
  obtain ⟨fails,ends⟩ := updateEnds e "a" [("config",.int 5)] (.atSeconds 0)
  obtain ⟨fault,failed⟩ := fails.mpr ⟨⟨_,List.mem_singleton_self _,rfl⟩,nameless⟩
  rw [failed] at ends
  obtain ⟨rfl,same⟩ := ends
  exact ⟨failed,same⟩

end FormBuilder.Editor
