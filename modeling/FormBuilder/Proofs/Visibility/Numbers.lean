import FormBuilder.Proofs.Decimal.Compared
import FormBuilder.Proofs.Rule.Stored
import FormBuilder.Proofs.Schema.Verdicts
/-! A number that is typed into a form is read twice: conditions round its numeral at once, while a schema first tries
to take the numeral as an integer. Both come to one size, so a condition on size holds of what was typed exactly when
it holds of what the schema made of it. -/
namespace FormBuilder

namespace Numeral

theorem readPlain {cs : List Char} {n : Numeral} (read : read? cs = some n) (plain : n.plain = true) :
    n.fraction = [] ∧ n.exponent = 0 := by
  unfold read? at read
  dsimp only at read
  split at read
  · split at read
    · contradiction
    · obtain ⟨e,-,rfl⟩ := Option.map_eq_some_iff.mp read
      contradiction
  · split at read
    · contradiction
    · obtain ⟨e,exponent,rfl⟩ := Option.map_eq_some_iff.mp read
      rw [List.isEmpty_iff.mp plain] at exponent
      exact ⟨rfl,(Option.some.inj exponent).symm⟩

theorem doubleWhole {n : Numeral} (fraction : n.fraction = []) (exponent : n.exponent = 0) :
    n.toDouble = .ofInt n.toInt ∨ n.toDouble = .finite (.zero n.negative) ∧ n.toInt = 0 := by
  have own : n.toDouble = .ofDecimal n.negative (natOf n.whole) 0 := by
    rw [toDouble,fraction,exponent,List.append_nil]
    rfl
  rw [own,toInt]
  by_cases nothing : natOf n.whole = 0
  · right
    rw [Double.ofDecimal,if_pos nothing,nothing]
    simp
  · left
    have sign : decide ((if n.negative then -(natOf n.whole : Int) else natOf n.whole) < 0) = n.negative := by
      cases n.negative with
      | false => simp
      | true => simpa using Nat.pos_of_ne_zero nothing
    have size : (if n.negative then -(natOf n.whole : Int) else natOf n.whole).natAbs = natOf n.whole := by
      cases n.negative <;> simp
    rw [Double.ofInt,sign,size]

end Numeral

namespace Number

theorem ofNumeralSize {cs : List Char} {n : Numeral} (read : Numeral.read? cs = some n) :
    (ofNumeral n).isFinite = n.toDouble.isFinite ∧
    (n.toDouble.isFinite = true → n.toDouble.equal (ofNumeral n).toValue.number = true) := by
  unfold ofNumeral
  split
  · rename_i short
    obtain ⟨fraction,exponent⟩ := Numeral.readPlain read short.1
    rcases Numeral.doubleWhole fraction exponent with same | ⟨zero,nothing⟩
    · rw [same]
      exact ⟨rfl,Double.equalFinite⟩
    · rw [zero,nothing]
      exact ⟨rfl,fun _ => Double.equalWhole (by rw [Double.zeroUnits,Int.zero_mul])⟩
  · exact ⟨rfl,Double.equalFinite⟩

end Number

namespace Value

theorem numberRead {s : String} {n : Numeral} (read : Numeral.read? (Text.trimChars s.toList) = some n) :
    numberOfText s = n.toDouble := by
  have other (cs : List Char) (none : Numeral.read? cs = none) : Text.trimChars s.toList ≠ cs := by
    rintro rfl
    exact nomatch none.symm.trans read
  have given : (Text.trimChars s.toList).isEmpty = false := List.isEmpty_eq_false_iff.mpr (other [] rfl)
  have bare := other "Infinity".toList (by decide)
  have plus := other "+Infinity".toList (by decide)
  have minus := other "-Infinity".toList (by decide)
  simp only [numberOfText,given,bare,plus,minus,read]
  rfl

theorem numberUnread {s : String} (unread : Numeral.read? (Text.trimChars s.toList) = none) :
    (numberOfText s).isFinite = false ∨ Text.allBlank s = true ∧ numberOfText s = .zero := by
  unfold numberOfText
  dsimp only
  split
  · rename_i nothing
    exact .inr ⟨Text.trimCharsNothing (List.isEmpty_iff.mp nothing),rfl⟩
  · left
    split
    · rfl
    · split
      · rfl
      · rw [unread]
        rfl

end Value

namespace Number

theorem readSize {s : String} {n : Number} (read : read? (.str s) = some n) :
    (Value.str s).number.isFinite = true ∧ (Value.str s).number.equal n.toValue.number = true := by
  obtain ⟨taken,finite⟩ := Option.filter_eq_some_iff.mp read
  obtain ⟨numeral,written,rfl⟩ := Option.map_eq_some_iff.mp taken
  obtain ⟨alike,equal⟩ := ofNumeralSize written
  rw [Value.number,Value.numberRead written,← alike]
  exact ⟨finite,equal (alike.symm.trans finite)⟩

theorem unreadSize {s : String} (unread : read? (.str s) = none) :
    (Value.str s).number.isFinite = false ∨ Text.allBlank s = true ∧ (Value.str s).number = .zero := by
  rw [Value.number]
  cases written : Numeral.read? (Text.trimChars s.toList) with
  | none => exact Value.numberUnread written
  | some numeral =>
    left
    rw [Value.numberRead written,← (ofNumeralSize written).1]
    simpa [read?,written,Option.filter] using unread

theorem readAlike {v : Value} {n : Number} (read : read? v = some n) : Double.Alike v.number n.toValue.number := by
  cases v with
  | int m =>
    have taken : (some (int m)).filter isFinite = some n := read
    cases (Option.filter_eq_some_iff.mp taken).1
    exact .refl _
  | float x =>
    have taken : (some (float x)).filter isFinite = some n := read
    cases (Option.filter_eq_some_iff.mp taken).1
    exact .refl _
  | str s => exact Double.equalAlike (readSize read).2
  | null | bool b | list items | object entries => contradiction

theorem wholeAlike {n : Number} {m : Int} (whole : n.toInt? = some m) :
    Double.Alike n.toValue.number (Value.int m).number := by
  rcases wholeCases whole with rfl | ⟨x,rfl,own⟩
  · exact .refl _
  · exact Double.equalAlike (Double.equalWhole own)

end Number

section
variable {given made : Value} {n : Number}

theorem Rule.numberTook {least most : Option Double} (read : Number.read? given = some n)
    (took : number least most given = .ok made) : made = n.toValue := by
  simp only [number,read] at took
  split at took
  · contradiction
  · split at took
    · contradiction
    · exact (Except.ok.inj took).symm

theorem Rule.ratingTook {scale : Scale} (read : Number.read? given = some n)
    (took : rating scale given = .ok made) : ∃ m, n.toInt? = some m ∧ made = .int m := by
  simp only [rating,read,Option.getD_some] at took
  split at took
  · contradiction
  · rename_i m whole
    split at took
    · contradiction
    · split at took
      · contradiction
      · exact ⟨m,whole,(Except.ok.inj took).symm⟩

theorem Kind.checkAlike {k : Kind} (read : Number.read? given = some n) (took : k.check given = .ok made) :
    made ≠ .null ∧ Double.Alike given.number made.number := by
  have some : given ≠ .null := by
    rintro rfl
    contradiction
  cases k with
  | number least most =>
    rw [Rule.numberTook read took]
    exact ⟨by cases n <;> simp [Number.toValue],Number.readAlike read⟩
  | rating scale =>
    obtain ⟨m,whole,rfl⟩ := Rule.ratingTook read took
    exact ⟨by simp,(Number.readAlike read).trans (Number.wholeAlike whole)⟩
  | checkbox options | ranking options =>
    obtain ⟨items,rfl,-⟩ := Rule.optionsTook took
    contradiction
  | matrix rows columns =>
    obtain ⟨entries,rfl,-⟩ := Rule.rowsTook took
    contradiction
  | file types most | pageBreak | divider =>
    cases Except.ok.inj took
    exact ⟨some,.refl _⟩
  | text | longtext help | email | url | date | phone | radio options | dropdown options | pictureChoice options images
  | signature =>
    obtain ⟨t,rfl,rfl,-⟩ := Rule.textTook took
    exact ⟨some,.refl _⟩

theorem Field.verdictAlike {f : Field} (read : Number.read? given = some n) (took : f.verdict given = .ok made) :
    made ≠ .null ∧ Double.Alike given.number made.number := by
  by_cases file : f.type = .file
  · cases Except.ok.inj ((fileTaken file given).symm.trans took)
    refine ⟨?_,.refl _⟩
    rintro rfl
    contradiction
  obtain ⟨-,⟨absent,-⟩ | ⟨-,check⟩⟩ := (verdictExact file _ _).mp took
  · cases given with
    | str s =>
      have empty : s = "" := by simpa using (Bool.and_eq_true_iff.mp absent).2
      rw [empty] at read
      contradiction
    | _ => contradiction
  · exact Kind.checkAlike read check

theorem Schema.keptAlike {fields : List Field} {payload data : Object} {f : Field}
    (passed : validateSubmission fields (.object payload) = .ok data) (member : f ∈ fields) (asked : f.isLayout = false)
    (entry : payload.value? f.valueKey = some given) (read : Number.read? given = some n) :
    ∃ stored, data.value? f.valueKey = some stored ∧ Double.Alike given.number stored.number := by
  have among : f ∈ fields.filter (fun f => !f.isLayout) := List.mem_filter.mpr ⟨member,by simp [asked]⟩
  have judged {g : Field} (key : g.valueKey = f.valueKey) : g.judged payload = g.verdict given := by
    rw [Field.judged,key,entry]
    rfl
  obtain ⟨made,took⟩ := (passesWhen fields payload).mp ⟨data,passed⟩ f among
  obtain ⟨some,-⟩ := Field.verdictAlike read ((judged rfl).symm.trans took)
  have keeps : kept? (f.judged payload) = .some made := by
    rw [took]
    exact (presentCases made).resolve_left fun none => some none.2
  -- Another field of the key may have come later, so what is kept need not be what this one made.
  have listed : made ∈ ((fields.filter (fun f => !f.isLayout)).filter (fun g => g.valueKey == f.valueKey)).filterMap
      (fun g => kept? (g.judged payload)) :=
    List.mem_filterMap.mpr ⟨f,List.mem_filter.mpr ⟨among,beq_self_eq_true f.valueKey⟩,keeps⟩
  obtain ⟨stored,last⟩ := Option.isSome_iff_exists.mp (List.getLast?_isSome.mpr (List.ne_nil_of_mem listed))
  have found := ((keptUnder passed).2 f.valueKey).trans last
  obtain ⟨g,-,-,key,took⟩ := keptMade passed (Object.valueFound found)
  exact ⟨stored,found,(Field.verdictAlike read ((judged key).symm.trans took)).2⟩

theorem comparedAlike {operator : Operator} (sized : operator ∈ [Operator.greaterThan,.lessThan])
    {answer other : Option Value} {expected also : Value}
    (answers : Double.Alike (Answer.number answer) (Answer.number other))
    (values : Double.Alike expected.number also.number) :
    Condition.compare operator answer expected = Condition.compare operator other also := by
  rcases List.mem_pair.mp sized with rfl | rfl
  · exact values.compared answers
  · exact answers.compared values

end

/-- A text that reads as the answer to a number field is a finite number to a condition, too, and one of the same size.
A text that does not is no finite number to a condition either, unless it is blank: then it is zero. So whatever a schema
makes of a number that was typed compares as it was typed. -/
theorem numbersReadAlike (s : String) :
    (∀ n, Number.read? (.str s) = some n →
      (Value.str s).number.isFinite = true ∧ (Value.str s).number.equal n.toValue.number = true) ∧
    (Number.read? (.str s) = none →
      (Value.str s).number.isFinite = false ∨ Text.allBlank s = true ∧ (Value.str s).number = .zero) ∧
    ∀ operator ∈ [Operator.greaterThan,.lessThan], (Number.read? (.str s)).isSome = true →
      (∀ (f : Field) (made : Value), f.verdict (.str s) = .ok made → ∀ answer expected,
        Condition.compare operator (some (.str s)) expected = Condition.compare operator (some made) expected ∧
        Condition.compare operator answer (.str s) = Condition.compare operator answer made) ∧
      ∀ (fields : List Field) (payload data : Object) (c : Condition) (f : Field),
        validateSubmission fields (.object payload) = .ok data → c.operator = operator →
        Field.find? fields c.target = some f → f.isLayout = false → payload.value? f.valueKey = some (.str s) →
          c.holds payload fields = c.holds data fields := by
  refine ⟨fun n => Number.readSize,Number.unreadSize,fun operator sized some => ?_⟩
  obtain ⟨n,read⟩ := Option.isSome_iff_exists.mp some
  constructor
  · intro f made took answer expected
    have alike := (Field.verdictAlike read took).2
    exact ⟨comparedAlike sized alike (.refl _),comparedAlike sized (.refl _) alike⟩
  · intro fields payload data c f passed own found asked entry
    have member := List.mem_of_find?_eq_some found
    obtain ⟨stored,kept,alike⟩ := Schema.keptAlike passed member asked entry read
    unfold Condition.holds
    rw [found,own]
    dsimp only
    rw [entry,kept]
    exact comparedAlike sized alike (.refl _)

theorem typedNumbersCompared :
    let stars : Field := ⟨"a",none,"Stars",0,⟨false,none,none⟩,.rating .default⟩
    let many : Condition := ⟨"a",.greaterThan,.str "3.5"⟩
    let payload : Object := [("stars",.str " 4.0 ")]
    let data : Object := [("stars",.int 4)]
    Number.read? (.str "-0") = some (.int 0) ∧ (Value.str "-0").number.equal (Value.int 0).number = true ∧
    Number.read? (.str "1e400") = none ∧ (Value.str "1e400").number.isFinite = false ∧
    (Number.read? (.str " 4.0 ")).isSome = true ∧ validateSubmission [stars] (.object payload) = .ok data ∧
    many.holds payload [stars] = many.holds data [stars] := by
  intro stars many payload data
  have key : stars.valueKey = "stars" := (Text.valueKeyAscii (by decide)).trans (by decide)
  have zero : Number.read? (.str "-0") = some (.int 0) := by decide +kernel
  have large : Number.read? (.str "1e400") = none := by decide +kernel
  have four : ((Number.read? (.str " 4.0 ")).getD (.int 0)).toInt? = some 4 := by decide +kernel
  have some : (Number.read? (.str " 4.0 ")).isSome = true := by decide +kernel
  have rated : stars.verdict (.str " 4.0 ") = .ok (.int 4) := by
    simp [stars,Field.verdict,Field.required,Kind.isAbsent,Kind.check,Rule.rating,four,Scale.default]
  have passed : validateSubmission [stars] (.object payload) = .ok data := by
    have alone := Schema.validateAlone rfl rated rfl
    rwa [key] at alone
  have entry : payload.value? stars.valueKey = .some (.str " 4.0 ") := by rw [key]; rfl
  have blank : Text.allBlank "1e400" = false := by decide
  refine ⟨zero,((numbersReadAlike "-0").1 _ zero).2,large,?_,some,passed,?_⟩
  · exact ((numbersReadAlike "1e400").2.1 large).resolve_right fun nothing =>
      Bool.false_ne_true (blank.symm.trans nothing.1)
  · have compared := ((numbersReadAlike " 4.0 ").2.2 _ List.mem_cons_self some).2
    exact compared [stars] payload data many stars passed rfl rfl rfl entry

end FormBuilder
