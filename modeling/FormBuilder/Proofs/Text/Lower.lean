import FormBuilder.Text.Slug
/-! No capital of ASCII is left in lower case, and the rest of ASCII stays. The table of letter shifts is a
text, so it is read once as a list of runs, and each run is looked through. -/
namespace FormBuilder.Text

def words (current : Nat) (inside : Bool) : List Char → List Nat
  | [] => if inside then [current] else []
  | c :: rest =>
    if c = ' ' ∨ c = '\n' then (if inside then current :: words 0 false rest else words 0 false rest)
    else words (current * 16 + hexDigit c) true rest

theorem hexStepWords (cs : List Char) (read : Array Nat) (current : Nat) (inside : Bool) :
    let final := cs.foldl hexStep (read,current,inside)
    (if final.2.2 then final.1.push final.2.1 else final.1).toList = read.toList ++ words current inside cs := by
  induction cs generalizing read current inside with
  | nil => cases inside <;> simp [words]
  | cons c rest ih =>
    rw [List.foldl_cons,words]
    by_cases gap : c = ' ' ∨ c = '\n'
    · have step : hexStep (read,current,inside) c = (if inside then read.push current else read,0,false) := by
        rw [hexStep,if_pos gap]
      rw [step,if_pos gap]
      refine (ih _ _ _).trans ?_
      cases inside <;> simp
    · have step : hexStep (read,current,inside) c = (read,current * 16 + hexDigit c,true) := by
        rw [hexStep,if_neg gap]
      rw [step,if_neg gap]
      exact ih _ _ _

theorem hexWordsList (cs : List Char) : (hexWords (String.ofList cs)).toList = words 0 false cs := by
  have all := hexStepWords cs #[] 0 false
  simpa [hexWords,String.foldl_eq_foldl_toList] using all

def runsFrom (last : Nat) : List Nat → List Shift
  | gap :: count :: stride :: delta :: rest => ⟨last + gap,count,stride,delta⟩ :: runsFrom (last + gap) rest
  | _ => []

theorem readWordRuns (ns : List Nat) (read : Array Shift) (last : Nat) :
    (ns.foldl Shifts.readWord (read,last,[])).1.toList = read.toList ++ runsFrom last ns := by
  induction last,ns using runsFrom.induct generalizing read with
  | case1 last gap count stride delta rest ih =>
    refine (ih (read.push ⟨last + gap,count,stride,delta⟩)).trans ?_
    simp [runsFrom]
  | case2 ns last short =>
    match ns,short with
    | [],_ => simp [runsFrom]
    | [_],_ => simp [runsFrom,Shifts.readWord]
    | [_,_],_ => simp [runsFrom,Shifts.readWord]
    | [_,_,_],_ => simp [runsFrom,Shifts.readWord]
    | a :: b :: c :: d :: rest,short => exact absurd rfl (short a b c d rest)

theorem ofTextRuns (cs : List Char) :
    (Shifts.ofText (String.ofList cs)).runs = (runsFrom 0 (words 0 false cs)).toArray := by
  have runs := readWordRuns (words 0 false cs) #[] 0
  rw [← hexWordsList,Array.foldl_toList] at runs
  apply Array.toList_inj.mp
  simpa [Shifts.ofText,hexWordsList] using runs

def Shift.moved (r : Shift) (n : Nat) : Char := Char.ofNat ((n + r.delta) % 0x110000)

def lowers (runs : List Shift) : Bool :=
  runs.all (fun r => (List.range (r.count * r.stride)).all (fun i => !isUpperAscii (r.moved (r.start + i)))) &&
    (List.range 128).all (fun n => Shifts.apply ⟨runs.toArray⟩ (Char.ofNat n) == lowerAscii (Char.ofNat n))

set_option maxRecDepth 100000 in
theorem tableLowers : ∃ cs, lowerShifts = .ofText (String.ofList cs) ∧ lowers (runsFrom 0 (words 0 false cs)) = true :=
  ⟨_,rfl,by decide +kernel⟩

theorem checkedRuns {check : List Shift → Bool} (table : ∃ cs, lowerShifts = .ofText (String.ofList cs) ∧
    check (runsFrom 0 (words 0 false cs)) = true) : ∃ runs, lowerShifts = ⟨runs.toArray⟩ ∧ check runs = true := by
  obtain ⟨cs,table,ok⟩ := table
  refine ⟨_,?_,ok⟩
  rw [table,← ofTextRuns]

theorem applyCases (runs : List Shift) (c : Char) : Shifts.apply ⟨runs.toArray⟩ c = c ∨
    ∃ r ∈ runs, ∃ i < r.count * r.stride, i % r.stride = 0 ∧ c.toNat = r.start + i ∧
      Shifts.apply ⟨runs.toArray⟩ c = r.moved (r.start + i) := by
  unfold Shifts.apply
  dsimp only
  split
  · rename_i run found
    split
    · rename_i inside
      have member : run ∈ runs := by simpa using List.mem_of_getElem? (by simpa using found)
      have place : c.toNat = run.start + (c.toNat - run.start) := (Nat.add_sub_cancel' inside.1).symm
      exact .inr ⟨run,member,c.toNat - run.start,by omega,inside.2.2,place,by rw [← place]; rfl⟩
    · exact .inl rfl
  · exact .inl rfl

theorem applyAscii {c : Char} (ascii : c.toNat < 128) : lowerShifts.apply c = lowerAscii c := by
  obtain ⟨runs,table,ok⟩ := checkedRuns tableLowers
  simp only [lowers,Bool.and_eq_true,List.all_eq_true,List.mem_range,beq_iff_eq] at ok
  have known := ok.2 c.toNat ascii
  rw [Char.ofNat_toNat] at known
  rw [table]
  exact known

theorem lowerAsciiSmall : ∀ n < 128, isUpperAscii (lowerAscii (Char.ofNat n)) = false := by decide +kernel

theorem upperIsAscii {c : Char} (capital : isUpperAscii c = true) : c.toNat < 128 := by
  simp only [isUpperAscii,Bool.and_eq_true,decide_eq_true_eq] at capital
  have most : c.toNat ≤ 90 := capital.2
  omega

theorem applySmall (c : Char) : isUpperAscii (lowerShifts.apply c) = false := by
  cases capital : isUpperAscii c with
  | true =>
    have ascii := upperIsAscii capital
    have small := lowerAsciiSmall c.toNat ascii
    rw [Char.ofNat_toNat] at small
    rw [applyAscii ascii,small]
  | false =>
    obtain ⟨runs,table,ok⟩ := checkedRuns tableLowers
    simp only [lowers,Bool.and_eq_true,List.all_eq_true,List.mem_range,Bool.not_eq_true'] at ok
    rw [table]
    rcases applyCases runs c with same | ⟨run,member,i,inside,-,-,moved⟩
    · rwa [same]
    · rw [moved]
      exact ok.1 run member i inside

theorem lowerAtSmall (before : List Char) (c : Char) (after : List Char) :
    ∀ d ∈ lowerAt before c after, isUpperAscii d = false := by
  intro d member
  unfold lowerAt at member
  split at member
  · rcases List.mem_cons.mp member with rfl | rest
    · decide
    · rw [List.mem_singleton.mp rest]
      decide
  · split at member
    · rw [List.mem_singleton.mp member]
      split <;> decide
    · rw [List.mem_singleton.mp member]
      exact applySmall c

theorem lowerFromSmall (before cs : List Char) : ∀ d ∈ lowerFrom before cs, isUpperAscii d = false := by
  induction cs generalizing before with
  | nil => simp [lowerFrom]
  | cons c after ih =>
    intro d member
    rcases List.mem_append.mp member with here | later
    · exact lowerAtSmall before c after d here
    · exact ih (c :: before) d later

theorem underscoredAvoids {key : String} (capital : key.toList.any isUpperAscii = true) (name : String) :
    underscored name ≠ key := by
  rintro rfl
  obtain ⟨c,member,upper⟩ := List.any_eq_true.mp capital
  rw [underscored,String.toList_ofList] at member
  rw [lowerFromSmall _ _ c member] at upper
  contradiction

theorem lowerFromAscii (before : List Char) {cs : List Char} (ascii : ∀ c ∈ cs, c.toNat < 128) :
    lowerFrom before cs = cs.map lowerAscii := by
  induction cs generalizing before with
  | nil => rfl
  | cons c after ih =>
    obtain ⟨here,later⟩ := List.forall_mem_cons.mp ascii
    have alone : lowerAt before c after = [lowerAscii c] := by
      rw [lowerAt,if_neg (by omega),if_neg (by omega),applyAscii here]
    rw [lowerFrom,alone,ih _ later]
    rfl

theorem underscoredAscii {name : String} (ascii : (splitWords none name.toList).all (·.toNat < 128) = true) :
    underscored name = String.ofList ((splitWords none name.toList).map lowerAscii) := by
  rw [underscored,lowerFromAscii [] (by simpa using ascii)]

theorem valueKeyAscii {label : String} (ascii : label.toList.all (·.toNat < 128) = true) :
    valueKey label = String.ofList (joinBlanks false (label.toList.map lowerAscii)) := by
  rw [valueKey,lowerFromAscii [] (by simpa using ascii)]

end FormBuilder.Text
