import FormBuilder.Proofs.Sanitize.Strings
import FormBuilder.Proofs.Text.Cleaned
import Mathlib.Algebra.GroupWithZero.Nat
/-! The key of a label tells whether the label is clean: a tag leaves its brackets in the key, and blanks at either end
leave a mark, so cleaning a label keeps its key only if it keeps the label. -/
namespace FormBuilder.Text
open Sanitize (isBracket clean)

def lowersSolid (runs : List Shift) : Bool :=
  runs.all (fun r => (List.range (r.count * r.stride)).all (fun i =>
    isSolid (Char.ofNat (r.start + i)) && isSolid (r.moved (r.start + i))))

set_option maxRecDepth 100000 in
theorem tableSolid : ∃ cs, lowerShifts = .ofText (String.ofList cs) ∧
    lowersSolid (runsFrom 0 (words 0 false cs)) = true :=
  ⟨_,rfl,by decide +kernel⟩

theorem applySolid (c : Char) :
    lowerShifts.apply c = c ∨ isSolid c = true ∧ isSolid (lowerShifts.apply c) = true := by
  obtain ⟨runs,table,ok⟩ := checkedRuns tableSolid
  simp only [lowersSolid,List.all_eq_true,List.mem_range,Bool.and_eq_true] at ok
  rw [table]
  rcases applyCases runs c with same | ⟨run,member,i,inside,-,place,moved⟩
  · exact .inl same
  · have solid := ok run member i inside
    rw [← moved,← place,Char.ofNat_toNat] at solid
    exact .inr solid

theorem lowerAtSolid (before : List Char) (c : Char) (after : List Char) :
    lowerAt before c after = [c] ∨ isSolid c = true ∧ ∀ d ∈ lowerAt before c after, isSolid d = true := by
  unfold lowerAt
  split
  · rename_i dotted
    have same : c = Char.ofNat 0x130 := by rw [← dotted,Char.ofNat_toNat]
    refine .inr ⟨by rw [same]; decide,?_⟩
    exact List.forall_mem_cons.mpr ⟨by decide,List.forall_mem_singleton.mpr (by decide)⟩
  · split
    · rename_i sigma
      have same : c = Char.ofNat 0x3a3 := by rw [← sigma,Char.ofNat_toNat]
      refine .inr ⟨by rw [same]; decide,List.forall_mem_singleton.mpr ?_⟩
      split <;> decide
    · rcases applySolid c with same | ⟨solid,lower⟩
      · exact .inl (by rw [same])
      · exact .inr ⟨solid,List.forall_mem_singleton.mpr lower⟩

theorem lowerAtAlike (before : List Char) (c : Char) (after : List Char) :
    ∀ d ∈ lowerAt before c after, isBlank d = isBlank c ∧ isBracket d = isBracket c := by
  intro d member
  rcases lowerAtSolid before c after with same | ⟨solid,lower⟩
  · rw [same] at member
    rw [List.mem_singleton.mp member]
    exact ⟨rfl,rfl⟩
  · have own := lower d member
    simp only [isSolid,Bool.and_eq_true,Bool.not_eq_true'] at solid own
    exact ⟨own.1.trans solid.1.symm,own.2.trans solid.2.symm⟩

def letters (c : Char) : Nat := (lowerAt [] c []).length

theorem lowerAtLength (before : List Char) (c : Char) (after : List Char) :
    (lowerAt before c after).length = letters c ∧ 0 < letters c := by
  unfold letters lowerAt
  split
  · exact ⟨rfl,Nat.zero_lt_two⟩
  · split <;> exact ⟨rfl,Nat.zero_lt_one⟩

def endsBlank (inside : Bool) (cs : List Char) : Bool := cs.foldl (fun _ c => isBlank c) inside

theorem joinAppend (inside : Bool) (cs more : List Char) :
    joinBlanks inside (cs ++ more) = joinBlanks inside cs ++ joinBlanks (endsBlank inside cs) more := by
  induction cs generalizing inside with
  | nil => rfl
  | cons c rest ih =>
    rw [List.cons_append,joinBlanks,joinBlanks,endsBlank,List.foldl_cons,← endsBlank]
    cases blank : isBlank c
    · simp [ih]
    · cases inside <;> simp [ih]

theorem joinNothing {cs : List Char} (nothing : joinBlanks false cs = []) : cs = [] := by
  cases cs with
  | nil => rfl
  | cons c rest => cases blank : isBlank c <;> simp [joinBlanks,blank] at nothing

theorem joinWord {word : List Char} (solid : ∀ c ∈ word, isBlank c = false) (more : List Char) :
    joinBlanks false (word ++ more) = word ++ joinBlanks false more := by
  induction word with
  | nil => rfl
  | cons c rest ih =>
    obtain ⟨here,later⟩ := List.forall_mem_cons.mp solid
    simp [joinBlanks,here,ih later]

theorem joinInside {c : Char} {rest : List Char} (solid : isBlank c = false) (inside : Bool) :
    joinBlanks inside (c :: rest) = joinBlanks false (c :: rest) := by
  simp [joinBlanks,solid]

theorem keyLength (inside : Bool) (before cs : List Char) :
    (joinBlanks inside (lowerFrom before cs)).length = ((joinBlanks inside cs).map letters).sum := by
  induction cs generalizing inside before with
  | nil => rfl
  | cons c rest ih =>
    have alike := lowerAtAlike before c rest
    rw [lowerFrom]
    cases blank : isBlank c with
    | true =>
      have same : lowerAt before c rest = [c] := by
        rcases lowerAtSolid before c rest with same | ⟨solid,-⟩
        · exact same
        · exact absurd solid (by simp [isSolid,blank])
      have dash : letters '_' = 1 := (lowerAtLength [] '_' []).1.symm
      rw [same]
      cases inside <;> simp [joinBlanks,blank,ih,dash,Nat.add_comm]
    | false =>
      have solid : ∀ d ∈ lowerAt before c rest, isBlank d = false := fun d member => (alike d member).1.trans blank
      have length := (lowerAtLength before c rest)
      cases word : lowerAt before c rest with
      | nil => simp [word] at length; omega
      | cons d ds =>
        rw [word] at solid length
        rw [List.cons_append,joinInside (solid d List.mem_cons_self),← List.cons_append,joinWord solid,List.length_append,
          length.1,ih]
        simp [joinBlanks,blank]

theorem joinMarked (inside : Bool) (cs : List Char) : (joinBlanks inside cs).any isBracket = cs.any isBracket := by
  induction cs generalizing inside with
  | nil => rfl
  | cons c rest ih =>
    cases blank : isBlank c with
    | true =>
      have plain : isBracket c = false := by
        refine Bool.eq_false_iff.mpr fun bracket => ?_
        simp only [isBracket,Bool.or_eq_true,decide_eq_true_eq] at bracket
        rcases bracket with rfl | rfl <;> exact absurd blank (by decide)
      have dash : isBracket '_' = false := by decide
      cases inside <;> simp [joinBlanks,blank,ih,plain,dash]
    | false => simp [joinBlanks,blank,ih]

theorem lowerMarked (before cs : List Char) : (lowerFrom before cs).any isBracket = cs.any isBracket := by
  induction cs generalizing before with
  | nil => rfl
  | cons c rest ih =>
    have alike := lowerAtAlike before c rest
    have length := lowerAtLength before c rest
    have here : (lowerAt before c rest).any isBracket = isBracket c := by
      cases word : lowerAt before c rest with
      | nil =>
        rw [word,List.length_nil] at length
        omega
      | cons d ds =>
        rw [word] at alike
        obtain ⟨first,others⟩ := List.forall_mem_cons.mp alike
        rw [List.any_cons,first.2,Bool.or_eq_left_iff_imp]
        intro marked
        obtain ⟨d,member,bracket⟩ := List.any_eq_true.mp marked
        rwa [← (others d member).2]
    rw [lowerFrom,List.any_append,here,ih,List.any_cons]

theorem trimSplits (cs : List Char) : ∃ lead tail, cs = lead ++ (trimChars cs ++ tail) ∧
    joinBlanks false cs = joinBlanks false lead ++ (joinBlanks false (trimChars cs) ++ joinBlanks false tail) := by
  have led : cs = cs.takeWhile isBlank ++ dropBlank cs := List.takeWhile_append_dropWhile.symm
  have tailed : dropBlank cs = trimChars cs ++ ((dropBlank cs).reverse.takeWhile isBlank).reverse := by
    have whole : (dropBlank cs).reverse = _ ++ dropBlank (dropBlank cs).reverse := List.takeWhile_append_dropWhile.symm
    rw [trimChars,← List.reverse_append,← whole,List.reverse_reverse]
  have inner (inside : Bool) : joinBlanks inside (dropBlank cs) = joinBlanks false (dropBlank cs) := by
    cases mid : dropBlank cs with
    | nil => rfl
    | cons c rest => exact joinInside (dropBlankHead mid) inside
  have ended : endsBlank false (trimChars cs) = false := by
    rw [trimChars]
    cases core : dropBlank (dropBlank cs).reverse with
    | nil => rfl
    | cons c rest => rw [List.reverse_cons,endsBlank,List.foldl_concat,dropBlankHead core]
  refine ⟨_,_,led.trans (congrArg _ tailed),?_⟩
  calc joinBlanks false cs = joinBlanks false (cs.takeWhile isBlank ++ dropBlank cs) := congrArg _ led
    _ = joinBlanks false (cs.takeWhile isBlank) ++ joinBlanks false (dropBlank cs) := by rw [joinAppend,inner]
    _ = _ := by rw [congrArg (joinBlanks false) tailed,joinAppend,ended]

theorem keyTrimmed {label : String} (same : valueKey (trim label) = valueKey label) : trim label = label := by
  obtain ⟨lead,tail,parts,joined⟩ := trimSplits label.toList
  have some (cs : List Char) (nothing : ((joinBlanks false cs).map letters).sum = 0) : cs = [] := by
    refine joinNothing ?_
    cases key : joinBlanks false cs with
    | nil => rfl
    | cons c rest =>
      have positive := (lowerAtLength [] c []).2
      rw [key,List.map_cons,List.sum_cons] at nothing
      omega
  have lengths := congrArg (fun s : String => s.toList.length) same
  simp only [valueKey,trim,String.toList_ofList,keyLength,joined,List.map_append,List.sum_append] at lengths
  have ends : lead = [] ∧ tail = [] := ⟨some lead (by omega),some tail (by omega)⟩
  rw [ends.1,ends.2,List.nil_append,List.append_nil] at parts
  rw [trim,← parts,String.ofList_toList]

theorem keyCleaned (label : String) : valueKey (clean label) = valueKey label ↔ clean label = label := by
  refine ⟨fun same => ?_,fun same => by rw [same]⟩
  have marked (label : String) : (valueKey label).toList.any isBracket = label.toList.any isBracket := by
    rw [valueKey,String.toList_ofList,joinMarked,lowerMarked]
  have clear : (clean label).toList.any isBracket = false :=
    List.any_eq_false.mpr fun c member => by simp [Sanitize.cleanWithUnmarked _ label c member]
  have unmarked : ∀ c ∈ label.toList, isBracket c = false := by
    rw [← marked,same,marked] at clear
    simpa using clear
  rw [clean,Sanitize.cleanUnmarked _ unmarked] at same ⊢
  exact keyTrimmed same

end FormBuilder.Text
