import FormBuilder.Proofs.Text.Lower
import FormBuilder.Text.Printable
import FormBuilder.Text.Word
/-! What the tables of printable characters and of word characters hold, read as lists of intervals. Of the blanks only
the space itself is printable: each interval is looked at beside the blanks. Among the first 128 characters, the word
characters are the letters, the digits and the underscore. -/
namespace FormBuilder.Text

def intervalsFrom (last : Nat) : List Nat → List (Nat × Nat)
  | gap :: span :: rest => (last + gap,last + gap + span) :: intervalsFrom (last + gap + span) rest
  | _ => []

theorem readIntervals (ns : List Nat) (read : Array (Nat × Nat)) (last : Nat) :
    (ns.foldl Ranges.readWord (read,last,none)).1.toList = read.toList ++ intervalsFrom last ns := by
  induction last,ns using intervalsFrom.induct generalizing read with
  | case1 last gap span rest ih =>
    refine (ih (read.push (last + gap,last + gap + span))).trans ?_
    simp [intervalsFrom]
  | case2 ns last short =>
    match ns,short with
    | [],_ => simp [intervalsFrom]
    | [_],_ => simp [intervalsFrom,Ranges.readWord]
    | a :: b :: rest,short => exact absurd rfl (short a b rest)

theorem ofTextIntervals (cs : List Char) :
    (Ranges.ofText (String.ofList cs)).intervals.toList = intervalsFrom 0 (words 0 false cs) := by
  have read := readIntervals (words 0 false cs) #[] 0
  rw [← hexWordsList,Array.foldl_toList] at read
  simpa [Ranges.ofText,hexWordsList] using read

theorem containsInside {r : Ranges} {n : Nat} (inside : r.contains n = true) :
    ∃ e ∈ r.intervals.toList, e.1 ≤ n ∧ n ≤ e.2 := by
  unfold Ranges.contains at inside
  dsimp only at inside
  split at inside
  · rename_i low high found
    rw [Bool.and_eq_true,decide_eq_true_eq,decide_eq_true_eq] at inside
    exact ⟨(low,high),Array.mem_toList_iff.mpr (Array.mem_of_getElem? found),inside⟩
  · contradiction

def otherBlanks : List (Nat × Nat) :=
  [(9,13),(28,31),(0x85,0x85),(0xa0,0xa0),(0x1680,0x1680),(0x2000,0x200a),(0x2028,0x2029),(0x202f,0x202f),
    (0x205f,0x205f),(0x3000,0x3000)]

theorem blankAmong {c : Char} (blank : isBlank c = true) (other : c ≠ ' ') :
    ∃ e ∈ otherBlanks, e.1 ≤ c.toNat ∧ c.toNat ≤ e.2 := by
  have apart : c.toNat ≠ 32 := fun same => other (Char.toNat_inj.mp same)
  simp only [isBlank,Bool.or_eq_true,Bool.and_eq_true,decide_eq_true_eq,beq_iff_eq] at blank
  simp only [otherBlanks,List.mem_cons,exists_eq_or_imp,List.not_mem_nil,or_false,exists_eq_left]
  omega

def apart (intervals others : List (Nat × Nat)) : Bool :=
  intervals.all (fun e => others.all (fun o => o.2 < e.1 || e.2 < o.1))

set_option maxRecDepth 100000 in
theorem printableTable : ∃ cs, printableRanges = .ofText (String.ofList cs) ∧
    apart (intervalsFrom 0 (words 0 false cs)) otherBlanks = true :=
  ⟨_,rfl,by decide +kernel⟩

theorem printableBlank {c : Char} (printable : isPrintable c = true) (blank : isBlank c = true) : c = ' ' := by
  by_cases space : c = ' '
  · exact space
  obtain ⟨cs,table,disjoint⟩ := printableTable
  obtain ⟨o,among,low,high⟩ := blankAmong blank space
  obtain ⟨e,member,first,last⟩ := containsInside printable
  rw [table,ofTextIntervals] at member
  have gap := List.all_eq_true.mp (List.all_eq_true.mp disjoint e member) o among
  simp only [Bool.or_eq_true,decide_eq_true_eq] at gap
  omega

theorem ofTextRead (cs : List Char) :
    Ranges.ofText (String.ofList cs) = ⟨(intervalsFrom 0 (words 0 false cs)).toArray⟩ :=
  congrArg Ranges.mk (Array.toArray_toList.symm.trans (congrArg List.toArray (ofTextIntervals cs)))

set_option maxRecDepth 100000 in
theorem wordTable : ∃ cs, wordRanges = .ofText (String.ofList cs) ∧
    (List.range 128).all (fun n => Ranges.contains ⟨(intervalsFrom 0 (words 0 false cs)).toArray⟩ n ==
      ((Char.ofNat n).isAlphanum || Char.ofNat n == '_')) = true :=
  ⟨_,rfl,by decide +kernel⟩

theorem wordAscii {c : Char} (ascii : c.toNat < 128) : isWord c = (c.isAlphanum || c == '_') := by
  obtain ⟨cs,table,alike⟩ := wordTable
  have here := List.all_eq_true.mp alike c.toNat (List.mem_range.mpr ascii)
  rw [Char.ofNat_toNat,beq_iff_eq] at here
  rw [isWord,table,ofTextRead,here]

end FormBuilder.Text
