import FormBuilder.Proofs.Text.Lower
/-! Names that are respelled twice. Digits and foreign letters may go on changing, but what comes to a name of small
letters and underscores the second time was that name already after the first. -/
namespace FormBuilder.Text

-- The sign for kelvin is the one foreign letter with a small letter of ASCII.
def kelvin : Char := Char.ofNat 0x212a

def lowersApart (runs : List Shift) : Bool :=
  runs.all (fun r => (List.range (r.count * r.stride)).all (fun i => i % r.stride != 0 ||
    r.moved (r.start + i) != kelvin && r.moved (r.start + i) != '-' &&
      (128 ≤ (r.moved (r.start + i)).toNat || r.start + i < 128 || r.start + i == kelvin.toNat))) &&
    Shifts.apply ⟨runs.toArray⟩ kelvin == 'k'

set_option maxRecDepth 100000 in
theorem tableApart : ∃ cs, lowerShifts = .ofText (String.ofList cs) ∧
    lowersApart (runsFrom 0 (words 0 false cs)) = true :=
  ⟨_,rfl,by decide +kernel⟩

theorem applyApart (c : Char) : lowerShifts.apply c ≠ kelvin ∧ (lowerShifts.apply c = '-' → c = '-') ∧
    (lowerShifts.apply c = c ∨ 128 ≤ (lowerShifts.apply c).toNat ∨ c.toNat < 128 ∨ c = kelvin) := by
  obtain ⟨runs,table,ok⟩ := checkedRuns tableApart
  rw [table]
  simp only [lowersApart,Bool.and_eq_true,List.all_eq_true,List.mem_range,Bool.or_eq_true,bne_iff_ne,beq_iff_eq,
    decide_eq_true_eq] at ok
  obtain ⟨apart,sign⟩ := ok
  rcases applyCases runs c with same | ⟨r,member,i,inside,step,place,moved⟩
  · refine ⟨fun foreign => ?_,fun dash => same ▸ dash,.inl same⟩
    rw [same.symm.trans foreign,sign] at foreign
    revert foreign
    decide
  · obtain ⟨⟨other,solid⟩,small⟩ := (apart r member i inside).resolve_left (not_not_intro step)
    rw [moved]
    refine ⟨other,fun dash => absurd dash solid,.inr ?_⟩
    rcases small with (large | ascii) | foreign
    · exact .inl large
    · exact .inr (.inl (place ▸ ascii))
    · exact .inr (.inr (Char.toNat_inj.mp (place.trans foreign)))

def isPlain (c : Char) : Bool := isLowerAscii c || c == '_'

theorem plainAscii {c : Char} (plain : isPlain c = true) : c.toNat < 128 := by
  simp only [isPlain,isLowerAscii,Bool.or_eq_true,Bool.and_eq_true,decide_eq_true_eq,beq_iff_eq] at plain
  rcases plain with ⟨-,most⟩ | rfl
  · have most : c.toNat ≤ 122 := most
    omega
  · decide

structure Respelled (c : Char) : Prop where
  small : isUpperAscii c = false
  native : c ≠ kelvin
  joined : c ≠ '-'

theorem lowerAtRespelled {before after : List Char} {c : Char} (joined : c ≠ '-') :
    ∀ d ∈ lowerAt before c after, Respelled d := by
  intro d member
  have small := lowerAtSmall before c after d member
  unfold lowerAt at member
  split at member
  · rcases List.mem_cons.mp member with rfl | rest
    · exact ⟨small,by decide,by decide⟩
    · rw [List.mem_singleton.mp rest] at small ⊢
      exact ⟨small,by decide,by decide⟩
  · split at member
    · rw [List.mem_singleton.mp member] at small ⊢
      refine ⟨small,?_,?_⟩ <;> split <;> decide
    · rw [List.mem_singleton.mp member] at small ⊢
      obtain ⟨native,dash,-⟩ := applyApart c
      exact ⟨small,native,fun same => joined (dash same)⟩

theorem lowerFromRespelled (before : List Char) {cs : List Char} (joined : ∀ c ∈ cs, c ≠ '-') :
    ∀ d ∈ lowerFrom before cs, Respelled d := by
  induction cs generalizing before with
  | nil => simp [lowerFrom]
  | cons c after ih =>
    obtain ⟨here,later⟩ := List.forall_mem_cons.mp joined
    exact List.forall_mem_append.mpr ⟨lowerAtRespelled here,ih (c :: before) later⟩

theorem splitJoined (before : Option Char) (cs : List Char) : ∀ c ∈ splitWords before cs, c ≠ '-' := by
  induction cs generalizing before with
  | nil => simp [splitWords]
  | cons c rest ih =>
    have shown : (if c = '-' then '_' else c) ≠ '-' := by
      split
      · decide
      · assumption
    rw [splitWords]
    split
    · exact List.forall_mem_cons.mpr ⟨by decide,List.forall_mem_cons.mpr ⟨shown,ih (some c)⟩⟩
    · exact List.forall_mem_cons.mpr ⟨shown,ih (some c)⟩

theorem underscoredRespelled (name : String) : ∀ c ∈ (underscored name).toList, Respelled c := by
  rw [underscored,String.toList_ofList]
  exact lowerFromRespelled [] (splitJoined none _)

theorem splitAmong (before : Option Char) (cs : List Char) : ∀ d ∈ splitWords before cs, d ∈ cs ∨ d = '_' := by
  induction cs generalizing before with
  | nil => simp [splitWords]
  | cons c rest ih =>
    have shown : (if c = '-' then '_' else c) ∈ c :: rest ∨ (if c = '-' then '_' else c) = '_' := by
      split
      · exact .inr rfl
      · exact .inl List.mem_cons_self
    have others : ∀ d ∈ splitWords (some c) rest, d ∈ c :: rest ∨ d = '_' := fun d member =>
      (ih (some c) d member).imp_left (List.mem_cons_of_mem c)
    rw [splitWords]
    split
    · exact List.forall_mem_cons.mpr ⟨.inr rfl,List.forall_mem_cons.mpr ⟨shown,others⟩⟩
    · exact List.forall_mem_cons.mpr ⟨shown,others⟩

theorem splitKeeps (before : Option Char) {cs : List Char} {c : Char} (member : c ∈ cs) (joined : c ≠ '-') :
    c ∈ splitWords before cs := by
  induction cs generalizing before with
  | nil => contradiction
  | cons head rest ih =>
    have kept : c ∈ (if head = '-' then '_' else head) :: splitWords (some head) rest := by
      rcases List.mem_cons.mp member with rfl | later
      · rw [if_neg joined]
        exact List.mem_cons_self
      · exact List.mem_cons_of_mem _ (ih (some head) later)
    rw [splitWords]
    split
    · exact List.mem_cons_of_mem _ kept
    · exact kept

theorem splitSame (before : Option Char) {cs : List Char}
    (plain : ∀ c ∈ cs, isUpperAscii c = false ∧ isDigitAscii c = false ∧ c ≠ '-') : splitWords before cs = cs := by
  induction cs generalizing before with
  | nil => rfl
  | cons c rest ih =>
    obtain ⟨⟨small,letter,joined⟩,others⟩ := List.forall_mem_cons.mp plain
    have inside : beginsWord before c rest.head? = false := by
      cases before <;> simp [beginsWord,small,letter]
    rw [splitWords,if_neg joined,inside,ih (some c) others]
    rfl

theorem lowerAtPlain {before after : List Char} {c : Char} (small : isUpperAscii c = false) (native : c ≠ kelvin)
    (plain : ∀ d ∈ lowerAt before c after, isPlain d = true) : lowerAt before c after = [c] := by
  unfold lowerAt at plain ⊢
  split at plain
  · exact absurd (plain (Char.ofNat 0x307) (by simp)) (by decide)
  · split at plain
    · refine absurd (plain _ (List.mem_singleton_self _)) ?_
      split <;> decide
    · rename_i dotless sigmaless
      rw [if_neg dotless,if_neg sigmaless]
      have ascii := plainAscii (plain _ (List.mem_singleton_self _))
      obtain ⟨-,-,same | large | own | foreign⟩ := applyApart c
      · rw [same]
      · omega
      · rw [applyAscii own,lowerAscii,small]
        rfl
      · exact absurd foreign native

theorem lowerFromPlain (before : List Char) {cs : List Char} (small : ∀ c ∈ cs, isUpperAscii c = false ∧ c ≠ kelvin)
    (plain : ∀ d ∈ lowerFrom before cs, isPlain d = true) : lowerFrom before cs = cs := by
  induction cs generalizing before with
  | nil => rfl
  | cons c after ih =>
    obtain ⟨⟨here,native⟩,later⟩ := List.forall_mem_cons.mp small
    rw [lowerFrom] at plain ⊢
    obtain ⟨own,others⟩ := List.forall_mem_append.mp plain
    rw [lowerAtPlain here native own,ih _ later others]
    rfl

theorem plainLetter {c : Char} (plain : isPlain c = true) :
    isUpperAscii c = false ∧ isDigitAscii c = false ∧ c ≠ '-' ∧ c ≠ kelvin := by
  have all : ∀ n < 128, isPlain (Char.ofNat n) = true → isUpperAscii (Char.ofNat n) = false ∧
      isDigitAscii (Char.ofNat n) = false ∧ Char.ofNat n ≠ '-' ∧ Char.ofNat n ≠ kelvin := by decide +kernel
  have own := all c.toNat (plainAscii plain)
  rw [Char.ofNat_toNat] at own
  exact own plain

theorem underscoredAgain {known : String} (plain : ∀ c ∈ known.toList, isPlain c = true) (name : String) :
    underscored (underscored name) = known ↔ underscored name = known := by
  have letters := underscoredRespelled name
  generalize underscored name = once at letters ⊢
  constructor
  · rintro rfl
    rw [underscored,String.toList_ofList] at plain
    have small : ∀ c ∈ splitWords none once.toList, isUpperAscii c = false ∧ c ≠ kelvin := fun c member => by
      rcases splitAmong none _ c member with own | rfl
      · exact ⟨(letters c own).small,(letters c own).native⟩
      · decide
    have lowered := lowerFromPlain [] small plain
    rw [lowered] at plain
    have whole : ∀ c ∈ once.toList, isUpperAscii c = false ∧ isDigitAscii c = false ∧ c ≠ '-' := fun c member => by
      have joined := (letters c member).joined
      obtain ⟨upper,digit,dash,-⟩ := plainLetter (plain c (splitKeeps none member joined))
      exact ⟨upper,digit,dash⟩
    rw [underscored,lowered,splitSame none whole,String.ofList_toList]
  · rintro rfl
    have whole : splitWords none once.toList = once.toList := splitSame none fun c member => by
      obtain ⟨upper,digit,dash,-⟩ := plainLetter (plain c member)
      exact ⟨upper,digit,dash⟩
    have same : once.toList.map lowerAscii = once.toList := by
      refine (List.map_congr_left fun c member => ?_).trans (List.map_id _)
      rw [lowerAscii,(plainLetter (plain c member)).1]
      rfl
    rw [underscored,whole,lowerFromAscii [] fun c member => plainAscii (plain c member),same,String.ofList_toList]

end FormBuilder.Text
