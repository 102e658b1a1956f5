import FormBuilder.Proofs.Text.Printable
import FormBuilder.Rule
import FormBuilder.Sanitize
import Mathlib.Data.List.TakeWhile
/-! What cleaning does to a text that a field took: nothing to an email address or a date, and nothing but
trimming to a phone number. -/
namespace FormBuilder

namespace Text

def isSolid (c : Char) : Bool := !isBlank c && !Sanitize.isBracket c

theorem dropBlankSame {cs : List Char} (starts : ∀ c, cs.head? = some c → isBlank c = false) : dropBlank cs = cs := by
  cases cs with
  | nil => rfl
  | cons c rest => exact List.dropWhile_cons_of_neg (by simp [starts c rfl])

theorem trimCharsSolid {cs : List Char} (solid : ∀ c ∈ cs, isBlank c = false) : trimChars cs = cs := by
  have starts : ∀ c, cs.head? = some c → isBlank c = false := fun c first => solid c (List.mem_of_head? first)
  have ends : ∀ c, cs.reverse.head? = some c → isBlank c = false := fun c last =>
    solid c (List.mem_reverse.mp (List.mem_of_head? last))
  rw [trimChars,dropBlankSame starts,dropBlankSame ends,List.reverse_reverse]

theorem dropBlankHead {cs : List Char} {c : Char} {rest : List Char} (left : dropBlank cs = c :: rest) :
    isBlank c = false := by
  have stopped := List.head?_dropWhile_not isBlank cs
  rw [← dropBlank,left] at stopped
  simpa using stopped

theorem trimCharsNothing {cs : List Char} (nothing : trimChars cs = []) : cs.all isBlank = true := by
  have ended := List.dropWhile_eq_nil_iff.mp (List.reverse_eq_nil_iff.mp nothing)
  cases left : dropBlank cs with
  | nil => exact List.all_eq_true.mpr (List.dropWhile_eq_nil_iff.mp left)
  | cons c rest =>
    have blank := ended c (by simp [left])
    exact absurd blank (by simp [dropBlankHead left])

theorem trimCharsAmong {cs : List Char} : ∀ c ∈ trimChars cs, c ∈ cs := by
  intro c member
  have inner := List.dropWhile_subset _ (List.mem_reverse.mp member)
  exact List.dropWhile_subset _ (List.mem_reverse.mp inner)

end Text

namespace Sanitize
open Text (isBlank isSolid)

theorem cleanUnmarked {text : String} (reader : String → Option String)
    (unmarked : ∀ c ∈ text.toList, isBracket c = false) : cleanWith reader text = Text.trim text := by
  have whole : text.toList.contains '<' = false := by
    rw [Bool.eq_false_iff]
    intro marked
    have bracket := unmarked '<' (List.contains_iff_mem.mp marked)
    contradiction
  have all : text.toList.filter (fun c => !isBracket c) = text.toList :=
    List.filter_eq_self.mpr fun c member => by simp [unmarked c member]
  rw [cleanWith,stripWith,whole]
  simp only [Bool.false_eq_true,if_false,all]
  rfl

theorem cleanSolid {text : String} (solid : ∀ c ∈ text.toList, isSolid c = true) : clean text = text := by
  simp only [isSolid,Bool.and_eq_true,Bool.not_eq_true'] at solid
  rw [clean,cleanUnmarked read fun c member => (solid c member).2,Text.trim,
    Text.trimCharsSolid fun c member => (solid c member).1,String.ofList_toList]

end Sanitize

namespace Address
open Text (isBlank isSolid isPrintable)

theorem splitDotsSome (cs : List Char) : splitDots cs ≠ [] := by
  cases cs with
  | nil => simp [splitDots]
  | cons c rest =>
    unfold splitDots
    split
    · simp
    · split <;> simp

theorem dottedChars {allowed : Char → Bool} {cs : List Char}
    (words : ∀ word ∈ splitDots cs, ∀ c ∈ word, allowed c = true) : ∀ c ∈ cs, c = '.' ∨ allowed c = true := by
  induction cs with
  | nil => simp
  | cons c rest ih =>
    rw [List.forall_mem_cons]
    unfold splitDots at words
    split at words
    · rename_i none
      exact absurd none (splitDotsSome rest)
    rename_i first more split
    rw [split,List.forall_mem_cons] at ih
    split at words
    · rename_i dot
      obtain ⟨-,words⟩ := List.forall_mem_cons.mp words
      exact ⟨.inl dot,ih (List.forall_mem_cons.mp words)⟩
    · obtain ⟨own,others⟩ := List.forall_mem_cons.mp words
      obtain ⟨here,later⟩ := List.forall_mem_cons.mp own
      exact ⟨.inr here,ih ⟨later,others⟩⟩

theorem isDottedChars {allowed : Char → Bool} {cs : List Char} (dotted : isDotted allowed cs = true) :
    ∀ c ∈ cs, c = '.' ∨ allowed c = true := by
  refine dottedChars fun word member c among => ?_
  have fits := List.all_eq_true.mp dotted word member
  rw [Bool.and_eq_true] at fits
  exact List.all_eq_true.mp fits.2 c among

theorem solidSmall : ∀ n < 128, (isWideAtomChar (Char.ofNat n) || isHostChar (Char.ofNat n) ||
    ['.','@'].contains (Char.ofNat n)) = true → isSolid (Char.ofNat n) = true := by decide +kernel

theorem solidChar {c : Char} (allowed : (isWideAtomChar c || isHostChar c || ['.','@'].contains c) = true)
    (safe : c.toNat < 128 ∨ isPrintable c = true) : isSolid c = true := by
  by_cases small : c.toNat < 128
  · have solid := solidSmall c.toNat small
    rw [Char.ofNat_toNat] at solid
    exact solid allowed
  · have printable := safe.resolve_left small
    have far (d : Char) (near : d.toNat < 128) : c ≠ d := by
      rintro rfl
      exact small near
    have blank : isBlank c = false :=
      Bool.eq_false_iff.mpr fun blank => far ' ' (by decide) (Text.printableBlank printable blank)
    simp [isSolid,blank,Sanitize.isBracket,far '<' (by decide),far '>' (by decide)]

theorem atomSmall {c : Char} (atom : isAtomChar c = true) : c.toNat < 128 := by
  have marks : "!#$%&'*+-/=?^_\x60\x7b|\x7d~".toList.all (fun d => d.toNat < 128) = true := by decide
  have below {d : Char} (last : d.toNat < 128) (most : c ≤ d) : c.toNat < 128 := Nat.lt_of_le_of_lt most last
  simp only [isAtomChar,Text.isLowerAscii,Text.isUpperAscii,Text.isDigitAscii,Bool.or_eq_true,Bool.and_eq_true,
    decide_eq_true_eq,List.contains_iff_mem] at atom
  rcases atom with ((small | capital) | digit) | mark
  · exact below (by decide) small.2
  · exact below (by decide) capital.2
  · exact below (by decide) digit.2
  · exact of_decide_eq_true (List.all_eq_true.mp marks c mark)

theorem localSolid {cs : List Char} (fits : localFits cs = true) : ∀ c ∈ cs, isSolid c = true := by
  intro c member
  rw [localFits,Bool.or_eq_true,Bool.and_eq_true] at fits
  rcases fits with plain | ⟨wide,safe⟩
  · rcases isDottedChars plain c member with rfl | atom
    · decide
    · exact solidChar (by simp [isWideAtomChar,atom]) (.inl (atomSmall atom))
  · rw [isSafe,Bool.and_eq_true] at safe
    have printable := List.all_eq_true.mp safe.1 c member
    rw [Bool.and_eq_true] at printable
    rcases isDottedChars wide c member with rfl | atom
    · decide
    · exact solidChar (by simp [atom]) (.inr printable.1)

theorem domainSolid {cs : List Char} {domain : List Char × List Char} (fits : mailDomain cs = some domain) :
    ∀ c ∈ cs, isSolid c = true := by
  intro c member
  unfold mailDomain at fits
  split at fits
  · contradiction
  · rename_i safe
    simp only [Bool.or_eq_true,Bool.not_eq_true',not_or,Bool.not_eq_false,isSafe,Bool.and_eq_true,List.all_eq_true] at safe
    obtain ⟨hosts,printable,-⟩ := safe
    refine solidChar ?_ (.inr (printable c member).1)
    rcases hosts c member with host | dot
    · simp [host]
    · simp [beq_iff_eq.mp dot]

theorem emailSolid {text : String} (email : isEmail text = true) : ∀ c ∈ text.toList, isSolid c = true := by
  unfold isEmail at email
  dsimp only at email
  have parts := List.takeWhile_append_dropWhile (p := (· != '@')) (l := text.toList)
  have rest := congrArg (List.drop (text.toList.takeWhile (· != '@')).length) parts
  rw [List.drop_left] at rest
  rw [← rest] at email
  split at email
  · contradiction
  rename_i mark domain found
  have at_ : mark = '@' := by
    have stopped := List.head?_dropWhile_not (· != '@') text.toList
    simpa [found] using stopped
  rw [Bool.and_eq_true] at email
  obtain ⟨names,mail⟩ := email
  split at mail
  · contradiction
  rename_i shown ascii mailed
  intro c member
  rw [← parts,found,List.mem_append,List.mem_cons] at member
  rcases member with named | rfl | hosted
  · exact localSolid (Bool.and_eq_true_iff.mp names).1 c named
  · rw [at_]
    decide
  · exact domainSolid mailed c hosted

end Address

namespace Rule
open Text (isBlank isSolid)

theorem digitSolid {c : Char} (digit : Text.isDigitAscii c = true) : isSolid c = true :=
  Address.solidChar (by simp [Address.isHostChar,digit])
    (.inl (Address.atomSmall (by simp [Address.isAtomChar,digit])))

theorem dateSolid {text : String} (date : isDate text = true) : ∀ c ∈ text.toList, isSolid c = true := by
  unfold isDate at date
  split at date
  · rename_i y y' y'' y''' m m' d d' shape
    have digits := List.all_eq_true.mp date
    intro c member
    rw [shape] at member
    by_cases dash : c = '-'
    · rw [dash]
      decide
    · refine digitSolid (digits c ?_)
      simp only [List.mem_cons,List.not_mem_nil,or_false,dash,false_or] at member ⊢
      exact member
  · contradiction

theorem phoneUnmarked {c : Char} (phone : isPhoneChar c = true) : Sanitize.isBracket c = false := by
  rw [Bool.eq_false_iff]
  intro bracket
  rw [Sanitize.isBracket,Bool.or_eq_true,decide_eq_true_eq,decide_eq_true_eq] at bracket
  rcases bracket with rfl | rfl <;> exact absurd phone (by decide)

theorem phoneTrimmed {text : String} (phone : isPhone text = true) :
    isPhone (Sanitize.clean text) = !(Sanitize.clean text).isEmpty := by
  rw [isPhone,Bool.and_eq_true,List.all_eq_true] at phone
  have trimmed : Sanitize.clean text = Text.trim text :=
    Sanitize.cleanUnmarked _ fun c member => phoneUnmarked (phone.2 c member)
  have all : (Sanitize.clean text).toList.all isPhoneChar = true := by
    rw [trimmed,Text.trim,String.toList_ofList,List.all_eq_true]
    exact fun c member => phone.2 c (Text.trimCharsAmong c member)
  rw [isPhone,all,Bool.and_true]

end Rule
end FormBuilder
