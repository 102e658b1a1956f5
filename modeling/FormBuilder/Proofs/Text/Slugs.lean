import FormBuilder.Mint
import FormBuilder.Text.Slug
/-! What slugs are made of: words of small letters and digits, joined by single dashes. -/
namespace FormBuilder

namespace Text

-- `[a-z0-9]+(-[a-z0-9]+)*`
inductive Slug : List Char → Prop where
  | word {w : List Char} (given : w ≠ []) (own : ∀ c ∈ w, isSlugLetter c = true) : Slug w
  | joined {w rest : List Char} (given : w ≠ []) (own : ∀ c ∈ w, isSlugLetter c = true) (later : Slug rest) :
      Slug (w ++ '-' :: rest)

theorem Slug.letter {c : Char} (own : isSlugLetter c = true) : Slug [c] := .word (List.cons_ne_nil c []) (by simpa)

theorem Slug.cons {c : Char} {cs : List Char} (own : isSlugLetter c = true) (slug : Slug cs) : Slug (c :: cs) := by
  cases slug with
  | word given others => exact .word (List.cons_ne_nil c cs) (List.forall_mem_cons.mpr ⟨own,others⟩)
  | @joined w rest given others later =>
    exact .joined (w := c :: w) (List.cons_ne_nil c w) (List.forall_mem_cons.mpr ⟨own,others⟩) later

theorem Slug.append {before after : List Char} (left : Slug before) (right : Slug after) :
    Slug (before ++ '-' :: after) := by
  induction left with
  | word given own => exact .joined given own right
  | @joined w rest given own later ih =>
    rw [List.append_assoc]
    exact .joined given own ih

theorem dashedLater {c : Char} (own : isSlugLetter c = true) (owed : Bool) (cs : List Char) :
    Slug (c :: dashed true owed cs) := by
  induction cs generalizing c owed with
  | nil => exact .letter own
  | cons d rest ih =>
    unfold dashed
    split
    · rename_i letter
      split
      · exact (Slug.letter own).append (ih letter false)
      · exact (ih letter false).cons own
    · exact ih own _

theorem dashedSlug (owed : Bool) (cs : List Char) : dashed false owed cs = [] ∨ Slug (dashed false owed cs) := by
  induction cs generalizing owed with
  | nil => exact .inl rfl
  | cons c rest ih =>
    unfold dashed
    split
    · rename_i letter
      exact .inr (dashedLater letter false rest)
    · exact ih _

theorem slugShape (text : String) (given : (slug text).isEmpty = false) : Slug (slug text).toList := by
  have shape := dashedSlug false ((text.toList.flatMap asciiOf).map lowerAscii)
  rw [slug,String.toList_ofList]
  refine shape.resolve_left fun none => ?_
  simp [slug,none] at given

theorem digitLetter : ∀ d < 16, isSlugLetter (Nat.digitChar d) = true := by decide

theorem digitsLetters {base : Nat} (some : 1 < base) (few : base ≤ 16) (n : Nat) :
    ∀ c ∈ Nat.toDigits base n, isSlugLetter c = true := by
  induction n using Nat.strongRecOn with
  | ind n ih =>
    intro c member
    rw [Nat.toDigits_eq_if some] at member
    split at member
    · rename_i last
      rw [List.mem_singleton.mp member]
      exact digitLetter n (Nat.lt_of_lt_of_le last few)
    · rename_i more
      rcases List.mem_append.mp member with earlier | last
      · exact ih (n / base) (Nat.div_lt_self (by omega) some) c earlier
      · rw [List.mem_singleton.mp last]
        exact digitLetter _ (Nat.lt_of_lt_of_le (Nat.mod_lt n (by omega)) few)

theorem hexTextSlug (width n : Nat) : Slug (hexText width n) := by
  refine .word (List.append_ne_nil_of_right_ne_nil _ Nat.toDigits_ne_nil) fun c member => ?_
  rcases List.mem_append.mp member with zero | digit
  · rw [List.eq_of_mem_replicate zero]
    rfl
  · exact digitsLetters (by decide) (by decide) n c digit

theorem decimalSlug (n : Nat) : Slug (toString n).toList := by
  rw [Nat.toString_eq_ofList_toDigits,String.toList_ofList]
  exact .word Nat.toDigits_ne_nil (digitsLetters (by decide) (by decide) n)

end Text

theorem Mint.slugShape {m : Mint} (clock : 0 ≤ m.millis) {base : String} (shape : Text.Slug base.toList) :
    Text.Slug (m.slug base).1.toList := by
  obtain ⟨n,moment⟩ := Int.eq_ofNat_of_zero_le clock
  have shown : (toString m.millis).toList = (toString n).toList := by
    rw [moment]
    rfl
  rw [slug,String.toList_ofList,shown]
  exact (shape.append (Text.decimalSlug n)).append (Text.hexTextSlug 5 _)

end FormBuilder
