import FormBuilder.Proofs.Sanitize.Strings
import FormBuilder.Proofs.Text.Keys
/-! What cleaning makes of a text, whatever reads its markup: a text that no cleaning changes any further. -/
namespace FormBuilder

namespace Text

structure Trimmed (cs : List Char) : Prop where
  starts : ∀ c, cs.head? = some c → isBlank c = false
  ends : ∀ c, cs.getLast? = some c → isBlank c = false

theorem dropBlankStarts (cs : List Char) : ∀ c, (dropBlank cs).head? = some c → isBlank c = false := by
  intro c first
  obtain ⟨rest,left⟩ := List.head?_eq_some_iff.mp first
  exact dropBlankHead left

theorem trimCharsTrimmed (cs : List Char) : Trimmed (trimChars cs) := by
  constructor
  · intro c first
    obtain ⟨rest,left⟩ := List.head?_eq_some_iff.mp first
    have inside : trimChars cs <+: dropBlank cs := by
      have suffix : dropBlank (dropBlank cs).reverse <:+ (dropBlank cs).reverse := List.dropWhile_suffix _
      rw [← List.reverse_prefix,List.reverse_reverse] at suffix
      exact suffix
    obtain ⟨more,whole⟩ := inside
    refine dropBlankStarts cs c ?_
    rw [← whole,left]
    rfl
  · intro c last
    rw [trimChars,List.getLast?_reverse] at last
    exact dropBlankStarts _ c last

theorem Trimmed.same {cs : List Char} (trimmed : Trimmed cs) : trimChars cs = cs := by
  have back : ∀ c, cs.reverse.head? = some c → isBlank c = false := fun c first =>
    trimmed.ends c (List.head?_reverse.symm.trans first)
  rw [trimChars,dropBlankSame trimmed.starts,dropBlankSame back,List.reverse_reverse]

end Text

namespace Sanitize
variable (reader : String → Option String)

structure Neat (s : String) : Prop where
  unmarked : Unmarked s
  trimmed : Text.Trimmed s.toList

theorem cleanWithNeat (text : String) : Neat (cleanWith reader text) :=
  ⟨cleanWithUnmarked reader text,by rw [cleanWith,String.toList_ofList]; exact Text.trimCharsTrimmed _⟩

theorem Neat.same {s : String} (neat : Neat s) : cleanWith reader s = s := by
  rw [cleanUnmarked reader neat.unmarked,Text.trim,neat.trimmed.same,String.ofList_toList]

def cleanOptionalWith (text : Option String) : Option String :=
  (text.map (cleanWith reader)).filter (fun s => !s.isEmpty)

theorem cleanOptionalNeat {text : Option String} {s : String} (left : cleanOptionalWith reader text = some s) :
    Neat s ∧ s ≠ "" := by
  obtain ⟨cleaned,given⟩ := Option.filter_eq_some_iff.mp left
  obtain ⟨t,-,rfl⟩ := Option.map_eq_some_iff.mp cleaned
  exact ⟨cleanWithNeat reader t,by simpa using given⟩

theorem cleanOptionalSame {text : Option String} (neat : ∀ s, text = some s → Neat s ∧ s ≠ "") :
    cleanOptionalWith reader text = text := by
  cases text with
  | none => rfl
  | some s =>
    obtain ⟨tidy,given⟩ := neat s rfl
    rw [cleanOptionalWith,Option.map_some,tidy.same reader]
    exact Option.filter_eq_some_iff.mpr ⟨rfl,by simpa using given⟩

section
variable {f g : String → String}

theorem textSettles (settled : ∀ t, g (f t) = f t) (v : Value) : textWith g (textWith f v) = textWith f v := by
  cases v with
  | str t => exact congrArg Value.str (settled t)
  | _ => rfl

theorem valueSettles (settled : ∀ t, g (f t) = f t) (v : Value) : valueWith g (valueWith f v) = valueWith f v := by
  cases v with
  | str t => exact congrArg Value.str (settled t)
  | list items =>
    simp only [valueWith,List.map_map]
    exact congrArg Value.list (List.map_congr_left fun v _ => textSettles settled v)
  | object entries =>
    simp only [valueWith,List.map_map]
    exact congrArg Value.object (List.map_congr_left fun e _ => congrArg (Prod.mk e.1) (textSettles settled e.2))
  | null | bool b | int n | float x => rfl

theorem submissionSettles (settled : ∀ t, g (f t) = f t) (data : Object) :
    submissionWith g (submissionWith f data) = submissionWith f data := by
  rw [submissionWith,submissionWith,List.map_map]
  exact List.map_congr_left fun e _ => congrArg (Prod.mk e.1) (valueSettles settled e.2)

end

/-- Cleaning leaves no bracket in a text and no blank at either end of it, whatever is understood of its markup and
also where nothing is; nothing given counts as an empty text. A second cleaning changes neither texts nor submissions,
even if it understands markup in another way: it leaves alone just the texts that are neat. -/
theorem cleaningSettles (reader again : String → Option String) :
    (∀ text : Option String, Neat (cleanWith reader (text.getD ""))) ∧
    (∀ text, cleanWith again (cleanWith reader text) = cleanWith reader text) ∧
    (∀ data, submissionWith (cleanWith again) (submissionWith (cleanWith reader) data) =
      submissionWith (cleanWith reader) data) ∧
    ∀ s, cleanWith again s = s ↔ Neat s := by
  have twice (text : String) : cleanWith again (cleanWith reader text) = cleanWith reader text :=
    (cleanWithNeat reader text).same again
  refine ⟨fun text => cleanWithNeat reader _,twice,submissionSettles twice,fun s => ⟨fun left => ?_,Neat.same again⟩⟩
  rw [← left]
  exact cleanWithNeat again s

end Sanitize
end FormBuilder
