import FormBuilder.Text.Lines
import Mathlib.Data.List.Basic
/-! The lines of texts put together. A line feed between two texts keeps their lines apart and ends the last line of the
first, unless that has ended before: then the line feed stands for an empty line, or it belongs to a carriage return. -/
namespace FormBuilder.Text

theorem linesFed (b : List Char) : lines ('\n' :: b) = [] :: lines b := by
  have feed : isLineBreak '\n' = true := by decide
  rw [lines.eq_def]
  simp [feed]

theorem linesBreak {c : Char} (breaks : isLineBreak c = true) {rest : List Char}
    (apart : c = '\r' → rest.head? ≠ some '\n') : lines (c :: rest) = [] :: lines rest := by
  rw [lines.eq_def]
  split
  · contradiction
  · rename_i same
    cases same
    exact absurd rfl (apart rfl)
  · rename_i same
    cases same
    rw [if_pos breaks]

theorem linesLetter {c : Char} (plain : isLineBreak c = false) (rest : List Char) :
    lines (c :: rest) = match lines rest with
      | [] => [[c]]
      | first :: more => (c :: first) :: more := by
  rw [lines.eq_def]
  split
  · contradiction
  · rename_i same
    cases same
    exact absurd plain (by decide)
  · rename_i same
    cases same
    simp only [plain]
    rfl

theorem linesSome (c : Char) (rest : List Char) : lines (c :: rest) ≠ [] := by
  rw [lines.eq_def]
  split
  · contradiction
  · exact List.cons_ne_nil _ _
  · split
    · exact List.cons_ne_nil _ _
    · split <;> exact List.cons_ne_nil _ _

theorem linesJoined (a b : List Char) :
    ∃ gap, (gap = [] ∨ gap = [[]]) ∧ lines (a ++ '\n' :: b) = lines a ++ (gap ++ lines b) := by
  induction a using lines.induct with
  | case1 => exact ⟨[[]],.inr rfl,linesFed b⟩
  | case2 rest ih =>
    obtain ⟨gap,few,parts⟩ := ih
    exact ⟨gap,few,congrArg ([] :: ·) parts⟩
  | case3 c rest other breaks ih =>
    cases rest with
    | nil =>
      have alone : lines [c] = [[]] := linesBreak breaks fun _ => by simp
      rw [alone]
      by_cases carriage : c = '\r'
      · subst carriage
        exact ⟨[],.inl rfl,by simp [lines]⟩
      · have ended : lines (c :: '\n' :: b) = [] :: lines ('\n' :: b) :=
          linesBreak breaks fun same => absurd same carriage
        exact ⟨[[]],.inr rfl,by simp [ended,linesFed]⟩
    | cons d rest =>
      obtain ⟨gap,few,parts⟩ := ih
      have apart : c = '\r' → (d :: rest).head? ≠ some '\n' := by
        intro carriage feed
        exact other rest carriage (by simpa using feed)
      have whole : lines (c :: (d :: rest ++ '\n' :: b)) = [] :: lines (d :: rest ++ '\n' :: b) :=
        linesBreak breaks apart
      exact ⟨gap,few,by rw [List.cons_append,whole,parts,linesBreak breaks apart,List.cons_append]⟩
  | case4 c rest other plain none ih =>
    have empty : rest = [] := by
      cases rest with
      | nil => rfl
      | cons d rest => exact absurd none (linesSome d rest)
    subst empty
    have plain : isLineBreak c = false := by simpa using plain
    exact ⟨[],.inl rfl,by simp [linesLetter plain,linesFed,lines]⟩
  | case5 c rest other plain first more some ih =>
    obtain ⟨gap,few,parts⟩ := ih
    have plain : isLineBreak c = false := by simpa using plain
    refine ⟨gap,few,?_⟩
    rw [List.cons_append,linesLetter plain,linesLetter plain,parts,some]
    rfl

theorem linesFirst {line : List Char} (whole : ∀ c ∈ line, isLineBreak c = false) (rest : List Char) :
    lines (line ++ '\n' :: rest) = line :: lines rest := by
  induction line with
  | nil => exact linesFed rest
  | cons c line ih =>
    obtain ⟨plain,whole⟩ := List.forall_mem_cons.mp whole
    rw [List.cons_append,linesLetter plain,ih whole]

theorem linesLast {line : List Char} (whole : ∀ c ∈ line, isLineBreak c = false) (some : line ≠ []) :
    lines line = [line] := by
  induction line with
  | nil => exact absurd rfl some
  | cons c line ih =>
    obtain ⟨plain,whole⟩ := List.forall_mem_cons.mp whole
    rw [linesLetter plain]
    cases line with
    | nil => rfl
    | cons d line => rw [ih whole (List.cons_ne_nil d line)]

theorem linesWritten {written : List (List Char)} (whole : ∀ line ∈ written, ∀ c ∈ line, isLineBreak c = false)
    (some : ∀ line ∈ written, line ≠ []) : lines (['\n'].intercalate written) = written := by
  induction written with
  | nil => rfl
  | cons line rest ih =>
    obtain ⟨here,later⟩ := List.forall_mem_cons.mp whole
    obtain ⟨given,others⟩ := List.forall_mem_cons.mp some
    cases rest with
    | nil => rw [List.intercalate_singleton,linesLast here given]
    | cons next rest =>
      rw [List.intercalate_cons_cons,List.append_assoc,List.singleton_append,linesFirst here,ih later others]

end FormBuilder.Text
