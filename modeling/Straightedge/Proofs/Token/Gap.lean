import Mathlib.Data.List.TakeWhile
import Straightedge.Proofs.Text.Character
import Straightedge.Token.Scan

namespace Straightedge

open Text

inductive Gap : List Char → List Char → Prop where
  | empty (rest : List Char) : Gap [] rest
  | blank (c : Char) (gap rest : List Char) (blank : isBlank c = true) (tail : Gap gap rest) : Gap (c :: gap) rest
  | comment (body gap rest : List Char) (inLine : ∀ c ∈ body, c ≠ '\n') (ends : ∀ c ∈ (gap ++ rest).head?, c = '\n')
      (tail : Gap gap rest) : Gap (commentMark :: (body ++ gap)) rest

theorem gap_length_comment (source : List Char) :
    gapLength true source = (source.takeWhile fun c => decide (c ≠ '\n')).length +
      gapLength false (source.dropWhile fun c => decide (c ≠ '\n')) := by
  induction source with
  | nil => rfl
  | cons c rest ih =>
      by_cases ends : c = '\n'
      · -- The line end closes the comment, and is itself a blank.
        subst ends
        simp [gapLength, is_blank_newline]
      · simp [gapLength, ends, ih]
        omega

theorem gap_length_mark (rest : List Char) : gapLength false (commentMark :: rest) = gapLength true rest + 1 := by
  have noBlank : isBlank commentMark = false := by decide
  simp [gapLength, noBlank]

theorem take_line (body tail : List Char) (inLine : ∀ c ∈ body, c ≠ '\n') (ends : ∀ c ∈ tail.head?, c = '\n') :
    (body ++ tail).takeWhile (fun c => decide (c ≠ '\n')) = body ∧
      (body ++ tail).dropWhile (fun c => decide (c ≠ '\n')) = tail := by
  have passes : ∀ c ∈ body, decide (c ≠ '\n') = true := fun c inside => decide_eq_true (inLine c inside)
  have stops : ∀ c ∈ tail.head?, decide (c ≠ '\n') = false := fun c head => decide_eq_false (not_not_intro (ends c head))
  exact taken_whole _ body tail passes stops

theorem gap_length_gap (gap rest : List Char) (isGap : Gap gap rest) :
    gapLength false (gap ++ rest) = gap.length + gapLength false rest := by
  induction isGap with
  | empty rest => simp
  | blank c gap rest blank _ ih =>
      simp only [List.cons_append, gapLength, if_pos blank, ih, List.length_cons]
      omega
  | comment body gap rest inLine ends _ ih =>
      -- The body has no line end and what follows it is one, so the comment is measured as its body.
      obtain ⟨line, after⟩ := take_line body (gap ++ rest) inLine ends
      rw [List.cons_append, List.append_assoc, gap_length_mark, gap_length_comment, line, after, ih]
      simp only [List.length_cons, List.length_append]
      omega

theorem gap_of_length (source : List Char) :
    Gap (source.take (gapLength false source)) (source.drop (gapLength false source)) := by
  match source with
  | [] => exact .empty []
  | c :: rest =>
      by_cases blank : isBlank c = true
      · have size : gapLength false (c :: rest) = gapLength false rest + 1 := by rw [gapLength, if_pos blank]
        rw [size]
        exact .blank c _ _ blank (gap_of_length rest)
      · by_cases marked : c = commentMark
        · subst marked
          -- The comment takes the rest of its line, and the gap goes on from there.
          let after := rest.dropWhile fun c => decide (c ≠ '\n')
          let line := rest.takeWhile fun c => decide (c ≠ '\n')
          have split : line ++ after = rest := List.takeWhile_append_dropWhile
          have shorter : after.length ≤ rest.length := (List.dropWhile_suffix _).length_le
          have size : gapLength false (commentMark :: rest) = line.length + gapLength false after + 1 := by
            rw [gap_length_mark, gap_length_comment]
          have tail := gap_of_length after
          have taken : (commentMark :: rest).take (gapLength false (commentMark :: rest)) =
              commentMark :: (line ++ after.take (gapLength false after)) := by
            rw [size, List.take_succ_cons, ← split, List.take_length_add_append]
          have dropped : (commentMark :: rest).drop (gapLength false (commentMark :: rest)) =
              after.drop (gapLength false after) := by
            rw [size, List.drop_succ_cons, ← split, List.drop_length_add_append]
          rw [taken, dropped]
          refine .comment line _ _ (fun d inside => ?_) (fun d head => ?_) tail
          · exact of_decide_eq_true (List.mem_takeWhile_imp (p := fun c => decide (c ≠ '\n')) inside)
          · rw [List.take_append_drop] at head
            have stops := List.head?_dropWhile_not (fun c => decide (c ≠ '\n')) rest
            rw [Option.mem_def.mp head] at stops
            simpa using stops
        · have none : gapLength false (c :: rest) = 0 := by rw [gapLength, if_neg blank, if_neg marked]
          rw [none]
          exact .empty _
termination_by source.length
decreasing_by
  · exact Nat.lt_succ_self _
  · exact Nat.lt_succ_of_le shorter

end Straightedge
