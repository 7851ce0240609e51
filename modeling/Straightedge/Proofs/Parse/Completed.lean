import Straightedge.Proofs.Parse.Resolve

namespace Straightedge

def completed : Nat → List Token → List Occurrence
  | 0, _ => []
  | _ + 1, [] => []
  | count + 1, token :: rest =>
      if token.category = .identifier ∧ (rest.head?.map Token.value = some Vocabulary.opening → 5 ≤ count) then
        ⟨token.value, writtenAhead? rest⟩ :: completed count rest
      else completed count rest

def Silent (tokens : List Token) : Prop := ∀ token ∈ tokens, token.category ≠ .identifier

theorem completed_nothing (tokens : List Token) : completed 0 tokens = [] := by
  cases tokens <;> rfl

theorem completed_other (token : Token) (rest : List Token) (count : Nat) (other : token.category ≠ .identifier) :
    completed (count + 1) (token :: rest) = completed count rest := by
  rw [completed, if_neg fun both => other both.1]

theorem completed_silent (text ahead : List Token) (count : Nat) (silent : Silent text) :
    completed (text.length + count) (text ++ ahead) = completed count ahead := by
  induction text with
  | nil => rw [List.length_nil, Nat.zero_add, List.nil_append]
  | cons token text ih =>
      obtain ⟨other, rest⟩ := List.forall_mem_cons.mp silent
      rw [List.length_cons, Nat.add_right_comm, List.cons_append, completed_other token _ _ other, ih rest]

theorem completed_waiting (name : Token) (text ahead : List Token) (silent : Silent text) (short : text.length < 5)
    (opened : (text ++ ahead).head?.map Token.value = some Vocabulary.opening) :
    completed (name :: text).length ((name :: text) ++ ahead) = [] := by
  rw [List.length_cons, List.cons_append, completed, if_neg fun both => Nat.not_le_of_lt short (both.2 opened)]
  exact (completed_silent text ahead 0 silent).trans (completed_nothing ahead)

namespace Grammar

theorem coords_silent (coords : Coords) : Silent coords.tokens := by
  simp only [Silent, Coords.tokens, List.forall_mem_cons]
  exact ⟨Category.noConfusion, numeral_other _, Category.noConfusion, numeral_other _, Category.noConfusion,
    fun _ none => (List.not_mem_nil none).elim⟩

theorem unopened_of_value (ahead : List Token) (closed : ahead.head?.map Token.value ≠ some Vocabulary.opening) :
    Unopened ahead := by
  intro sign head
  exact closed (by rw [head]; rfl)

theorem completed_point (point : Point) (ahead : List Token) (count : Nat)
    (clear : point.Clear (ahead.head?.map Token.value)) :
    completed (point.tokens.length + count) (point.tokens ++ ahead) = point.occurrence :: completed count ahead := by
  obtain ⟨mark, name, coords⟩ := point
  have named : completed ((name.token :: coords.elim [] Coords.tokens).length + count)
      (name.token :: coords.elim [] Coords.tokens ++ ahead) = ⟨name.value, coords.map Coords.value⟩ :: completed count ahead := by
    rw [List.length_cons, Nat.add_right_comm, List.cons_append, completed]
    cases coords with
    | none =>
        have closed := clear.2 rfl
        rw [Option.elim_none, List.nil_append, if_pos ⟨rfl, fun opened => absurd opened closed⟩,
          written_ahead_unopened ahead (unopened_of_value ahead closed), List.length_nil, Nat.zero_add]
        rfl
    | some coords =>
        have whole : 5 ≤ coords.tokens.length + count := Nat.le_add_right 5 count
        rw [Option.elim_some, if_pos ⟨rfl, fun _ => whole⟩, written_ahead_coords,
          completed_silent coords.tokens ahead count (coords_silent coords)]
        rfl
  cases mark with
  | none => exact named
  | some word =>
      have silent : Silent [word.token] := List.forall_mem_singleton.mpr Category.noConfusion
      have behind := completed_silent [word.token] (name.token :: coords.elim [] Coords.tokens ++ ahead)
        ((name.token :: coords.elim [] Coords.tokens).length + count) silent
      rw [named, ← Nat.add_assoc, ← List.length_append, ← List.append_assoc] at behind
      exact behind

end Grammar

end Straightedge
