import Straightedge.Proofs.Parse.Twin
import Straightedge.Proofs.Parse.Violation
import Straightedge.Proofs.Parse.Failure
import Straightedge.Proofs.Token.Respaced

namespace Straightedge

inductive Reading.Agree (first second : List Token) : Reading → Reading → Prop where
  | empty (nothing : first = []) (nothingToo : second = []) :
      Agree first second (.empty (.unmet .initial ⟨0, ""⟩)) (.empty (.unmet .initial ⟨0, ""⟩))
  | stopped (expected : Expectation) (index : Nat) (token other : Token) (session later : Session)
      (there : first[index]? = some token) (thereToo : second[index]? = some other)
      (spelled : other.value = token.value) (same : later.standing = session.standing) :
      Agree first second (.stopped (.violation (.unmet expected token.snapshot)) session)
        (.stopped (.violation (.unmet expected other.snapshot)) later)
  | finished (drawing : Drawing) (session later : Session) (same : later.standing = session.standing) :
      Agree first second (.finished drawing session) (.finished drawing later)

theorem zip_spelled (first second : List Token)
    (spelled : second.map (fun token => (token.category, token.value)) = first.map fun token => (token.category, token.value)) :
    ∀ pair ∈ first.zip second, pair.1.Alike pair.2 := by
  intro pair inside
  obtain ⟨index, found⟩ := List.mem_iff_getElem?.mp inside
  obtain ⟨there, thereToo⟩ := List.getElem?_zip_eq_some.mp found
  have same := congrArg (·[index]?) spelled
  simp only [List.getElem?_map, there, thereToo, Option.map_some, Option.some.injEq, Prod.mk.injEq] at same
  exact ⟨same.1.symm, same.2.symm⟩

theorem readings_agree (jitter : Jitter) (bounded : jitter.Bounded) (first second : List Token)
    (spelled : second.map (fun token => (token.category, token.value)) = first.map fun token => (token.category, token.value)) :
    Reading.Agree first second (Reading.ofTokens jitter first) (Reading.ofTokens jitter second) := by
  have lengths : second.length = first.length := by simpa using congrArg List.length spelled
  by_cases nothing : first = []
  · have nothingToo : second = [] := by
      rw [← List.length_eq_zero_iff, lengths, nothing]
      rfl
    rw [nothing, nothingToo]
    exact .empty rfl rfl
  · have filled : second ≠ [] := by
      intro nothingToo
      exact nothing (List.length_eq_zero_iff.mp (by rw [← lengths, nothingToo]; rfl))
    have row : Spelled (first.zip second) := by
      refine ⟨zip_spelled first second spelled, fun none => ?_⟩
      rcases List.zip_eq_nil_iff.mp none with empty | empty
      · exact nothing empty
      · exact filled empty
    have start := twins_start (first.zip second) [] [] [] [] []
    rw [List.map_fst_zip (Nat.le_of_eq lengths.symm), List.map_snd_zip (Nat.le_of_eq lengths)] at start
    have ends := Rule.twin_drawing row jitter _ _ start
    rw [of_tokens_drawing jitter first nothing, of_tokens_drawing jitter second filled]
    rw [Reader.ofTokens, Reader.ofTokens] at *
    generalize found : Rule.drawing jitter ⟨⟨[], first⟩, [], [], []⟩ = left at ends ⊢
    generalize Rule.drawing jitter ⟨⟨[], second⟩, [], [], []⟩ = right at ends ⊢
    have standing : ∀ session later, Twins (first.zip second) [] session later → later.standing = session.standing := by
      intro session later twins
      rw [twins_standing _ [] session later twins, List.length_nil, Nat.zero_add]
      rfl
    cases ends with
    | passed drawing _ session later same twins =>
        cases same
        exact .finished drawing session later (standing session later twins)
    | stopped fault fault' session later same twins =>
        cases same with
        | violation expected pair inside =>
            obtain ⟨index, found⟩ := List.mem_iff_getElem?.mp inside
            obtain ⟨there, thereToo⟩ := List.getElem?_zip_eq_some.mp found
            exact .stopped expected index pair.1 pair.2 session later there thereToo (row.alike pair inside).2.symm
              (standing session later twins)
        | overflow cause => exact absurd found (Rule.drawing_in_range bounded first cause session)

theorem layout_carries_no_meaning (jitter : Jitter) (bounded : jitter.Bounded) (source : String) (tokens : List Token)
    (split : tokenize source = .ok tokens) : ∃ again, tokenize (spaced tokens) = .ok again ∧
      again.map (fun token => (token.category, token.value)) = tokens.map (fun token => (token.category, token.value)) ∧
        Reading.Agree tokens again (Reading.ofSource jitter source) (Reading.ofSource jitter (spaced tokens)) := by
  have spacedSplit := spaced_tokens source tokens split
  have spelled := respace_spelled 0 tokens
  refine ⟨respace 0 tokens, spacedSplit, spelled, ?_⟩
  rw [Reading.ofSource, Reading.ofSource, split, spacedSplit]
  exact readings_agree jitter bounded tokens _ spelled

-- The long s is a small form of the letter S.
theorem small_letters_agree : (Jitter.cycle [3, 4]).Bounded ∧
    tokenize "draw ſegment A A." = .ok Grammar.sharedSegment.tokens ∧ spaced Grammar.sharedSegment.tokens = "DRAW SEGMENT A A ." ∧
    ∃ again, tokenize "DRAW SEGMENT A A ." = .ok again ∧
      Reading.Agree Grammar.sharedSegment.tokens again (Reading.ofSource (.cycle [3, 4]) "draw ſegment A A.")
        (Reading.ofSource (.cycle [3, 4]) "DRAW SEGMENT A A .") := by
  have split : tokenize "draw ſegment A A." = .ok Grammar.sharedSegment.tokens := by decide +kernel
  have plain : spaced Grammar.sharedSegment.tokens = "DRAW SEGMENT A A ." := by rfl
  have bounded : (Jitter.cycle [3, 4]).Bounded := cycle_bounded _ (by decide)
  obtain ⟨again, splitAgain, _, agree⟩ := layout_carries_no_meaning _ bounded _ _ split
  rw [plain] at splitAgain agree
  exact ⟨bounded, split, plain, again, splitAgain, agree⟩

end Straightedge
