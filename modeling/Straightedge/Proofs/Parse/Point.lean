import Straightedge.Proofs.Grammar.Lookahead
import Straightedge.Proofs.Number.Range
import Straightedge.Proofs.Parse.Outcome

namespace Straightedge

open Grammar (Denotes Numeral Fixed Free Sign Word)

theorem number_denotes (token : Token) (value : Number) : token.number? = some value ↔ Denotes token value := by
  obtain ⟨category, text, offset⟩ := token
  rw [Token.number_filtered, Option.filter_eq_some_iff]
  constructor
  · rintro ⟨reads, finite⟩
    dsimp only at reads
    split at reads
    · obtain ⟨n, parsed, rfl⟩ := Option.map_eq_some_iff.mp reads
      exact .integer text offset n parsed ((Number.integer_finite n).mp finite)
    · obtain ⟨real, parsed, rfl⟩ := Option.map_eq_some_iff.mp reads
      exact .real text offset real parsed finite
    · cases reads
  · intro denotes
    cases denotes with
    | integer _ _ n reads inRange =>
        exact ⟨congrArg (Option.map Number.integer) reads, (Number.integer_finite n).mpr inRange⟩
    | real _ _ real reads finite => exact ⟨congrArg (Option.map Number.real) reads, finite⟩

def Reads (tokens : List Token) (before after : View) : Prop := before = ⟨tokens ++ after.ahead, after.memory⟩

namespace Rule

theorem realizes_fixed (category : Category) (value : String) :
    Realizes (take (some category) (some value)) fun before token after =>
      ∃ fixed : Fixed category value, token = fixed.token ∧ Reads [fixed.token] before after := by
  refine realizes_congr _ _ _ (realizes_take (some category) (some value)) fun before token after => ?_
  constructor
  · rintro ⟨rfl, categorySame, valueSame⟩
    obtain ⟨_, _, offset⟩ := token
    cases categorySame category rfl
    cases valueSame value rfl
    exact ⟨⟨offset⟩, rfl, rfl⟩
  · rintro ⟨fixed, rfl, rfl⟩
    refine ⟨rfl, ?_, ?_⟩
    · rintro _ ⟨⟩
      rfl
    · rintro _ ⟨⟩
      rfl

theorem realizes_free (category : Category) :
    Realizes (take (some category) none) fun before token after =>
      ∃ free : Free category, token = free.token ∧ Reads [free.token] before after := by
  refine realizes_congr _ _ _ (realizes_take (some category) none) fun before token after => ?_
  constructor
  · rintro ⟨rfl, categorySame, _⟩
    obtain ⟨_, value, offset⟩ := token
    cases categorySame category rfl
    exact ⟨⟨value, offset⟩, rfl, rfl⟩
  · rintro ⟨free, rfl, rfl⟩
    refine ⟨rfl, ?_, ?_⟩
    · rintro _ ⟨⟩
      rfl
    · rintro _ ⟨⟩

theorem realizes_number :
    Realizes number fun before value after =>
      ∃ numeral : Numeral, value = numeral.value ∧ Reads [numeral.token] before after := by
  refine realizes_congr _ _ _ (realizes_bind _ _ _
    (fun token before value after => token.number? = some value ∧ after = before)
    (realizes_take none none) fun token => ?_) fun before value after => ?_
  · cases found : token.number? with
    | some value =>
        refine realizes_congr _ _ _ (realizes_pure value) fun before result after => ?_
        rw [Option.some_inj, eq_comm]
    | none =>
        refine realizes_congr _ _ _ (realizes_fail _ _) fun before result after => ?_
        simp
  · constructor
    · rintro ⟨token, between, ⟨rfl, _⟩, denotes, rfl⟩
      exact ⟨⟨token, value, (number_denotes token value).mp denotes⟩, rfl, rfl⟩
    · rintro ⟨numeral, rfl, rfl⟩
      refine ⟨numeral.token, after, ⟨rfl, ?_⟩, (number_denotes _ _).mpr numeral.denotes, rfl⟩
      constructor
      · rintro _ ⟨⟩
      · rintro _ ⟨⟩

theorem realizes_coords :
    Realizes coords fun before value after =>
      ∃ tree : Grammar.Coords, value = tree.value ∧ Reads tree.tokens before after := by
  refine realizes_congr _ _ _ (realizes_bind _ _ _ _ (realizes_fixed _ _) fun _ =>
    realizes_bind _ _ _ _ realizes_number fun _ => realizes_bind _ _ _ _ (realizes_fixed _ _) fun _ =>
      realizes_bind _ _ _ _ realizes_number fun _ => realizes_bind _ _ _ _ (realizes_fixed _ _) fun _ =>
        realizes_pure _) fun before value after => ?_
  constructor
  · rintro ⟨_, _, ⟨opening, rfl, rfl⟩, _, _, ⟨x, rfl, rfl⟩, _, _, ⟨comma, rfl, rfl⟩, _, _, ⟨y, rfl, rfl⟩,
      _, _, ⟨closing, rfl, rfl⟩, rfl, rfl⟩
    exact ⟨⟨opening, x, comma, y, closing⟩, rfl, rfl⟩
  · rintro ⟨⟨opening, x, comma, y, closing⟩, rfl, rfl⟩
    exact ⟨_, ⟨_, _⟩, ⟨opening, rfl, rfl⟩, _, ⟨_, _⟩, ⟨x, rfl, rfl⟩, _, ⟨_, _⟩, ⟨comma, rfl, rfl⟩, _, ⟨_, _⟩, ⟨y, rfl, rfl⟩,
      _, ⟨_, _⟩, ⟨closing, rfl, rfl⟩, rfl, rfl⟩

theorem realizes_average :
    Realizes average fun before value after => before.memory.table.average = .ok value ∧ after = before := by
  constructor
  · intro session value later done
    exact (realizes_lift session.table.average).sound session value later done
  · intro session value after holds
    exact (realizes_lift session.table.average).complete session value after holds

theorem realizes_moved (jitter : Jitter) (value : Number) :
    Realizes (moved jitter value) fun before result after =>
      value.add (.integer (jitter.draw before.memory.requests.length Jitter.bounds)) = .ok result ∧
        after = ⟨before.ahead, before.memory.table, before.memory.requests ++ [Jitter.bounds]⟩ := by
  refine realizes_congr _ _ _ (realizes_bind _ _ _ _ (realizes_draw jitter) fun _ => realizes_lift _) fun before result after => ?_
  constructor
  · rintro ⟨_, _, ⟨rfl, rfl⟩, added, rfl⟩
    exact ⟨added, rfl⟩
  · rintro ⟨added, rfl⟩
    exact ⟨_, _, ⟨rfl, rfl⟩, added, rfl⟩

-- Two draws are made, the first one for the x axis.
theorem realizes_inferred (jitter : Jitter) :
    Realizes (inferred jitter) fun before value after =>
      (∃ near, before.memory.table.average = .ok near ∧
        near.x.add (.integer (jitter.draw before.memory.requests.length Jitter.bounds)) = .ok value.x ∧
        near.y.add (.integer (jitter.draw (before.memory.requests.length + 1) Jitter.bounds)) = .ok value.y) ∧
      after = ⟨before.ahead, before.memory.table, before.memory.requests ++ [Jitter.bounds, Jitter.bounds]⟩ := by
  refine realizes_congr _ _ _ (realizes_bind _ _ _ _ realizes_average fun near =>
    realizes_bind _ _ _ _ (realizes_moved jitter near.x) fun _ =>
      realizes_bind _ _ _ _ (realizes_moved jitter near.y) fun _ => realizes_pure _) fun before value after => ?_
  constructor
  · rintro ⟨near, _, ⟨averaged, rfl⟩, x, _, ⟨xMoved, rfl⟩, y, _, ⟨yMoved, rfl⟩, rfl, rfl⟩
    rw [List.length_append] at yMoved
    exact ⟨⟨near, averaged, xMoved, yMoved⟩, by simp⟩
  · rintro ⟨⟨near, averaged, xMoved, yMoved⟩, rfl⟩
    refine ⟨near, _, ⟨averaged, rfl⟩, value.x, _, ⟨xMoved, rfl⟩, value.y, _, ⟨?_, rfl⟩, rfl, by simp⟩
    rw [List.length_append]
    exact yMoved

theorem realizes_find (name : String) :
    Realizes (find? name) fun before value after => value = before.memory.table.find? name ∧ after = before :=
  realizes_step (find? name) (fun before => before.memory.table.find? name) id fun session => ⟨session, rfl, rfl⟩

theorem realizes_unwritten (jitter : Jitter) (name : String) :
    Realizes (do match ← find? name with
      | some known => return known
      | none =>
          let new ← inferred jitter
          note (.inferred name new)
          return new : Rule (Coords Number)) fun before value after =>
      Memory.Settles jitter before.memory ⟨name, none⟩ value after.memory.requests ∧
        after.memory.table = before.memory.table ∧ after.ahead = before.ahead := by
  refine realizes_congr _ _ _ (realizes_bind _ _ _
    (fun found before value after => match found with
      | some known => value = known ∧ after = before
      | none => ∃ near, before.memory.table.average = .ok near ∧
          near.x.add (.integer (jitter.draw before.memory.requests.length Jitter.bounds)) = .ok value.x ∧
          near.y.add (.integer (jitter.draw (before.memory.requests.length + 1) Jitter.bounds)) = .ok value.y ∧
          after = ⟨before.ahead, before.memory.table, before.memory.requests ++ [Jitter.bounds, Jitter.bounds]⟩)
    (realizes_find name) fun found => ?_) fun before value after => ?_
  · cases found with
    | some known => exact realizes_pure known
    | none =>
        refine realizes_congr _ _ _ (realizes_bind _ _ _ _ (realizes_inferred jitter) fun new =>
          realizes_bind _ _ _ _ (realizes_note (.inferred name new)) fun _ => realizes_pure new) fun before value after => ?_
        constructor
        · rintro ⟨_, _, ⟨⟨near, averaged, xMoved, yMoved⟩, rfl⟩, _, _, rfl, rfl, rfl⟩
          exact ⟨near, averaged, xMoved, yMoved, rfl⟩
        · rintro ⟨near, averaged, xMoved, yMoved, rfl⟩
          exact ⟨value, _, ⟨⟨near, averaged, xMoved, yMoved⟩, rfl⟩, (), _, rfl, rfl, rfl⟩
  · obtain ⟨ahead, ⟨table, requests⟩⟩ := after
    constructor
    · rintro ⟨found, _, ⟨looked, rfl⟩, outcome⟩
      cases found with
      | some known =>
          obtain ⟨rfl, same⟩ := outcome
          cases same
          exact ⟨.known name value looked.symm, rfl, rfl⟩
      | none =>
          obtain ⟨near, averaged, xMoved, yMoved, same⟩ := outcome
          cases same
          exact ⟨.inferred name near value looked.symm averaged xMoved yMoved, rfl, rfl⟩
    · rintro ⟨settled, rfl, rfl⟩
      refine ⟨before.memory.table.find? name, before, ⟨rfl, rfl⟩, ?_⟩
      cases settled with
      | known _ _ found =>
          rw [found]
          exact ⟨rfl, rfl⟩
      | inferred _ near _ new averaged xMoved yMoved =>
          rw [new]
          exact ⟨near, averaged, xMoved, yMoved, rfl⟩

theorem realizes_resolve (jitter : Jitter) (name : String) :
    Realizes (resolve jitter name) fun before value after =>
      ∃ place : Option Grammar.Coords, before.ahead = place.elim [] Grammar.Coords.tokens ++ after.ahead ∧
        (place = none → after.ahead.head?.map Token.value ≠ some Vocabulary.opening) ∧
        Memory.Settles jitter before.memory ⟨name, place.map Grammar.Coords.value⟩ value after.memory.requests ∧
        after.memory.table = before.memory.table := by
  refine realizes_congr _ _ _ (realizes_bind _ _ _
    (fun front before value after =>
      if front = some Vocabulary.opening then
        ∃ tree : Grammar.Coords, value = tree.value ∧ Reads tree.tokens before after
      else Memory.Settles jitter before.memory ⟨name, none⟩ value after.memory.requests ∧
        after.memory.table = before.memory.table ∧ after.ahead = before.ahead)
    realizes_peek_value fun front => ?_) fun before value after => ?_
  · by_cases opened : front = some Vocabulary.opening
    · simp only [if_pos opened]
      exact realizes_coords
    · simp only [if_neg opened]
      exact realizes_unwritten jitter name
  · constructor
    · rintro ⟨_, _, ⟨rfl, rfl⟩, outcome⟩
      split at outcome
      · obtain ⟨tree, rfl, rfl⟩ := outcome
        exact ⟨some tree, rfl, by simp, .written name tree.value, rfl⟩
      · rename_i closed
        obtain ⟨settled, tableSame, aheadSame⟩ := outcome
        exact ⟨none, aheadSame.symm, fun _ => aheadSame ▸ closed, settled, tableSame⟩
    · obtain ⟨ahead, ⟨table, requests⟩⟩ := after
      obtain ⟨aheadBefore, ⟨tableBefore, requestsBefore⟩⟩ := before
      rintro ⟨place, rfl, closed, settled, rfl⟩
      refine ⟨_, _, ⟨rfl, rfl⟩, ?_⟩
      cases place with
      | none => exact (if_neg (closed rfl)).mpr ⟨settled, rfl, rfl⟩
      | some tree =>
          cases settled
          exact (if_pos rfl).mpr ⟨tree, rfl, rfl⟩

theorem realizes_front :
    Realizes front? fun before value after => value = before.ahead.head? ∧ after = before :=
  realizes_step front? (fun before => before.ahead.head?) id fun session => ⟨session, rfl, rfl⟩

-- Without the keyword a name must follow that does not read as the keyword.
theorem realizes_mark :
    Realizes pointMark fun before _ after =>
      ∃ mark : Option (Word .point), Reads (mark.map Fixed.token).toList before after ∧
        (mark = none → ∃ head, after.ahead.head? = some head ∧ head.category = .identifier ∧
          head.value ≠ Keyword.point.spelling) := by
  refine realizes_congr _ _ _ (realizes_bind _ _ _
    (fun front before _ after => ∃ head, front = some head ∧
      if head.value = Keyword.point.spelling then ∃ word : Word .point, Reads [word.token] before after
      else head.category = .identifier ∧ after = before)
    realizes_front fun front => ?_) fun before value after => ?_
  · cases front with
    | none =>
        refine realizes_congr _ _ _ (realizes_refuse snapshot .pointDefinition) fun before value after => ?_
        simp
    | some head =>
        simp only [Option.some.injEq, exists_eq_left']
        by_cases marked : head.value = Keyword.point.spelling
        · simp only [if_pos marked]
          refine realizes_congr _ _ _ (realizes_bind _ _ _ _ (realizes_fixed _ _) fun _ => realizes_pure ()) fun before value after => ?_
          constructor
          · rintro ⟨_, _, ⟨word, _, reads⟩, _, rfl⟩
            exact ⟨word, reads⟩
          · rintro ⟨word, reads⟩
            exact ⟨_, after, ⟨word, rfl, reads⟩, rfl, rfl⟩
        · simp only [if_neg marked]
          by_cases named : head.category = .identifier
          · simp only [named, true_and]
            exact realizes_congr _ _ _ (realizes_pure ()) fun before value after => by simp
          · simp only [named, false_and]
            exact realizes_fail _ _
  · constructor
    · rintro ⟨_, _, ⟨rfl, rfl⟩, head, found, outcome⟩
      split at outcome
      · obtain ⟨word, reads⟩ := outcome
        exact ⟨some word, reads, by simp⟩
      · rename_i unmarked
        obtain ⟨named, rfl⟩ := outcome
        exact ⟨none, rfl, fun _ => ⟨head, found, named, unmarked⟩⟩
    · rintro ⟨mark, rfl, named⟩
      cases mark with
      | none =>
          obtain ⟨head, found, identifier, unmarked⟩ := named rfl
          exact ⟨some head, _, ⟨found.symm, rfl⟩, head, rfl, (if_neg unmarked).mpr ⟨identifier, rfl⟩⟩
      | some word => exact ⟨_, _, ⟨rfl, rfl⟩, word.token, rfl, (if_pos rfl).mpr ⟨word, rfl⟩⟩

theorem realizes_spelling (category : Category) :
    Realizes (do return (← take (some category) none).value : Rule String) fun before value after =>
      ∃ free : Free category, value = free.value ∧ Reads [free.token] before after := by
  refine realizes_congr _ _ _ (realizes_bind _ _ _ _ (realizes_free _) fun _ => realizes_pure _) fun before value after => ?_
  constructor
  · rintro ⟨_, _, ⟨free, rfl, rfl⟩, rfl, rfl⟩
    exact ⟨free, rfl, rfl⟩
  · rintro ⟨free, rfl, rfl⟩
    exact ⟨_, ⟨_, _⟩, ⟨free, rfl, rfl⟩, rfl, rfl⟩

theorem realizes_point (jitter : Jitter) :
    Realizes (point jitter) fun before value after =>
      ∃ tree : Grammar.Point, before.ahead = tree.tokens ++ after.ahead ∧
        tree.Clear (after.ahead.head?.map Token.value) ∧
        Memory.Places jitter before.memory tree.occurrence value after.memory := by
  refine realizes_congr _ _ _ (realizes_bind _ _ _ _ realizes_mark fun _ =>
    realizes_bind _ _ _ _ (realizes_spelling .identifier) fun name =>
      realizes_bind _ _ _ _ (realizes_resolve jitter name) fun coords =>
        realizes_bind _ _ _ _ (realizes_record name coords) fun _ => realizes_pure _) fun before value after => ?_
  constructor
  · rintro ⟨_, _, ⟨mark, rfl, named⟩, _, found, ⟨name, rfl, rfl⟩, coords, between,
      ⟨place, front, closed, settled, tableSame⟩, _, _, rfl, rfl, rfl⟩
    refine ⟨⟨mark, name, place⟩, ?_, ⟨?_, closed⟩, rfl, settled, ?_⟩
    · simp [Grammar.Point.tokens, front]
    · intro unmarked
      obtain ⟨_, same, _, other⟩ := named unmarked
      cases same
      exact other
    · rw [← tableSame]
  · rintro ⟨⟨mark, name, place⟩, ahead, ⟨unmarked, closed⟩, named, settled, tableSame⟩
    obtain ⟨aheadBefore, memory⟩ := before
    obtain ⟨aheadAfter, ⟨table, requests⟩⟩ := after
    obtain ⟨pointName, coords⟩ := value
    have front : aheadBefore = (mark.map Fixed.token).toList ++
        name.token :: (place.elim [] Grammar.Coords.tokens ++ aheadAfter) := by
      simpa [Grammar.Point.tokens] using ahead
    subst front
    cases named
    cases tableSame
    exact ⟨(), ⟨_, memory⟩, ⟨mark, rfl, fun none => ⟨name.token, rfl, rfl, unmarked none⟩⟩, name.value, ⟨_, memory⟩,
      ⟨name, rfl, rfl⟩, coords, ⟨aheadAfter, ⟨memory.table, requests⟩⟩, ⟨place, rfl, closed, settled, rfl⟩, (), _, rfl, rfl, rfl⟩

end Rule

end Straightedge
