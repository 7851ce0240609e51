import Straightedge.Proofs.Parse.Figure
import Straightedge.Proofs.Parse.Twin
import Straightedge.Proofs.Place.Axis

namespace Straightedge

def Token.Opens (token : Token) : Prop := token.category = .separator ∧ token.value = Vocabulary.opening

instance : DecidablePred Token.Opens := fun token =>
  inferInstanceAs (Decidable (token.category = .separator ∧ token.value = Vocabulary.opening))

-- The two numbers behind every opening bracket in each other's place.
def exchangeAxes : List Token → List Token
  | mark :: x :: comma :: y :: rest =>
      if mark.Opens then mark :: y :: comma :: x :: exchangeAxes rest
      else mark :: exchangeAxes (x :: comma :: y :: rest)
  | tokens => tokens

-- Where the tokens stand does not matter.
inductive Recast (same : Coords Token → Coords Token → Prop) : List Token → List Token → Prop where
  | short (tokens : List Token) (few : tokens.length < 4) : Recast same tokens tokens
  | clause (mark x comma y mark' x' comma' y' : Token) (rest rest' : List Token) (opens : mark.Opens)
      (marks : mark.Alike mark') (commas : comma.Alike comma') (pair : same ⟨x, y⟩ ⟨x', y'⟩) (tail : Recast same rest rest') :
      Recast same (mark :: x :: comma :: y :: rest) (mark' :: x' :: comma' :: y' :: rest')
  | other (token token' : Token) (rest rest' : List Token) (closed : ¬token.Opens) (alike : token.Alike token')
      (tail : Recast same rest rest') : Recast same (token :: rest) (token' :: rest')

theorem token_alike (token : Token) : token.Alike token := ⟨rfl, rfl⟩

theorem exchange_recast (tokens : List Token) : Recast (fun pair other => other = pair.exchanged) tokens (exchangeAxes tokens) := by
  fun_induction exchangeAxes tokens with
  | case1 mark x comma y rest opens ih =>
      exact .clause mark x comma y mark y comma x rest _ opens (token_alike mark) (token_alike comma) rfl ih
  | case2 mark x comma y rest closed ih => exact .other mark mark _ _ closed (token_alike mark) ih
  | case3 tokens few =>
      refine .short tokens ?_
      match tokens with
      | [] | [_] | [_, _] | [_, _, _] => simp
      | mark :: x :: comma :: y :: rest => exact (few mark x comma y rest rfl).elim

section

variable {same : Coords Token → Coords Token → Prop}

theorem recast_closed (token : Token) (rest tokens : List Token) (recast : Recast same (token :: rest) tokens)
    (closed : ¬token.Opens) : ∃ token' rest', tokens = token' :: rest' ∧ token.Alike token' ∧ Recast same rest rest' := by
  cases recast with
  | short _ few => exact ⟨token, rest, rfl, token_alike token, .short rest (Nat.lt_of_succ_lt few)⟩
  | clause _ _ _ _ _ _ _ _ _ _ opens => exact absurd opens closed
  | other _ token' _ rest' _ alike tail => exact ⟨token', rest', rfl, alike, tail⟩

theorem recast_opened (mark x comma y : Token) (rest tokens : List Token)
    (recast : Recast same (mark :: x :: comma :: y :: rest) tokens) (opens : mark.Opens) :
    ∃ mark' x' comma' y' rest', tokens = mark' :: x' :: comma' :: y' :: rest' ∧ mark.Alike mark' ∧ comma.Alike comma' ∧
      same ⟨x, y⟩ ⟨x', y'⟩ ∧ Recast same rest rest' := by
  cases recast with
  | short _ few =>
      simp only [List.length_cons] at few
      omega
  | clause _ _ _ _ mark' x' comma' y' _ rest' _ marks commas pair tail =>
      exact ⟨mark', x', comma', y', rest', rfl, marks, commas, pair, tail⟩
  | other _ _ _ _ closed => exact absurd opens closed

theorem recast_next (tokens tokens' : List Token) (recast : Recast same tokens tokens') :
    tokens'.head?.map Token.value = tokens.head?.map Token.value := by
  cases recast with
  | short => rfl
  | clause _ _ _ _ _ _ _ _ _ _ _ marks => exact congrArg some marks.2.symm
  | other _ _ _ _ _ alike => exact congrArg some alike.2.symm

end

def Coords.Denotes (pair : Coords Token) (coords : Coords Number) : Prop :=
  pair.x.number? = some coords.x ∧ pair.y.number? = some coords.y

-- Numbers are replaced by numbers, and the axes of every pair keep their values.
def Renders (same : Coords Token → Coords Token → Prop) (pairs : Axis → Axis → Prop) : Prop :=
  ∀ pair pair' coords, same pair pair' → pair.Denotes coords → ∃ coords', pair'.Denotes coords' ∧ coords.Agree pairs coords'

theorem fixed_alike (category : Category) (value : String) (fixed : Grammar.Fixed category value) (token : Token)
    (alike : fixed.token.Alike token) : ∃ other : Grammar.Fixed category value, token = other.token := by
  obtain ⟨_, _, offset⟩ := token
  obtain ⟨rfl, rfl⟩ := alike
  exact ⟨⟨offset⟩, rfl⟩

theorem free_alike (category : Category) (free : Grammar.Free category) (token : Token) (alike : free.token.Alike token) :
    ∃ other : Grammar.Free category, token = other.token ∧ other.value = free.value := by
  obtain ⟨_, _, offset⟩ := token
  obtain ⟨rfl, rfl⟩ := alike
  exact ⟨⟨free.value, offset⟩, rfl, rfl⟩

section

variable {same : Coords Token → Coords Token → Prop} {pairs : Axis → Axis → Prop} (renders : Renders same pairs)

include renders

theorem recast_coords (tree : Grammar.Coords) (rest tokens : List Token) (recast : Recast same (tree.tokens ++ rest) tokens) :
    ∃ (tree' : Grammar.Coords) (rest' : List Token), tokens = tree'.tokens ++ rest' ∧ Recast same rest rest' ∧
      tree.value.Agree pairs tree'.value := by
  obtain ⟨opening, x, comma, y, closing⟩ := tree
  obtain ⟨_, x', _, y', _, rfl, marks, commas, pair, tail⟩ := recast_opened _ _ _ _ _ _ recast ⟨rfl, rfl⟩
  obtain ⟨_, rest', rfl, ends, behind⟩ := recast_closed _ _ _ tail fun opens =>
    (show Vocabulary.closing ≠ Vocabulary.opening by decide) opens.2
  obtain ⟨opening', rfl⟩ := fixed_alike _ _ opening _ marks
  obtain ⟨comma', rfl⟩ := fixed_alike _ _ comma _ commas
  obtain ⟨closing', rfl⟩ := fixed_alike _ _ closing _ ends
  obtain ⟨coords', ⟨reads, readsToo⟩, agree⟩ := renders _ _ ⟨x.value, y.value⟩ pair
    ⟨(number_denotes _ _).mpr x.denotes, (number_denotes _ _).mpr y.denotes⟩
  exact ⟨⟨opening', ⟨x', coords'.x, (number_denotes _ _).mp reads⟩, comma', ⟨y', coords'.y, (number_denotes _ _).mp readsToo⟩,
    closing'⟩, rest', rfl, behind, agree⟩

theorem recast_place (coords : Option Grammar.Coords) (rest tokens : List Token)
    (recast : Recast same (coords.elim [] Grammar.Coords.tokens ++ rest) tokens) :
    ∃ (coords' : Option Grammar.Coords) (rest' : List Token), tokens = coords'.elim [] Grammar.Coords.tokens ++ rest' ∧
      Recast same rest rest' ∧
      Option.Rel (Coords.Agree pairs) (coords.map Grammar.Coords.value) (coords'.map Grammar.Coords.value) := by
  cases coords with
  | none => exact ⟨none, tokens, rfl, recast, .none⟩
  | some tree =>
      obtain ⟨tree', rest', split, behind, agree⟩ := recast_coords renders tree rest tokens recast
      exact ⟨some tree', rest', split, behind, .some agree⟩

theorem recast_point (tree : Grammar.Point) (rest tokens : List Token) (recast : Recast same (tree.tokens ++ rest) tokens) :
    ∃ (tree' : Grammar.Point) (rest' : List Token), tokens = tree'.tokens ++ rest' ∧ Recast same rest rest' ∧
      tree.occurrence.Agree pairs tree'.occurrence ∧
      (tree.Clear (rest.head?.map Token.value) → tree'.Clear (rest'.head?.map Token.value)) := by
  obtain ⟨keyword, name, coords⟩ := tree
  obtain ⟨keyword', behind, rfl, marked, tail⟩ : ∃ (keyword' : Option (Grammar.Word .point)) (behind : List Token),
      tokens = (keyword'.map Grammar.Fixed.token).toList ++ behind ∧ (keyword' = none → keyword = none) ∧
        Recast same (name.token :: (coords.elim [] Grammar.Coords.tokens ++ rest)) behind := by
    cases keyword with
    | none => exact ⟨none, tokens, rfl, id, recast⟩
    | some word =>
        obtain ⟨_, behind, rfl, alike, tail⟩ := recast_closed _ _ _ recast fun opens => by cases opens.1
        obtain ⟨word', rfl⟩ := fixed_alike _ _ word _ alike
        exact ⟨some word', behind, rfl, nofun, tail⟩
  obtain ⟨_, _, rfl, alike, place⟩ := recast_closed _ _ _ tail fun opens => by cases opens.1
  obtain ⟨name', rfl, called⟩ := free_alike _ name _ alike
  obtain ⟨coords', rest', rfl, recastRest, places⟩ := recast_place renders coords rest _ place
  refine ⟨⟨keyword', name', coords'⟩, rest', ?_, recastRest, ⟨called.symm, places⟩, fun clear => ⟨fun unmarked => ?_, fun bare => ?_⟩⟩
  · rw [Grammar.Point.tokens, List.append_assoc]
    rfl
  · exact called ▸ clear.1 (marked unmarked)
  · cases bare
    cases coords with
    | some tree => cases places
    | none =>
        rw [recast_next rest rest' recastRest]
        exact clear.2 rfl

end

end Straightedge
