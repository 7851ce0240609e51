import Straightedge.Proofs.Grammar.Derivation

namespace Straightedge.Grammar

theorem fixed_token_injective (category : Category) (value : String) (a b : Fixed category value)
    (same : a.token = b.token) : a = b := by
  cases a
  cases b
  cases same
  rfl

theorem free_token_injective (category : Category) (a b : Free category) (same : a.token = b.token) : a = b := by
  cases a
  cases b
  cases same
  rfl

theorem denotes_unique (token : Token) (a b : Number) (left : Denotes token a) (right : Denotes token b) :
    a = b := by
  cases left with
  | integer text offset n reads =>
      cases right with
      | integer _ _ m again =>
          rw [reads] at again
          cases again
          rfl
  | real text offset value reads =>
      cases right with
      | real _ _ other again =>
          rw [reads] at again
          cases again
          rfl

theorem numeral_token_injective (a b : Numeral) (same : a.token = b.token) : a = b := by
  obtain ⟨token, value, denotes⟩ := a
  obtain ⟨token', value', denotes'⟩ := b
  have tokenSame : token = token' := same
  subst tokenSame
  have valueSame := denotes_unique token value value' denotes denotes'
  subst valueSame
  rfl

def Unopened (rest : List Token) : Prop := ∀ mark : Sign Vocabulary.opening, rest.head? ≠ some mark.token

theorem point_unopened (point : Point) (rest : List Token) : Unopened (point.tokens ++ rest) := by
  intro mark same
  obtain ⟨keyword, name, coords⟩ := point
  cases keyword <;> cases same

theorem line_unopened (line : Line) (rest : List Token) : Unopened (line.tokens ++ rest) := by
  intro mark same
  cases same

theorem terminator_unopened (terminator : Sign Vocabulary.terminator) (rest : List Token) :
    Unopened (terminator.token :: rest) := by
  intro mark same
  have spelled : Vocabulary.terminator = Vocabulary.opening := congrArg Token.value (Option.some.inj same)
  exact absurd spelled (by decide)

theorem coords_unique (a b : Coords) (rest rest' : List Token) (same : a.tokens ++ rest = b.tokens ++ rest') :
    a = b ∧ rest = rest' := by
  obtain ⟨opening, x, comma, y, closing⟩ := a
  obtain ⟨opening', x', comma', y', closing'⟩ := b
  simp only [Coords.tokens, List.cons_append, List.nil_append, List.cons.injEq] at same
  obtain ⟨openingSame, xSame, commaSame, ySame, closingSame, restSame⟩ := same
  rw [fixed_token_injective _ _ _ _ openingSame, numeral_token_injective _ _ xSame,
    fixed_token_injective _ _ _ _ commaSame, numeral_token_injective _ _ ySame,
    fixed_token_injective _ _ _ _ closingSame]
  exact ⟨rfl, restSame⟩

theorem place_unique (a b : Option Coords) (rest rest' : List Token) (closed : Unopened rest)
    (closed' : Unopened rest') (same : a.elim [] Coords.tokens ++ rest = b.elim [] Coords.tokens ++ rest') :
    a = b ∧ rest = rest' := by
  cases a with
  | none =>
      cases b with
      | none => exact ⟨rfl, same⟩
      | some coords => exact absurd (congrArg List.head? same) (closed coords.opening)
  | some coords =>
      cases b with
      | none => exact absurd (congrArg List.head? same).symm (closed' coords.opening)
      | some coords' =>
          obtain ⟨coordsSame, restSame⟩ := coords_unique coords coords' rest rest' same
          exact ⟨congrArg some coordsSame, restSame⟩

theorem point_unique (a b : Point) (rest rest' : List Token) (closed : Unopened rest) (closed' : Unopened rest')
    (same : a.tokens ++ rest = b.tokens ++ rest') : a = b ∧ rest = rest' := by
  obtain ⟨keyword, name, coords⟩ := a
  obtain ⟨keyword', name', coords'⟩ := b
  -- The category of the first token tells whether there is a keyword.
  have front : keyword = keyword' ∧
      name.token :: (coords.elim [] Coords.tokens ++ rest) =
        name'.token :: (coords'.elim [] Coords.tokens ++ rest') := by
    cases keyword with
    | none =>
        cases keyword' with
        | none => exact ⟨rfl, same⟩
        | some word => cases congrArg (fun tokens => tokens.head?.map Token.category) same
    | some word =>
        cases keyword' with
        | none => cases congrArg (fun tokens => tokens.head?.map Token.category) same
        | some word' =>
            obtain ⟨wordSame, tailSame⟩ := List.cons.inj same
            exact ⟨congrArg some (fixed_token_injective _ _ _ _ wordSame), tailSame⟩
  obtain ⟨keywordSame, tailSame⟩ := front
  obtain ⟨nameSame, behindSame⟩ := List.cons.inj tailSame
  obtain ⟨coordsSame, restSame⟩ := place_unique coords coords' rest rest' closed closed' behindSame
  rw [keywordSame, free_token_injective _ _ _ nameSame, coordsSame]
  exact ⟨rfl, restSame⟩

theorem line_unique (a b : Line) (rest rest' : List Token) (closed : Unopened rest) (closed' : Unopened rest')
    (same : a.tokens ++ rest = b.tokens ++ rest') : a = b ∧ rest = rest' := by
  obtain ⟨extent, keyword, start, stop⟩ := a
  obtain ⟨extent', keyword', start', stop'⟩ := b
  simp only [Line.tokens, List.cons_append, List.append_assoc, List.cons.injEq] at same
  obtain ⟨wordSame, pointsSame⟩ := same
  have extentSame : extent = extent' := by
    have spelled : extent.keyword.spelling = extent'.keyword.spelling := congrArg Token.value wordSame
    cases extent <;> cases extent' <;> first | rfl | exact absurd spelled (by decide)
  subst extentSame
  obtain ⟨startSame, tailSame⟩ := point_unique start start' _ _ (point_unopened stop rest)
    (point_unopened stop' rest') pointsSame
  obtain ⟨stopSame, restSame⟩ := point_unique stop stop' rest rest' closed closed' tailSame
  rw [fixed_token_injective _ _ _ _ wordSame, startSame, stopSame]
  exact ⟨rfl, restSame⟩

def Object.word : Object → Keyword
  | .point _ _ _ => .point
  | .line path => path.extent.keyword
  | .perpendicular _ _ _ => .perpendicular
  | .triangle _ _ _ _ => .triangle

theorem object_front (object : Object) (rest : List Token) :
    (object.tokens ++ rest).head?.map Token.value = some object.word.spelling := by
  cases object <;> rfl

theorem spelling_injective (a b : Keyword) (same : a.spelling = b.spelling) : a = b := by
  have found := congrArg Keyword.ofSpelling? same
  rw [Keyword.of_spelling_spelling, Keyword.of_spelling_spelling] at found
  exact Option.some.inj found

theorem line_word_other (path : Line) (word : Keyword) (same : path.extent.keyword = word)
    (other : word = .point ∨ word = .perpendicular ∨ word = .triangle) : False := by
  obtain ⟨extent, _, _, _⟩ := path
  rcases other with rfl | rfl | rfl <;> cases extent <;> cases same

theorem object_unique (a b : Object) (rest rest' : List Token) (closed : Unopened rest) (closed' : Unopened rest')
    (same : a.tokens ++ rest = b.tokens ++ rest') : a = b ∧ rest = rest' := by
  have wordSame : a.word = b.word := by
    apply spelling_injective
    have front := congrArg (fun tokens => tokens.head?.map Token.value) same
    rw [object_front, object_front] at front
    exact Option.some.inj front
  cases a with
  | point keyword name coords =>
      cases b with
      | point keyword' name' coords' =>
          obtain ⟨pointSame, restSame⟩ := point_unique _ _ rest rest' closed closed' same
          cases pointSame
          exact ⟨rfl, restSame⟩
      | line path => exact (line_word_other path _ wordSame.symm (.inl rfl)).elim
      | perpendicular _ _ _ => cases wordSame
      | triangle _ _ _ _ => cases wordSame
  | line path =>
      cases b with
      | line path' =>
          obtain ⟨pathSame, restSame⟩ := line_unique path path' rest rest' closed closed' same
          exact ⟨congrArg Object.line pathSame, restSame⟩
      | point _ _ _ => exact (line_word_other path _ wordSame (.inl rfl)).elim
      | perpendicular _ _ _ => exact (line_word_other path _ wordSame (.inr (.inl rfl))).elim
      | triangle _ _ _ _ => exact (line_word_other path _ wordSame (.inr (.inr rfl))).elim
  | perpendicular keyword apex base =>
      cases b with
      | perpendicular keyword' apex' base' =>
          simp only [Object.tokens, List.cons_append, List.append_assoc, List.cons.injEq] at same
          obtain ⟨keywordSame, apexSame⟩ := same
          obtain ⟨apexSame, baseSame⟩ := point_unique apex apex' _ _ (line_unopened base rest)
            (line_unopened base' rest') apexSame
          obtain ⟨baseSame, restSame⟩ := line_unique base base' rest rest' closed closed' baseSame
          rw [fixed_token_injective _ _ _ _ keywordSame, apexSame, baseSame]
          exact ⟨rfl, restSame⟩
      | line path => exact (line_word_other path _ wordSame.symm (.inr (.inl rfl))).elim
      | point _ _ _ => cases wordSame
      | triangle _ _ _ _ => cases wordSame
  | triangle keyword first second third =>
      cases b with
      | triangle keyword' first' second' third' =>
          simp only [Object.tokens, List.cons_append, List.append_assoc, List.cons.injEq] at same
          obtain ⟨keywordSame, firstSame⟩ := same
          obtain ⟨firstSame, secondSame⟩ := point_unique first first' _ _ (point_unopened second _)
            (point_unopened second' _) firstSame
          obtain ⟨secondSame, thirdSame⟩ := point_unique second second' _ _ (point_unopened third rest)
            (point_unopened third' rest') secondSame
          obtain ⟨thirdSame, restSame⟩ := point_unique third third' rest rest' closed closed' thirdSame
          rw [fixed_token_injective _ _ _ _ keywordSame, firstSame, secondSame, thirdSame]
          exact ⟨rfl, restSame⟩
      | line path => exact (line_word_other path _ wordSame.symm (.inr (.inr rfl))).elim
      | point _ _ _ => cases wordSame
      | perpendicular _ _ _ => cases wordSame

theorem command_unique (a b : Command) (rest rest' : List Token) (same : a.tokens ++ rest = b.tokens ++ rest') :
    a = b ∧ rest = rest' := by
  obtain ⟨operator, object, terminator⟩ := a
  obtain ⟨operator', object', terminator'⟩ := b
  simp only [Command.tokens, List.cons_append, List.append_assoc, List.nil_append, List.cons.injEq] at same
  obtain ⟨operatorSame, tailSame⟩ := same
  obtain ⟨objectSame, tailSame⟩ := object_unique object object' _ _ (terminator_unopened terminator rest)
    (terminator_unopened terminator' rest') tailSame
  obtain ⟨terminatorSame, restSame⟩ := List.cons.inj tailSame
  rw [free_token_injective _ _ _ operatorSame, objectSame, fixed_token_injective _ _ _ _ terminatorSame]
  exact ⟨rfl, restSame⟩

theorem commands_unique (a b : List Command) (same : a.flatMap Command.tokens = b.flatMap Command.tokens) :
    a = b := by
  induction a generalizing b with
  | nil =>
      cases b with
      | nil => rfl
      | cons command rest => cases same
  | cons command rest ih =>
      cases b with
      | nil => cases same
      | cons command' rest' =>
          rw [List.flatMap_cons, List.flatMap_cons] at same
          obtain ⟨commandSame, restSame⟩ := command_unique command command' _ _ same
          rw [commandSame, ih rest' restSame]

theorem task_unique (a b : Task) (same : a.tokens = b.tokens) : a = b := by
  obtain ⟨first, rest⟩ := a
  obtain ⟨first', rest'⟩ := b
  have commandsSame := commands_unique (first :: rest) (first' :: rest') same
  cases commandsSame
  rfl

end Straightedge.Grammar
