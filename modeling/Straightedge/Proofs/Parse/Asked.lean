import Mathlib.Data.List.Chain
import Straightedge.Proofs.Parse.Violation

namespace Straightedge

-- Behind an opening bracket and behind a comma every derivation has a number.

def Token.Numbers (mark token : Token) : Prop := mark.Leads → ∃ value, token.number? = some value

structure Numbered (tokens : List Token) : Prop where
  chain : tokens.IsChain Token.Numbers
  closed : ∀ last ∈ tokens.getLast?, ¬last.Leads

theorem numbered_nil : Numbered [] := ⟨.nil, fun _ none => by cases none⟩

theorem numbered_single (token : Token) (closed : ¬token.Leads) : Numbered [token] :=
  ⟨.singleton _, fun _ same => by cases same; exact closed⟩

theorem numbered_append (first second : List Token) (front : Numbered first) (back : Numbered second) :
    Numbered (first ++ second) := by
  constructor
  · exact List.isChain_append.mpr ⟨front.chain, back.chain, fun last member _ _ leads => absurd leads (front.closed last member)⟩
  · intro last member
    rw [List.getLast?_append] at member
    rcases Option.or_eq_some_iff.mp member with inSecond | ⟨_, inFirst⟩
    · exact back.closed last inSecond
    · exact front.closed last inFirst

theorem numbered_cons (token : Token) (rest : List Token) (closed : ¬token.Leads) (back : Numbered rest) :
    Numbered (token :: rest) := numbered_append [token] rest (numbered_single token closed) back

theorem category_closed (token : Token) (other : token.category ≠ .separator) : ¬token.Leads :=
  fun leads => other leads.1

namespace Grammar

theorem numeral_closed (numeral : Numeral) : ¬numeral.token.Leads := by
  obtain ⟨token, value, denotes⟩ := numeral
  cases denotes <;> exact category_closed _ (by simp)

theorem sign_closed (mark : String) (sign : Sign mark) (notOpening : mark ≠ Vocabulary.opening)
    (notComma : mark ≠ Vocabulary.comma) : ¬sign.token.Leads := by
  rintro ⟨_, opening | comma⟩
  · exact notOpening opening
  · exact notComma comma

theorem coords_numbered (coords : Coords) : Numbered coords.tokens := by
  have number (numeral : Numeral) (mark : Token) : mark.Numbers numeral.token :=
    fun _ => ⟨numeral.value, (number_denotes _ _).mpr numeral.denotes⟩
  have other (numeral : Numeral) (token : Token) : numeral.token.Numbers token :=
    fun leads => absurd leads (numeral_closed numeral)
  constructor
  · simp only [Coords.tokens, List.isChain_cons_cons, List.isChain_singleton, and_true]
    exact ⟨number _ _, other _ _, number _ _, other _ _⟩
  · rintro last ⟨⟩
    exact sign_closed _ coords.closing (by decide) (by decide)

theorem point_numbered (point : Point) : Numbered point.tokens := by
  obtain ⟨mark, name, coords⟩ := point
  have written : Numbered (name.token :: coords.elim [] Coords.tokens) := by
    refine numbered_cons _ _ (category_closed _ (by simp [Free.token])) ?_
    cases coords with
    | none => exact numbered_nil
    | some coords => exact coords_numbered coords
  cases mark with
  | none => exact written
  | some word => exact numbered_cons _ _ (category_closed _ (by simp [Fixed.token])) written

theorem line_numbered (line : Line) : Numbered line.tokens :=
  numbered_cons _ _ (category_closed _ (by simp [Fixed.token]))
    (numbered_append _ _ (point_numbered _) (point_numbered _))

theorem object_numbered (object : Object) : Numbered object.tokens := by
  cases object with
  | point keyword name coords => exact point_numbered _
  | line path => exact line_numbered path
  | perpendicular keyword apex base =>
      exact numbered_cons _ _ (category_closed _ (by simp [Fixed.token]))
        (numbered_append _ _ (point_numbered apex) (line_numbered base))
  | triangle keyword first second third =>
      exact numbered_cons _ _ (category_closed _ (by simp [Fixed.token]))
        (numbered_append _ _ (numbered_append _ _ (point_numbered first) (point_numbered second)) (point_numbered third))

theorem command_numbered (command : Command) : Numbered command.tokens := by
  have terminator := sign_closed _ command.terminator (by decide) (by decide)
  exact numbered_cons _ _ (category_closed _ (by simp [Free.token]))
    (numbered_append _ _ (object_numbered command.object) (numbered_single _ terminator))

theorem row_numbered (commands : List Command) : Numbered (commands.flatMap Command.tokens) := by
  induction commands with
  | nil => exact numbered_nil
  | cons command rest ih => exact numbered_append _ _ (command_numbered command) ih

end Grammar

theorem accepted_numbers (jitter : Jitter) (before after : List Token) (mark token : Token) (leads : mark.Leads)
    (accepted : Accepted jitter (before ++ mark :: token :: after)) : ∃ value, token.number? = some value := by
  obtain ⟨drawing, session, done⟩ := accepted
  obtain ⟨_, tree, same, _⟩ := reading_sound jitter _ drawing session done
  have chain := (Grammar.row_numbered tree.commands).chain
  rw [show tree.commands.flatMap Grammar.Command.tokens = _ from same] at chain
  have pair := (List.isChain_append.mp chain).2.1
  exact (List.isChain_cons_cons.mp pair).1 leads

-- Some completion of the text is accepted.
def Continues (jitter : Jitter) (text : List Token) : Prop :=
  ∃ rest, Disciplined (text ++ rest) ∧ Accepted jitter (text ++ rest)

theorem meant_named (expected : Expectation) (token : Token) (named : expected.meant.Names token) :
    expected.Names token := by
  by_cases bare : expected = .token none none
  · subst bare
    constructor <;> rintro _ ⟨⟩
  · rwa [meant_self expected bare] at named

theorem asks_continue (jitter : Jitter) (bounded : jitter.Bounded) (text : List Token) (disciplined : Disciplined text)
    (expected : Expectation) (asks : Asks Rule.CommandRow text expected) (token : Token) (orderly : token.Orderly)
    (named : expected.meant.Names token) : Continues jitter (text ++ [token]) :=
  begins_accepted jitter bounded _ (List.forall_mem_append.mpr ⟨disciplined, List.forall_mem_singleton.mpr orderly⟩)
    (asks.follows token orderly named)

theorem leading_continued (jitter : Jitter) (text : List Token) (mark token : Token) (last : mark ∈ text.getLast?)
    (leads : mark.Leads) (continues : Continues jitter (text ++ [token])) : ∃ value, token.number? = some value := by
  obtain ⟨rest, _, accepted⟩ := continues
  obtain ⟨before, rfl⟩ := List.getLast?_eq_some_iff.mp last
  refine accepted_numbers jitter before rest mark token leads ?_
  rwa [List.append_assoc, List.append_assoc] at accepted

-- What an expectation promises to one who has got as far as the tokens that were read: that there is something
-- to go on with, and that any of it goes on. Where a number is missing at the end it names too much.
structure Promises (jitter : Jitter) (tokens read : List Token) (expected : Expectation) : Prop where
  filled : ∃ word token, tokenize word = .ok [token] ∧ expected.Names token
  kept : (∀ token, token.Orderly → expected.Names token → Continues jitter (read ++ [token])) ↔
    expected ≠ .token none none
  bare : expected = .token none none → read = tokens ∧
    ∀ token, token.Orderly → (Continues jitter (read ++ [token]) ↔ Expectation.number.Names token)

theorem asks_filled (phrase : List Token → Prop) (text : List Token) (expected : Expectation)
    (asks : Asks phrase text expected) : ∃ word token, tokenize word = .ok [token] ∧ expected.Names token := by
  obtain ⟨word, token, lexed, named⟩ := asks.sample
  exact ⟨word, token, lexed, meant_named expected token named⟩

theorem telling_promises (jitter : Jitter) (bounded : jitter.Bounded) (tokens text : List Token)
    (disciplined : Disciplined text) (expected : Expectation) (asks : Asks Rule.CommandRow text expected)
    (telling : expected ≠ .token none none) : Promises jitter tokens text expected := by
  have continued := asks_continue jitter bounded text disciplined expected asks
  rw [meant_self expected telling] at continued
  exact ⟨asks_filled _ _ _ asks, iff_of_true continued telling, fun bare => absurd bare telling⟩

theorem bare_promises (jitter : Jitter) (bounded : jitter.Bounded) (tokens : List Token) (disciplined : Disciplined tokens)
    (asks : Asks Rule.CommandRow tokens (.token none none)) (mark : Token) (last : mark ∈ tokens.getLast?)
    (leads : mark.Leads) : Promises jitter tokens tokens (.token none none) := by
  have numbers (token : Token) := leading_continued jitter tokens mark token last leads
  refine ⟨asks_filled _ _ _ asks, iff_of_false (fun all => ?_) (fun telling => telling rfl), fun _ => ⟨rfl, fun token orderly =>
    ⟨numbers token, asks_continue jitter bounded tokens disciplined _ asks token orderly⟩⟩⟩
  -- a closing bracket is named as well
  have lexed : tokenize ")" = .ok [⟨.separator, ")", 0⟩] := by decide +kernel
  have orderly := tokenize_disciplined _ _ lexed _ List.mem_cons_self
  obtain ⟨_, number⟩ := numbers _ (all ⟨.separator, ")", 0⟩ orderly (by constructor <;> rintro _ ⟨⟩))
  cases number

/-- A source that is rejected is reported with an expectation, and every token that it names goes on from what
was read. The exception is a source that ends in front of a number, where every token is named and none but a
number goes on. -/
theorem expected_tokens_continue (jitter : Jitter) (bounded : jitter.Bounded) (source : String) (tokens : List Token)
    (split : tokenize source = .ok tokens) (filled : tokens ≠ []) (rejected : ¬Accepted jitter tokens) :
    ∃ error session read, Reading.ofSource jitter source = .stopped (.violation error) session ∧
      (EndsEarly jitter tokens error session ∧ read = tokens ∨
        ∃ i, BreaksAt jitter tokens error session i ∧ read = tokens.take i) ∧
      Promises jitter tokens read error.expected := by
  have disciplined := tokenize_disciplined source tokens split
  have reading : Reading.ofSource jitter source = Reading.ofTokens jitter tokens := by rw [Reading.ofSource, split]
  rw [reading, of_tokens_drawing jitter tokens filled]
  rcases Rule.safe_drawing bounded ⟨.ofTokens tokens, [], [], []⟩ empty_convertible with
    ⟨drawing, session, done, _⟩ | ⟨error, session, stopped, _⟩
  · refine absurd ⟨drawing, session, ?_⟩ rejected
    rw [of_tokens_drawing jitter tokens filled, done]
  · rw [stopped]
    cases (Rule.locates_drawing jitter _).stops error session stopped with
    | ended consumed remaining begins shown asks bare =>
        have whole : session.reader.consumed = tokens.reverse := consumed.trans (List.append_nil _)
        have ends := ended_early jitter bounded tokens filled disciplined rejected error session whole remaining begins shown
        refine ⟨error, session, tokens, rfl, .inl ⟨ends, rfl⟩, ?_⟩
        by_cases missing : error.expected = .token none none
        · obtain ⟨mark, last, leads⟩ := bare missing
          rw [whole, List.head?_reverse] at last
          rw [missing] at asks ⊢
          exact bare_promises jitter bounded tokens disciplined asks mark last leads
        · exact telling_promises jitter bounded tokens tokens disciplined _ asks missing
    | refused text token rest front begins shown consumed again asks telling =>
        have whole : tokens = text ++ token :: rest := front
        subst whole
        have breaks := broken_off jitter bounded text token rest disciplined error session begins shown
          (consumed.trans (List.append_nil _)) again
        exact ⟨error, session, text, rfl, .inr ⟨text.length, breaks, List.take_left.symm⟩,
          telling_promises jitter bounded _ text (disciplined_append _ _ disciplined).1 _ asks telling⟩

theorem stopped_rejected (jitter : Jitter) (tokens : List Token) (fault : Fault) (session : Session)
    (stopped : Reading.ofTokens jitter tokens = .stopped fault session) : ¬Accepted jitter tokens := by
  rintro ⟨drawing, last, done⟩
  rw [stopped] at done
  cases done

theorem bare_operator_promises : tokenize "DRAW ." = .ok bareOperator ∧ ¬Accepted (.cycle [3, 4]) bareOperator ∧
    ∀ token, token.Orderly → Expectation.objectName.Names token →
      Continues (.cycle [3, 4]) [⟨.operator, "DRAW", 0⟩, token] := by
  have bounded : (Jitter.cycle [3, 4]).Bounded := cycle_bounded _ (by decide)
  have reading := bare_operator_reading (.cycle [3, 4])
  have rejected : ¬Accepted (.cycle [3, 4]) bareOperator := by
    rw [Reading.ofSource, bare_operator_split] at reading
    exact stopped_rejected _ _ _ _ reading
  obtain ⟨error, session, read, stopped, place, promises⟩ := expected_tokens_continue (.cycle [3, 4]) bounded "DRAW ."
    bareOperator bare_operator_split (List.cons_ne_nil _ _) rejected
  rw [reading] at stopped
  cases stopped
  refine ⟨bare_operator_split, rejected, ?_⟩
  have kept := promises.kept.mpr (by simp)
  rcases place with ⟨ends, _⟩ | ⟨i, breaks, rfl⟩
  · cases ends.consumed.1
  · have position := breaks.position
    rw [if_pos object_name_peeks] at position
    have first : i = 1 := position.symm
    subst first
    exact kept

-- The source is `DRAW POINT A(`, which ends in front of a number.
def openBracket : List Token :=
  [⟨.operator, "DRAW", 0⟩, ⟨.keyword, "POINT", 5⟩, ⟨.identifier, "A", 11⟩, ⟨.separator, "(", 12⟩]

theorem open_bracket_split : tokenize "DRAW POINT A(" = .ok openBracket := by decide +kernel

theorem open_bracket_reading : Reading.ofTokens (.cycle [3, 4]) openBracket =
    .stopped (.violation ⟨.token none none, 12, "("⟩) ⟨⟨openBracket.reverse, []⟩, [], [], []⟩ := by
  have command : Rule.command (.cycle [3, 4]) ⟨.ofTokens openBracket, [], [], []⟩ =
      .error (.violation ⟨.token none none, 12, "("⟩) ⟨⟨openBracket.reverse, []⟩, [], [], []⟩ := by rfl
  have commands := Rule.commands_step (.cycle [3, 4]) ⟨.ofTokens openBracket, [], [], []⟩ (List.cons_ne_nil _ _)
  rw [Rule.bind_failed _ _ _ _ _ command] at commands
  rw [of_tokens_drawing _ openBracket (List.cons_ne_nil _ _), Rule.drawing, Rule.bind_failed _ _ _ _ _ commands]

theorem open_bracket_misleads : tokenize "DRAW POINT A(" = .ok openBracket ∧
    ∃ error session, Reading.ofSource (.cycle [3, 4]) "DRAW POINT A(" = .stopped (.violation error) session ∧
      EndsEarly (.cycle [3, 4]) openBracket error session ∧ error.expected.text = " <>" ∧
      ∃ token, tokenize ")" = .ok [token] ∧ error.expected.Names token ∧
        ¬Continues (.cycle [3, 4]) (openBracket ++ [token]) := by
  have bounded : (Jitter.cycle [3, 4]).Bounded := cycle_bounded _ (by decide)
  have split := open_bracket_split
  have reading := open_bracket_reading
  have source : Reading.ofSource (.cycle [3, 4]) "DRAW POINT A(" = Reading.ofTokens (.cycle [3, 4]) openBracket := by
    rw [Reading.ofSource, split]
  -- with `0,0).` behind it the row is a command
  have ending : tokenize "0,0)." = .ok [⟨.integerLiteral, "0", 0⟩, ⟨.separator, ",", 1⟩, ⟨.integerLiteral, "0", 2⟩,
      ⟨.separator, ")", 3⟩, ⟨.separator, ".", 4⟩] := by decide +kernel
  have begins : Begins Rule.CommandRow openBracket := by
    refine ⟨_, ⟨[⟨⟨"DRAW", 0⟩, .point ⟨5⟩ ⟨"A", 11⟩ (some ⟨⟨12⟩, ⟨_, _, Rule.zero_denotes 0⟩, ⟨1⟩,
      ⟨_, _, Rule.zero_denotes 2⟩, ⟨3⟩⟩), ⟨4⟩⟩], ?_⟩, tokenize_disciplined _ _ ending⟩
    rfl
  have ends := ended_early (.cycle [3, 4]) bounded openBracket (List.cons_ne_nil _ _) (tokenize_disciplined _ _ split)
    (stopped_rejected _ _ _ _ reading) ⟨.token none none, 12, "("⟩ ⟨⟨openBracket.reverse, []⟩, [], [], []⟩ rfl rfl begins rfl
  refine ⟨split, _, _, source.trans reading, ends, rfl, ⟨.separator, ")", 0⟩, by decide +kernel, ?_, ?_⟩
  · constructor <;> rintro _ ⟨⟩
  · intro continues
    obtain ⟨_, number⟩ := leading_continued _ openBracket ⟨.separator, "(", 12⟩ _ rfl ⟨rfl, .inl rfl⟩ continues
    cases number

end Straightedge
