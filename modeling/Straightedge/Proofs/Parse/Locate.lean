import Straightedge.Parse.Drawing
import Straightedge.Proofs.Grammar.Lookahead
import Straightedge.Proofs.Parse.Outcome
import Straightedge.Proofs.Token.Discipline

namespace Straightedge

-- Whether only the token in front was looked at, without being consumed.
def Expectation.Peeks (expected : Expectation) : Prop :=
  expected.text ∈ [Expectation.objectName.text, Expectation.baseName.text, Expectation.pointDefinition.text]

instance (expected : Expectation) : Decidable expected.Peeks := inferInstanceAs (Decidable (_ ∈ _))

theorem object_name_peeks : Expectation.objectName.Peeks := List.mem_cons_self

theorem base_name_peeks : Expectation.baseName.Peeks := List.mem_cons_of_mem _ List.mem_cons_self

theorem point_definition_peeks : Expectation.pointDefinition.Peeks :=
  List.mem_cons_of_mem _ (List.mem_cons_of_mem _ List.mem_cons_self)

theorem peeks_last (expected : Expectation) (peeks : expected.Peeks) :
    expected.text.toList.getLast? ∈ [some ')', some 'T', some 'n'] := by
  have objectName : Expectation.objectName.text =
      "name of a graphical object (" ++ Expectation.objectNames ++ ")" := rfl
  have baseName : Expectation.baseName.text = "LINE" ++ " or " ++ "SEGMENT" := rfl
  have pointDefinition : Expectation.pointDefinition.text = "point definition" := rfl
  rw [Expectation.Peeks, objectName, baseName, pointDefinition, List.mem_cons, List.mem_cons, List.mem_singleton] at peeks
  -- The list of the object names is left folded: only what stands behind it is looked at.
  rcases peeks with same | same | same <;> rw [same]
  · have closing : ")".toList = [')'] := by decide
    rw [String.toList_append, List.getLast?_append, closing, List.getLast?_singleton, Option.some_or]
    decide
  · decide
  · decide

theorem number_not_peeks : ¬Expectation.number.Peeks := by
  intro peeks
  have text : Expectation.number.text = "any number" := rfl
  have last := peeks_last _ peeks
  rw [text] at last
  exact absurd last (by decide)

theorem token_not_peeks (category : Option Category) (value : Option String) :
    ¬(Expectation.token category value).Peeks := by
  intro peeks
  have text : (Expectation.token category value).text =
      (category.map Category.name).getD "" ++ " <" ++ value.getD "" ++ ">" := rfl
  have closing : ">".toList = ['>'] := by decide
  have last := peeks_last _ peeks
  rw [text, String.toList_append, List.getLast?_append, closing, List.getLast?_singleton, Option.some_or] at last
  exact absurd last (by decide)

-- The tokens that an expectation names. Where a number is missing at the end of the tokens no category and no
-- spelling is asked for, which names every token; what is meant there is a number.

def Expectation.Names : Expectation → Token → Prop
  | .objectName, found => found.category = .keyword ∧ ∃ word : Keyword, found.value = word.spelling
  | .baseName, found => found.category = .keyword ∧ ∃ extent : Extent, found.value = extent.keyword.spelling
  | .pointDefinition, found => found.category = .identifier ∨ found.category = .keyword ∧ found.value = Keyword.point.spelling
  | .number, found => ∃ value, found.number? = some value
  | .token category value, found => Rule.Fits category value found
  | _, _ => False

def Expectation.meant : Expectation → Expectation
  | .token none none => .number
  | expected => expected

def Token.Leads (token : Token) : Prop :=
  token.category = .separator ∧ (token.value = Vocabulary.opening ∨ token.value = Vocabulary.comma)

theorem meant_self (expected : Expectation) (telling : expected ≠ .token none none) : expected.meant = expected := by
  rw [Expectation.meant.eq_def]
  split
  · exact absurd rfl telling
  · rfl

def Session.facing (session : Session) (tokens : List Token) : Session :=
  { session with reader := ⟨session.reader.consumed, tokens⟩ }

theorem facing_self (session : Session) (tokens : List Token) (same : session.reader.remaining = tokens) :
    session.facing tokens = session := by
  subst same
  rfl

theorem facing_remaining (session : Session) (tokens : List Token) :
    (session.facing tokens).reader.remaining = tokens := rfl

def Phrase {τ : Type} (tokens : τ → List Token) (text : List Token) : Prop := ∃ tree, text = tokens tree

-- Disciplined tokens complete the text to a phrase.
def Begins (phrase : List Token → Prop) (text : List Token) : Prop :=
  ∃ rest, phrase (text ++ rest) ∧ Disciplined rest

theorem begins_nothing (phrase : List Token → Prop) (holds : phrase []) : Begins phrase [] :=
  ⟨[], holds, fun _ none => (List.not_mem_nil none).elim⟩

-- Some token of a source is named, and every orderly one that is named may follow the text.
structure Asks (phrase : List Token → Prop) (text : List Token) (expected : Expectation) : Prop where
  sample : ∃ word token, tokenize word = .ok [token] ∧ expected.meant.Names token
  follows : ∀ token, token.Orderly → expected.meant.Names token → Begins phrase (text ++ [token])

def Joined (first second : List Token → Prop) (text : List Token) : Prop :=
  ∃ front back, text = front ++ back ∧ first front ∧ second back

namespace Rule

variable {α β : Type}

-- The text is consumed, whatever stands behind it beyond the next token.
structure Passes (rule : Rule α) (session : Session) (text : List Token) (value : α) (later : Session) : Prop where
  consumed : later.reader.consumed = text.reverse ++ session.reader.consumed
  remaining : session.reader.remaining = text ++ later.reader.remaining
  again : ∀ tail, tail.head? = later.reader.remaining.head? →
    rule (session.facing (text ++ tail)) = .ok value (later.facing tail)

-- A violation at the end of the tokens, or at a token that breaks off what was read so far.
inductive Stops (rule : Rule α) (phrase : List Token → Prop) (session : Session) (error : SyntaxError)
    (later : Session) : Prop where
  | ended (consumed : later.reader.consumed = session.reader.remaining.reverse ++ session.reader.consumed)
      (remaining : later.reader.remaining = []) (begins : Begins phrase session.reader.remaining)
      (shown : error = .unmet error.expected later.reader.snapshot)
      (asks : Asks phrase session.reader.remaining error.expected)
      (bare : error.expected = .token none none → ∃ mark ∈ later.reader.consumed.head?, mark.Leads)
  | refused (text : List Token) (token : Token) (rest : List Token)
      (front : session.reader.remaining = text ++ token :: rest) (begins : Begins phrase text)
      (shown : error = .unmet error.expected token.snapshot)
      (consumed : later.reader.consumed =
        (if error.expected.Peeks then text else text ++ [token]).reverse ++ session.reader.consumed)
      (again : ∀ tail, ∃ last, rule (session.facing (text ++ token :: tail)) = .error (.violation error) last)
      (asks : Asks phrase text error.expected) (telling : error.expected ≠ .token none none)

structure Locates (rule : Rule α) (phrase : List Token → Prop) (session : Session) : Prop where
  passes : ∀ value later, rule session = .ok value later → ∃ text, phrase text ∧ Passes rule session text value later
  stops : ∀ error later, rule session = .error (.violation error) later → Stops rule phrase session error later

theorem head_append (text first second : List Token) (same : first.head? = second.head?) :
    (text ++ first).head? = (text ++ second).head? := by
  rw [List.head?_append, List.head?_append, same]

theorem begins_joined (first second : List Token → Prop) (text : List Token) (front : Begins first text)
    (back : Begins second []) : Begins (Joined first second) text := by
  obtain ⟨middle, firstHolds, middleFine⟩ := front
  obtain ⟨rest, secondHolds, restFine⟩ := back
  exact ⟨middle ++ rest, ⟨text ++ middle, rest, (List.append_assoc _ _ _).symm, firstHolds, secondHolds⟩,
    List.forall_mem_append.mpr ⟨middleFine, restFine⟩⟩

theorem begins_behind (first second : List Token → Prop) (front text : List Token) (passed : first front)
    (back : Begins second text) : Begins (Joined first second) (front ++ text) := by
  obtain ⟨rest, secondHolds, restFine⟩ := back
  exact ⟨rest, ⟨front, text ++ rest, List.append_assoc _ _ _, passed, secondHolds⟩, restFine⟩

theorem asks_joined (first second : List Token → Prop) (text : List Token) (expected : Expectation)
    (asks : Asks first text expected) (back : Begins second []) : Asks (Joined first second) text expected :=
  ⟨asks.sample, fun token orderly named => begins_joined first second _ (asks.follows token orderly named) back⟩

theorem asks_behind (first second : List Token → Prop) (front text : List Token) (expected : Expectation)
    (passed : first front) (asks : Asks second text expected) : Asks (Joined first second) (front ++ text) expected := by
  refine ⟨asks.sample, fun token orderly named => ?_⟩
  rw [List.append_assoc]
  exact begins_behind first second front _ passed (asks.follows token orderly named)

theorem locates_mono (rule : Rule α) (phrase wider : List Token → Prop) (session : Session)
    (within : ∀ text, phrase text → wider text) (locates : Locates rule phrase session) :
    Locates rule wider session := by
  have begins : ∀ text, Begins phrase text → Begins wider text :=
    fun _ ⟨rest, holds, fine⟩ => ⟨rest, within _ holds, fine⟩
  have asked : ∀ text expected, Asks phrase text expected → Asks wider text expected :=
    fun _ _ ⟨sample, follows⟩ => ⟨sample, fun token orderly named => begins _ (follows token orderly named)⟩
  constructor
  · intro value later done
    obtain ⟨text, holds, passes⟩ := locates.passes value later done
    exact ⟨text, within text holds, passes⟩
  · intro error later stopped
    cases locates.stops error later stopped with
    | ended consumed remaining begun shown asks bare =>
        exact .ended consumed remaining (begins _ begun) shown (asked _ _ asks) bare
    | refused text token rest front begun shown consumed again asks telling =>
        exact .refused text token rest front (begins _ begun) shown consumed again (asked _ _ asks) telling

theorem locates_congr (rule other : Rule α) (phrase : List Token → Prop) (session : Session)
    (same : ∀ around : Session, around.reader.remaining.head? = session.reader.remaining.head? → rule around = other around)
    (locates : Locates other phrase session) : Locates rule phrase session := by
  -- With another tail the token in front is the same, so the two rules still agree there.
  have here := same session rfl
  constructor
  · intro value later done
    rw [here] at done
    obtain ⟨text, holds, consumed, remaining, again⟩ := locates.passes value later done
    refine ⟨text, holds, consumed, remaining, fun tail head => ?_⟩
    rw [same, again tail head]
    rw [facing_remaining, remaining]
    exact head_append text _ _ head
  · intro error later stopped
    rw [here] at stopped
    cases locates.stops error later stopped with
    | ended consumed remaining begun shown asks bare => exact .ended consumed remaining begun shown asks bare
    | refused text token rest front begun shown consumed again asks telling =>
        refine .refused text token rest front begun shown consumed (fun tail => ?_) asks telling
        obtain ⟨last, failed⟩ := again tail
        refine ⟨last, ?_⟩
        rw [same, failed]
        rw [facing_remaining, front]
        exact head_append text _ _ rfl

theorem locates_look (look : Rule α) (next : α → Rule β) (see : Option Token → α)
    (seen : ∀ around : Session, look around = .ok (see around.reader.remaining.head?) around) (phrase : List Token → Prop)
    (session : Session) (locates : Locates (next (see session.reader.remaining.head?)) phrase session) :
    Locates (look >>= next) phrase session := by
  refine locates_congr _ _ phrase session (fun around same => ?_) locates
  rw [bind_passed _ _ _ _ _ (seen around), same]

theorem passes_both (rule : Rule α) (next : α → Rule β) (session between later : Session) (front back : List Token)
    (value : α) (result : β) (first : Passes rule session front value between)
    (second : Passes (next value) between back result later) : Passes (rule >>= next) session (front ++ back) result later := by
  constructor
  · rw [second.consumed, first.consumed, List.reverse_append, List.append_assoc]
  · rw [first.remaining, second.remaining, List.append_assoc]
  · intro tail same
    -- The first rule finds the same token behind its text as before.
    have near : (back ++ tail).head? = between.reader.remaining.head? := by
      rw [second.remaining]
      exact head_append back _ _ same
    rw [List.append_assoc, bind_passed _ _ _ _ _ (first.again _ near), second.again tail same]

theorem stops_first (rule : Rule α) (next : α → Rule β) (first second : List Token → Prop) (session later : Session)
    (error : SyntaxError) (stops : Stops rule first session error later) (possible : Begins second []) :
    Stops (rule >>= next) (Joined first second) session error later := by
  cases stops with
  | ended consumed remaining begins shown asks bare =>
      exact .ended consumed remaining (begins_joined _ _ _ begins possible) shown (asks_joined _ _ _ _ asks possible) bare
  | refused text token rest front begins shown consumed again asks telling =>
      refine .refused text token rest front (begins_joined _ _ _ begins possible) shown consumed (fun tail => ?_)
        (asks_joined _ _ _ _ asks possible) telling
      obtain ⟨last, broken⟩ := again tail
      exact ⟨last, bind_failed _ _ _ _ _ broken⟩

theorem stops_second (rule : Rule α) (next : α → Rule β) (first second : List Token → Prop)
    (session between later : Session) (front : List Token) (value : α) (error : SyntaxError) (holds : first front)
    (passes : Passes rule session front value between) (stops : Stops (next value) second between error later) :
    Stops (rule >>= next) (Joined first second) session error later := by
  -- Both ways the text of the first rule comes in front of what the second one has read.
  cases stops with
  | ended consumed remaining begins shown asks bare =>
      refine .ended ?_ remaining ?_ shown ?_ bare
      · rw [consumed, passes.consumed, passes.remaining, List.reverse_append, List.append_assoc]
      · rw [passes.remaining]
        exact begins_behind _ _ front _ holds begins
      · rw [passes.remaining]
        exact asks_behind _ _ front _ _ holds asks
  | refused text token rest ahead begins shown consumed again asks telling =>
      refine .refused (front ++ text) token rest ?_ (begins_behind _ _ front text holds begins) shown ?_ (fun tail => ?_)
        (asks_behind _ _ front text _ holds asks) telling
      · rw [passes.remaining, ahead, List.append_assoc]
      · rw [consumed, passes.consumed]
        split <;> simp
      · obtain ⟨last, broken⟩ := again tail
        have near : (text ++ token :: tail).head? = between.reader.remaining.head? := by
          rw [ahead]
          exact head_append text _ _ rfl
        rw [List.append_assoc, bind_passed _ _ _ _ _ (passes.again _ near)]
        exact ⟨last, broken⟩

theorem locates_bind (rule : Rule α) (next : α → Rule β) (first second : List Token → Prop) (session : Session)
    (head : Locates rule first session) (possible : Begins second [])
    (tail : ∀ value later, rule session = .ok value later → Locates (next value) second later) :
    Locates (rule >>= next) (Joined first second) session := by
  constructor
  · intro result later done
    obtain ⟨value, between, passed, rest⟩ := (bind_ok rule next session later result).mp done
    obtain ⟨front, frontHolds, frontPasses⟩ := head.passes value between passed
    obtain ⟨back, backHolds, backPasses⟩ := (tail value between passed).passes result later rest
    exact ⟨front ++ back, ⟨front, back, rfl, frontHolds, backHolds⟩,
      passes_both rule next session between later front back value result frontPasses backPasses⟩
  · intro error later stopped
    rcases bind_error rule next session later _ stopped with failed | ⟨value, between, passed, failed⟩
    · -- What the first rule has read is completed by its own phrase and then by one of the second.
      exact stops_first rule next first second session later error (head.stops error later failed) possible
    · obtain ⟨front, frontHolds, frontPasses⟩ := head.passes value between passed
      exact stops_second rule next first second session between later front value error frontHolds frontPasses
        ((tail value between passed).stops error later failed)

structure Located (rule : Rule α) (phrase : List Token → Prop) : Prop where
  possible : Begins phrase []
  locates : ∀ session, Locates rule phrase session

theorem located_mono (rule : Rule α) (phrase wider : List Token → Prop) (within : ∀ text, phrase text → wider text)
    (located : Located rule phrase) : Located rule wider := by
  obtain ⟨⟨rest, holds, fine⟩, locates⟩ := located
  exact ⟨⟨rest, within _ holds, fine⟩, fun session => locates_mono rule phrase wider session within (locates session)⟩

theorem located_bind [Nonempty α] (rule : Rule α) (next : α → Rule β) (first second : List Token → Prop)
    (head : Located rule first) (tail : ∀ value, Located (next value) second) :
    Located (rule >>= next) (Joined first second) := by
  have possible := (tail (Classical.arbitrary α)).possible
  exact ⟨begins_joined first second [] head.possible possible, fun session =>
    locates_bind rule next first second session (head.locates session) possible fun value later _ => (tail value).locates later⟩

structure Aside (rule : Rule α) : Prop where
  apart : ∀ (session : Session) reader, rule { session with reader } = match rule session with
    | .ok value later => .ok value { later with reader }
    | .error fault later => .error fault { later with reader }
  calm : ∀ session error later, rule session ≠ .error (.violation error) later

theorem aside_pure (value : α) : Aside (pure value : Rule α) := ⟨fun _ _ => rfl, fun _ _ _ impossible => by cases impossible⟩

theorem aside_bind (rule : Rule α) (next : α → Rule β) (head : Aside rule) (tail : ∀ value, Aside (next value)) :
    Aside (rule >>= next) := by
  constructor
  · intro session reader
    have apart := head.apart session reader
    cases done : rule session with
    | ok value between =>
        rw [done] at apart
        rw [bind_passed _ _ _ _ _ apart, bind_passed _ _ _ _ _ done]
        exact (tail value).apart between reader
    | error fault between =>
        rw [done] at apart
        rw [bind_failed _ _ _ _ _ apart, bind_failed _ _ _ _ _ done]
  · intro session error later stopped
    rcases bind_error _ _ _ _ _ stopped with failed | ⟨value, between, _, failed⟩
    · exact head.calm session error later failed
    · exact (tail value).calm between error later failed

theorem aside_lift (result : Except Overflow α) : Aside (lift result) := by
  constructor
  · intro session reader
    cases result <;> rfl
  · intro session error later stopped
    cases result <;> cases stopped

theorem aside_average : Aside average := by
  constructor
  · intro session reader
    exact (aside_lift session.table.average).apart session reader
  · intro session
    exact (aside_lift session.table.average).calm session

theorem aside_step (rule : Rule α) (value : Session → α) (move : Session → Session)
    (step : ∀ session, rule session = .ok (value session) (move session))
    (same : ∀ (session : Session) reader, value { session with reader } = value session)
    (apart : ∀ (session : Session) reader, move { session with reader } = { move session with reader }) : Aside rule := by
  constructor
  · intro session reader
    rw [step, step, same, apart]
  · intro session error later stopped
    rw [step] at stopped
    cases stopped

theorem aside_draw (jitter : Jitter) : Aside (draw jitter) :=
  aside_step _ _ _ (fun _ => rfl) (fun _ _ => rfl) fun _ _ => rfl

theorem aside_find (name : String) : Aside (find? name) :=
  aside_step _ _ _ (fun _ => rfl) (fun _ _ => rfl) fun _ _ => rfl

theorem aside_record (name : String) (coords : Coords Number) : Aside (record name coords) :=
  aside_step _ _ _ (fun _ => rfl) (fun _ _ => rfl) fun _ _ => rfl

theorem aside_note (event : Event) : Aside (note event) :=
  aside_step _ _ _ (fun _ => rfl) (fun _ _ => rfl) fun _ _ => rfl

theorem aside_table_size : Aside tableSize :=
  aside_step _ _ _ (fun _ => rfl) (fun _ _ => rfl) fun _ _ => rfl

theorem aside_inferred (jitter : Jitter) : Aside (inferred jitter) := by
  have moved : ∀ value, Aside (moved jitter value) := fun _ => aside_bind _ _ (aside_draw jitter) fun _ => aside_lift _
  exact aside_bind _ _ aside_average fun _ => aside_bind _ _ (moved _) fun _ =>
    aside_bind _ _ (moved _) fun _ => aside_pure _

-- A rule that does not depend on the reader does not move it either.
theorem aside_facing (rule : Rule α) (aside : Aside rule) (session later : Session) (value : α)
    (done : rule session = .ok value later) (tail : List Token) :
    rule (session.facing tail) = .ok value (later.facing tail) ∧ later.reader = session.reader := by
  have kept := aside.apart session session.reader
  rw [done] at kept
  have reader : later.reader = session.reader := by rw [(EStateM.Result.ok.inj kept).2]
  have apart := aside.apart session ⟨session.reader.consumed, tail⟩
  have facing : later.facing tail = { later with reader := ⟨session.reader.consumed, tail⟩ } := by
    rw [Session.facing, reader]
  rw [done] at apart
  rw [facing]
  exact ⟨apart, reader⟩

theorem passes_aside (rule : Rule α) (aside : Aside rule) (session later : Session) (value : α)
    (done : rule session = .ok value later) : Passes rule session [] value later := by
  have kept := (aside_facing rule aside session later value done []).2
  refine ⟨?_, ?_, fun tail _ => (aside_facing rule aside session later value done tail).1⟩
  · rw [kept]
    rfl
  · rw [kept]
    rfl

theorem located_aside (rule : Rule α) (aside : Aside rule) : Located rule (· = []) :=
  ⟨begins_nothing _ rfl, fun session =>
    ⟨fun value later done => ⟨[], rfl, passes_aside rule aside session later value done⟩,
      fun error later stopped => absurd stopped (aside.calm session error later)⟩⟩

-- Single tokens. One that is asked for is consumed even if it is refused; one that is looked at is not.

theorem locates_next (rule : Rule α) (phrase : List Token → Prop) (session : Session) (possible : Begins phrase [])
    (ended : session.reader.remaining = [] → ∃ expected, Asks phrase [] expected ∧
      (expected = .token none none → ∃ mark ∈ session.reader.consumed.head?, mark.Leads) ∧
      rule session = .error (.violation (.unmet expected session.reader.snapshot)) session)
    (single : ∀ token, (∃ value, phrase [token] ∧ ∀ rest, rule (session.facing (token :: rest)) =
        .ok value { session with reader := ⟨token :: session.reader.consumed, rest⟩ }) ∨
      ∃ expected, Asks phrase [] expected ∧ expected ≠ .token none none ∧ ¬expected.Peeks ∧
        ∀ rest, rule (session.facing (token :: rest)) = .error (.violation (.unmet expected token.snapshot))
          { session with reader := ⟨token :: session.reader.consumed, rest⟩ }) :
    Locates rule phrase session := by
  cases ahead : session.reader.remaining with
  | nil =>
      -- Nothing is left to consume, and the last token is shown.
      obtain ⟨expected, asks, bare, failed⟩ := ended ahead
      constructor
      · intro value later done
        rw [failed] at done
        cases done
      · intro error later stopped
        rw [failed] at stopped
        cases stopped
        refine .ended ?_ ahead ?_ rfl ?_ bare
        · rw [ahead]
          rfl
        · rw [ahead]
          exact possible
        · rw [ahead]
          exact asks
  | cons token rest =>
      have here := facing_self session _ ahead
      rcases single token with ⟨value, holds, passed⟩ | ⟨expected, asks, telling, consumes, failed⟩
      · constructor
        · intro result later done
          rw [← here, passed] at done
          cases done
          exact ⟨[token], holds, rfl, ahead, fun tail _ => passed tail⟩
        · intro error later stopped
          rw [← here, passed] at stopped
          cases stopped
      · constructor
        · intro result later done
          rw [← here, failed] at done
          cases done
        · intro error later stopped
          rw [← here, failed] at stopped
          cases stopped
          refine .refused [] token rest ahead possible rfl ?_ (fun tail => ⟨_, failed tail⟩) asks telling
          have taken : (if (SyntaxError.unmet expected token.snapshot).expected.Peeks then [] else [] ++ [token]) = [token] :=
            if_neg consumes
          rw [taken]
          rfl

theorem located_take (category : Category) (value : Option String) (word : String) (sample : Token)
    (lexed : tokenize word = .ok [sample]) (fits : Fits (some category) value sample) :
    Located (take (some category) value) fun text => ∃ token, text = [token] ∧ Fits (some category) value token := by
  have asks : Asks (fun text => ∃ token, text = [token] ∧ Fits (some category) value token) [] (.token (some category) value) :=
    ⟨⟨word, sample, lexed, fits⟩, fun token _ named => ⟨[], ⟨token, rfl, named⟩, fun _ none => (List.not_mem_nil none).elim⟩⟩
  have possible : Begins (fun text => ∃ token, text = [token] ∧ Fits (some category) value token) [] :=
    ⟨[sample], ⟨sample, rfl, fits⟩, tokenize_disciplined word _ lexed⟩
  have telling : Expectation.token (some category) value ≠ .token none none := fun same => by cases same
  refine ⟨possible, fun session => locates_next _ _ session possible
    (fun ended => ⟨_, asks, fun same => absurd same telling, take_end _ _ session ended⟩) fun token => ?_⟩
  by_cases met : ((some category).all (· == token.category) && value.all (· == token.value)) = true
  · refine .inl ⟨token, ⟨token, rfl, (fits_iff _ _ _).mp met⟩, fun rest => ?_⟩
    rw [take_cons (some category) value _ token rest rfl, if_pos met]
    rfl
  · refine .inr ⟨_, asks, telling, token_not_peeks (some category) value, fun rest => ?_⟩
    rw [take_cons (some category) value _ token rest rfl, if_neg met]
    rfl

theorem locates_refuse (expected : Expectation) (phrase : List Token → Prop) (session : Session)
    (peeks : expected.Peeks) (possible : Begins phrase []) (asks : Asks phrase [] expected) :
    Locates (peekSnapshot >>= fail expected : Rule α) phrase session := by
  have telling : expected ≠ .token none none := fun same => token_not_peeks none none (same ▸ peeks)
  have failed : ∀ session : Session, (peekSnapshot >>= fail expected : Rule α) session =
      .error (.violation (.unmet expected session.reader.peekSnapshot)) session := fun _ => rfl
  constructor
  · intro value later done
    rw [failed] at done
    cases done
  · intro error later stopped
    rw [failed] at stopped
    cases stopped
    cases ahead : session.reader.remaining with
    | nil =>
        refine .ended ?_ ahead ?_ ?_ ?_ fun same => absurd same telling
        · rw [ahead]
          rfl
        · rw [ahead]
          exact possible
        · rw [Reader.peekSnapshot, ahead]
          rfl
        · rw [ahead]
          exact asks
    | cons token rest =>
        have shown : session.reader.peekSnapshot = token.snapshot := by rw [Reader.peekSnapshot, ahead]
        rw [shown]
        refine .refused [] token rest ahead possible rfl ?_ (fun tail => ⟨session.facing (token :: tail), failed _⟩)
          asks telling
        have kept : (if (SyntaxError.unmet expected token.snapshot).expected.Peeks then [] else [token]) = ([] : List Token) :=
          if_pos peeks
        rw [List.nil_append, kept]
        rfl

end Rule

end Straightedge
