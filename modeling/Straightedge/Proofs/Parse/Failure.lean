import Straightedge.Proofs.Jitter.Bounded
import Straightedge.Proofs.Parse.Safe
import Straightedge.Proofs.Parse.Strict
import Straightedge.Proofs.Parse.Violation
import Straightedge.Proofs.Token.Walk

namespace Straightedge

namespace Strict

variable {α : Type}

-- Of all the ways in which reading can break off, only the violations are left.
def Contained (rule : Strict α) (session : Session) : Prop :=
  (∃ value later, rule session = .ok value later) ∨ ∃ error later, rule session = .error (.violation error) later

theorem of_rule_ok (rule : Rule α) (session later : Session) (value : α) (done : rule session = .ok value later) :
    ofRule rule session = .ok value later := by
  rw [ofRule, done]

theorem of_rule_violation (rule : Rule α) (session later : Session) (error : SyntaxError)
    (stopped : rule session = .error (.violation error) later) :
    ofRule rule session = .error (.violation error) later := by
  rw [ofRule, stopped]
  rfl

theorem number_contained (session : Session) : Contained number session := by
  obtain ⟨reader, table, requests, journal⟩ := session
  rw [Contained, number_guarded]
  rcases Rule.blind_number reader with ⟨value, later, _, done⟩ | ⟨error, later, stopped⟩
  · exact .inl ⟨value, _, of_rule_ok _ _ _ value (done table requests journal)⟩
  · exact .inr ⟨error, _, of_rule_violation _ _ _ error (stopped table requests journal)⟩

end Strict

theorem start_safe (tokens : List Token) :
    Session.start tokens = .error (.unmet .initial ⟨0, ""⟩) ∨
      Session.start tokens = .ok ⟨.ofTokens tokens, [], [], []⟩ := by
  cases tokens with
  | nil => exact .inl rfl
  | cons token rest => exact .inr rfl

-- What reading tokens comes to, told by the parser whose every look-up, conversion and division may fail.
inductive Strict.Reads (jitter : Jitter) (tokens : List Token) : Prop where
  | empty (error : SyntaxError) (refused : Session.start tokens = .error error)
      (reading : Reading.ofTokens jitter tokens = .empty error)
  | stopped (error : SyntaxError) (session later : Session) (started : Session.start tokens = .ok session)
      (read : Strict.drawing jitter session = .error (.violation error) later)
      (reading : Reading.ofTokens jitter tokens = .stopped (.violation error) later)
      (shown : ∃ token ∈ tokens, error.offset = token.offset)
  | finished (drawing : Drawing) (session later : Session) (started : Session.start tokens = .ok session)
      (read : Strict.drawing jitter session = .ok drawing later)
      (reading : Reading.ofTokens jitter tokens = .finished drawing later)

theorem tokens_read (jitter : Jitter) (bounded : jitter.Bounded) (tokens : List Token) : Strict.Reads jitter tokens := by
  rcases start_safe tokens with refused | started
  · exact .empty _ refused (by rw [Reading.ofTokens, refused])
  · have strictly := congrFun (Strict.drawing_guarded jitter) ⟨.ofTokens tokens, [], [], []⟩
    rcases Rule.safe_drawing bounded ⟨.ofTokens tokens, [], [], []⟩ empty_convertible with
      ⟨drawing, later, done, _, _⟩ | ⟨error, later, stopped, _⟩
    · exact .finished drawing _ later started (strictly.trans (Strict.of_rule_ok _ _ _ _ done))
        (by simp only [Reading.ofTokens, started, done])
    · have reading : Reading.ofTokens jitter tokens = .stopped (.violation error) later := by
        simp only [Reading.ofTokens, started, stopped]
      obtain ⟨token, inside, shown⟩ := stopped_shows jitter tokens error later reading
      exact .stopped error _ later started (strictly.trans (Strict.of_rule_violation _ _ _ _ stopped)) reading
        ⟨token, inside, by rw [shown]; rfl⟩

/-- From a source to its drawing nothing fails but by a violation of the grammar: no read goes past the last
character or token, no conversion of a literal gets past its handler, and no number in a table, finite or
not, breaks the running average or the jitter. -/
theorem front_end_fails_by_violation (jitter : Jitter) (bounded : jitter.Bounded) :
    (∀ source, (∃ tokens later, Walk.tokens ⟨source.toList, 0⟩ = .ok tokens later ∧ tokenize source = .ok tokens) ∨
      ∃ error later, Walk.tokens ⟨source.toList, 0⟩ = .error (.violation error) later ∧
        tokenize source = .error error) ∧
    ((∀ category value, Strict.take category value = Strict.ofRule (Rule.take category value)) ∧
      Strict.peekSnapshot = Strict.ofRule Rule.peekSnapshot ∧ Strict.peekValue? = Strict.ofRule Rule.peekValue? ∧
        Strict.front? = Strict.ofRule Rule.front? ∧ Strict.number = Strict.ofRule Rule.number ∧
          Strict.average = Strict.ofRule Rule.average ∧
            Strict.drawing jitter = Strict.ofRule (Rule.drawing jitter)) ∧
    (∀ tokens, Strict.Reads jitter tokens) ∧
    (∀ session, Strict.Contained Strict.number session) ∧
    (∀ table : Table, table.Convertible → ∃ near, Table.strictAverageFrom 0 ⟨.integer 0, .integer 0⟩ table = .ok near) ∧
    ∀ session, session.table.Convertible →
      (∃ coords later, Strict.inferred jitter session = .ok coords later) ∧
        ((∃ drawing later, Strict.drawing jitter session = .ok drawing later ∧ later.table.Convertible) ∨
          ∃ error later, Strict.drawing jitter session = .error (.violation error) later ∧ later.table.Convertible) := by
  refine ⟨tokenize_walked, ⟨Strict.take_guarded, Strict.peek_snapshot_guarded, Strict.peek_value_guarded,
    Strict.front_guarded, Strict.number_guarded, Strict.average_guarded, Strict.drawing_guarded jitter⟩,
    tokens_read jitter bounded, Strict.number_contained, fun table convertible => ?_,
    fun session convertible => ⟨?_, ?_⟩⟩
  · obtain ⟨near, averaged, _⟩ := Table.average_total table convertible
    rw [Table.average] at averaged
    exact ⟨near, by rw [Strict.strict_average_from, averaged]; rfl⟩
  · obtain ⟨coords, later, done, _⟩ := Rule.inferred_total bounded session convertible
    rw [Strict.inferred_guarded]
    exact ⟨coords, later, Strict.of_rule_ok _ _ _ _ done⟩
  · rw [Strict.drawing_guarded]
    rcases Rule.safe_drawing bounded session convertible with ⟨drawing, later, done, _, kept⟩ | ⟨error, later, stopped, kept⟩
    · exact .inl ⟨drawing, later, Strict.of_rule_ok _ _ _ _ done, kept⟩
    · exact .inr ⟨error, later, Strict.of_rule_violation _ _ _ _ stopped, kept⟩

-- The conversions do fail here, on a text that is no literal and on an integer that is out of range.
theorem odd_tokens_refused : (Jitter.cycle [3, 4]).Bounded ∧
    (∃ error later, Reading.ofTokens (.cycle [3, 4]) [⟨.other "Note" (by decide), "POINT", 7⟩] = .stopped (.violation error) later) ∧
    (∃ coords later, Strict.inferred (.cycle [3, 4])
      ⟨.ofTokens [], [("A", ⟨.real (.infinite false), .real .nan⟩)], [], []⟩ = .ok coords later) ∧
    (Literal.integer "x" = .error .malformed ∧ ∃ error later,
      Strict.number ⟨.ofTokens [⟨.integerLiteral, "x", 0⟩], [], [], []⟩ = .error (.violation error) later) ∧
    (Number.integer (10 ^ 309)).finite = .error .conversion := by
  have bounded : (Jitter.cycle [3, 4]).Bounded := cycle_bounded _ (by decide)
  have convertible : Table.Convertible [("A", ⟨.real (.infinite false), .real .nan⟩)] :=
    List.forall_mem_singleton.mpr ⟨Number.real_convertible _, Number.real_convertible _⟩
  obtain ⟨_, _, parsed, contained, _, averaged⟩ := front_end_fails_by_violation (.cycle [3, 4]) bounded
  refine ⟨bounded, ?_, (averaged _ convertible).1, ⟨by decide +kernel, ?_⟩, by decide +kernel⟩
  · rcases parsed [⟨.other "Note" (by decide), "POINT", 7⟩] with ⟨_, refused, _⟩ | ⟨error, _, later, _, _, reading, _⟩ |
      ⟨_, _, _, _, _, reading⟩
    · cases refused
    · exact ⟨error, later, reading⟩
    · obtain ⟨_, tree, tokens, _⟩ := reading_sound _ _ _ _ reading
      cases tokens
  · rcases contained ⟨.ofTokens [⟨.integerLiteral, "x", 0⟩], [], [], []⟩ with ⟨value, later, read⟩ | stopped
    · rw [Strict.number_guarded] at read
      cases read
    · exact stopped

end Straightedge
