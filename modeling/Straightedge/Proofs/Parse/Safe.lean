import Straightedge.Parse.Reading
import Straightedge.Proofs.Parse.Drawing
import Straightedge.Proofs.Parse.Hereditary
import Straightedge.Proofs.Place.Total

namespace Straightedge

theorem empty_convertible : Table.Convertible [] := fun _ none => (List.not_mem_nil none).elim

theorem denotes_convertible (token : Token) (value : Number) (denotes : Grammar.Denotes token value) :
    value.Convertible := by
  cases denotes with
  | integer _ _ n _ inRange => exact (Number.integer_convertible n).mpr inRange
  | real _ _ real _ _ => exact Number.real_convertible real

-- The table is kept in range also by a rule that stops, since a session can be taken up again there.
def Rule.Safe {α : Type} (rule : Rule α) (kind : α → Prop) : Prop :=
  ∀ session, session.table.Convertible →
    (∃ value later, rule session = .ok value later ∧ kind value ∧ later.table.Convertible) ∨
      ∃ error later, rule session = .error (.violation error) later ∧ later.table.Convertible

namespace Rule

variable {α β : Type}

-- Rules that work on the tokens alone.

def Blind (rule : Rule α) (kind : α → Prop) : Prop := ∀ reader,
  (∃ value later, kind value ∧ ∀ table requests journal,
    rule ⟨reader, table, requests, journal⟩ = .ok value ⟨later, table, requests, journal⟩) ∨
  ∃ error later, ∀ table requests journal,
    rule ⟨reader, table, requests, journal⟩ = .error (.violation error) ⟨later, table, requests, journal⟩

theorem blind_pure (value : α) (kind : α → Prop) (holds : kind value) : Blind (pure value) kind :=
  fun reader => .inl ⟨value, reader, holds, fun _ _ _ => rfl⟩

theorem blind_fail (expected : Expectation) (found : Snapshot) (kind : α → Prop) : Blind (fail expected found) kind :=
  fun reader => .inr ⟨_, reader, fun _ _ _ => rfl⟩

theorem blind_bind (rule : Rule α) (next : α → Rule β) (first : α → Prop) (second : β → Prop) (head : Blind rule first)
    (tail : ∀ value, first value → Blind (next value) second) : Blind (rule >>= next) second := by
  intro reader
  rcases head reader with ⟨value, between, holds, passed⟩ | ⟨error, later, failed⟩
  · rcases tail value holds between with ⟨result, later, fine, done⟩ | ⟨error, later, failed⟩
    · exact .inl ⟨result, later, fine, fun _ _ _ => (bind_passed _ _ _ _ _ (passed _ _ _)).trans (done _ _ _)⟩
    · exact .inr ⟨error, later, fun _ _ _ => (bind_passed _ _ _ _ _ (passed _ _ _)).trans (failed _ _ _)⟩
  · exact .inr ⟨error, later, fun _ _ _ => bind_failed _ _ _ _ _ (failed _ _ _)⟩

theorem blind_look (look : Rule α) (see : Reader → α) (seen : ∀ session, look session = .ok (see session.reader) session) :
    Blind look fun _ => True :=
  fun reader => .inl ⟨see reader, reader, trivial, fun _ _ _ => seen _⟩

theorem blind_take (category : Option Category) (value : Option String) : Blind (take category value) fun _ => True := by
  rintro ⟨consumed, remaining⟩
  cases remaining with
  | nil =>
      exact .inr ⟨.unmet (.token category value) (Reader.snapshot ⟨consumed, []⟩), ⟨consumed, []⟩,
        fun _ _ _ => take_end category value _ rfl⟩
  | cons token rest =>
      by_cases fits : (category.all (· == token.category) && value.all (· == token.value)) = true
      · refine .inl ⟨token, ⟨token :: consumed, rest⟩, trivial, fun _ _ _ => ?_⟩
        rw [take_cons category value _ token rest rfl, if_pos fits]
      · refine .inr ⟨.unmet (.token category value) token.snapshot, ⟨token :: consumed, rest⟩, fun _ _ _ => ?_⟩
        rw [take_cons category value _ token rest rfl, if_neg fits]

theorem blind_value (category : Option Category) :
    Blind (do return (← take category none).value : Rule String) fun _ => True :=
  blind_bind _ _ _ _ (blind_take _ _) fun _ _ => blind_pure _ _ trivial

theorem blind_number : Blind number Number.Convertible := by
  refine blind_bind _ _ _ _ (blind_take none none) fun token _ => ?_
  cases found : token.number? with
  | none => exact blind_fail _ _ _
  | some value => exact blind_pure _ _ (denotes_convertible token value ((number_denotes token value).mp found))

theorem blind_coords : Blind coords Coords.Convertible :=
  blind_bind _ _ _ _ (blind_take _ _) fun _ _ => blind_bind _ _ _ _ blind_number fun _ x =>
    blind_bind _ _ _ _ (blind_take _ _) fun _ _ => blind_bind _ _ _ _ blind_number fun _ y =>
      blind_bind _ _ _ _ (blind_take _ _) fun _ _ => blind_pure _ _ ⟨x, y⟩

theorem blind_mark : Blind pointMark fun _ => True := by
  refine blind_bind _ _ _ _ (blind_look front? (fun reader => reader.remaining.head?) fun _ => rfl) fun front _ => ?_
  cases front with
  | none => exact blind_bind _ _ _ _ (blind_look snapshot Reader.snapshot fun _ => rfl) fun _ _ => blind_fail _ _ _
  | some head =>
      dsimp only
      split
      · exact blind_bind _ _ _ _ (blind_take _ _) fun _ _ => blind_pure _ _ trivial
      · split
        · exact blind_pure _ _ trivial
        · exact blind_fail _ _ _

-- Rules that stop at nothing but violations.

theorem safe_pure (value : α) (kind : α → Prop) (holds : kind value) : Safe (pure value) kind := by
  intro session convertible
  exact .inl ⟨value, session, rfl, holds, convertible⟩

def SafeFrom (rule : Rule α) (kind : α → Prop) (session : Session) : Prop := session.table.Convertible →
  (∃ value later, rule session = .ok value later ∧ kind value ∧ later.table.Convertible) ∨
    ∃ error later, rule session = .error (.violation error) later ∧ later.table.Convertible

theorem safe_both (rule : Rule α) (next : α → Rule β) (first : α → Prop) (second : β → Prop) (session : Session)
    (head : SafeFrom rule first session)
    (tail : ∀ value later, rule session = .ok value later → first value → SafeFrom (next value) second later) :
    SafeFrom (rule >>= next) second session := by
  intro convertible
  rcases head convertible with ⟨value, between, passed, holds, kept⟩ | ⟨error, later, stopped, kept⟩
  · rw [bind_passed rule next session between value passed]
    exact tail value between passed holds kept
  · exact .inr ⟨error, later, bind_failed rule next session later _ stopped, kept⟩

theorem safe_bind (rule : Rule α) (next : α → Rule β) (first : α → Prop) (second : β → Prop)
    (head : Safe rule first) (tail : ∀ value, first value → Safe (next value) second) :
    Safe (rule >>= next) second :=
  fun session => safe_both rule next first second session (head session) fun value later _ holds => tail value holds later

theorem safe_fail (expected : Expectation) (found : Snapshot) (kind : α → Prop) : Safe (fail expected found) kind := by
  intro session convertible
  exact .inr ⟨_, session, rfl, convertible⟩

theorem safe_step (rule : Rule α)
    (step : ∀ session, ∃ value later, rule session = .ok value later ∧ later.table = session.table) :
    Safe rule fun _ => True := by
  intro session convertible
  obtain ⟨value, later, done, same⟩ := step session
  exact .inl ⟨value, later, done, trivial, same ▸ convertible⟩

theorem safe_peek_value : Safe peekValue? fun _ => True := safe_step _ fun session => ⟨_, session, rfl, rfl⟩

theorem safe_peek_snapshot : Safe peekSnapshot fun _ => True := safe_step _ fun session => ⟨_, session, rfl, rfl⟩

theorem safe_note (event : Event) : Safe (note event) fun _ => True := safe_step _ fun _ => ⟨(), _, rfl, rfl⟩

theorem safe_table_size : Safe tableSize fun _ => True := safe_step _ fun session => ⟨_, session, rfl, rfl⟩

theorem safe_blind (rule : Rule α) (kind : α → Prop) (blind : Blind rule kind) : Safe rule kind := by
  rintro ⟨reader, table, requests, journal⟩ convertible
  rcases blind reader with ⟨value, later, holds, passed⟩ | ⟨error, later, stopped⟩
  · exact .inl ⟨value, _, passed table requests journal, holds, convertible⟩
  · exact .inr ⟨error, _, stopped table requests journal, convertible⟩

theorem safe_take (category : Option Category) (value : Option String) : Safe (take category value) fun _ => True :=
  safe_blind _ _ (blind_take category value)

theorem safe_find (name : String) : Safe (find? name) fun found => ∀ coords ∈ found, coords.Convertible := by
  intro session convertible
  refine .inl ⟨_, session, rfl, fun coords found => ?_, convertible⟩
  exact Table.find_convertible session.table name coords convertible found

theorem safe_record (name : String) (coords : Coords Number) (new : coords.Convertible) :
    Safe (record name coords) fun _ => True := by
  intro session convertible
  exact .inl ⟨(), _, rfl, trivial, Table.record_convertible session.table name coords convertible new⟩

variable {jitter : Jitter}

theorem inferred_total (bounded : jitter.Bounded) (session : Session) (convertible : session.table.Convertible) :
    ∃ coords later, inferred jitter session = .ok coords later ∧ coords.Convertible ∧ later.table = session.table := by
  -- The average is a real number, or the integer zero of an empty table; the jitter keeps either in range.
  obtain ⟨near, averaged, xAverage, yAverage⟩ := Table.average_total session.table convertible
  obtain ⟨xLow, xHigh⟩ := bounded session.requests.length
  obtain ⟨yLow, yHigh⟩ := bounded (session.requests.length + 1)
  obtain ⟨x, xMoved, xKept⟩ := Number.add_jitter_total _ _ xLow xHigh xAverage
  obtain ⟨y, yMoved, yKept⟩ := Number.add_jitter_total _ _ yLow yHigh yAverage
  obtain ⟨later, done, viewed⟩ := (realizes_inferred jitter).complete session ⟨x, y⟩ _
    ⟨⟨near, averaged, xMoved, yMoved⟩, rfl⟩
  exact ⟨⟨x, y⟩, later, done, ⟨xKept, yKept⟩, congrArg (fun view => view.memory.table) viewed⟩

theorem safe_inferred (bounded : jitter.Bounded) : Safe (inferred jitter) Coords.Convertible := by
  intro session convertible
  obtain ⟨coords, later, done, kept, same⟩ := inferred_total bounded session convertible
  exact .inl ⟨coords, later, done, kept, same ▸ convertible⟩

theorem safe_resolve (bounded : jitter.Bounded) (name : String) : Safe (resolve jitter name) Coords.Convertible := by
  refine safe_bind _ _ _ _ safe_peek_value fun front _ => ?_
  split
  · exact safe_blind _ _ blind_coords
  · refine safe_bind _ _ _ _ (safe_find name) fun found known => ?_
    cases found with
    | some coords => exact safe_pure _ _ (known coords rfl)
    | none =>
        exact safe_bind _ _ _ _ (safe_inferred bounded) fun _ new =>
          safe_bind _ _ _ _ (safe_note _) fun _ _ => safe_pure _ _ new

theorem safe_point (bounded : jitter.Bounded) : Safe (point jitter) fun _ => True :=
  safe_bind _ _ _ _ (safe_blind _ _ blind_mark) fun _ _ =>
    safe_bind _ _ _ _ (safe_blind _ _ (blind_value (some .identifier))) fun name _ =>
      safe_bind _ _ _ _ (safe_resolve bounded name) fun coords new =>
        safe_bind _ _ _ _ (safe_record name coords new) fun _ _ => safe_pure _ _ trivial

theorem safe_hereditary (bounded : jitter.Bounded) :
    Hereditary jitter fun rule session => SafeFrom rule (fun _ => True) session where
  value value := safe_pure value _ trivial
  both rule next session head tail := safe_both rule next _ _ session head fun value later passed _ => tail value later passed
  point := safe_point bounded
  word _ := safe_take _ _
  operator := safe_blind _ _ (blind_value (some .operator))
  terminator := safe_take _ _
  noted := safe_note
  counted := safe_table_size
  refused expected := safe_bind _ _ _ _ safe_peek_snapshot fun _ _ => safe_fail expected _ _
  picked _ _ _ _ tail := tail
  ended session nothing convertible := .inl ⟨[], session, commands_end jitter session nothing, trivial, convertible⟩
  more session unfinished rest convertible := by
    rw [commands_step jitter session unfinished]
    exact rest convertible

theorem safe_drawing (bounded : jitter.Bounded) : Safe (drawing jitter) fun _ => True :=
  hereditary_drawing (safe_hereditary bounded)

-- Bounded jitter never leads out of the range of the numbers.
theorem drawing_in_range (bounded : jitter.Bounded) (tokens : List Token) (cause : Overflow) (later : Session) :
    drawing jitter ⟨.ofTokens tokens, [], [], []⟩ ≠ .error (.overflow cause) later := by
  intro out
  rcases safe_drawing bounded ⟨.ofTokens tokens, [], [], []⟩ empty_convertible with ⟨_, _, done, _⟩ | ⟨_, _, stopped, _⟩
  · cases out.symm.trans done
  · cases out.symm.trans stopped

end Rule

end Straightedge
