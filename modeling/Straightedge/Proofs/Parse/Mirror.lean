import Straightedge.Proofs.Parse.Accept
import Straightedge.Proofs.Parse.Lockstep
import Straightedge.Proofs.Parse.Recast

namespace Straightedge

def Point.Agree (pairs : Axis → Axis → Prop) (point other : Point Number) : Prop :=
  point.name = other.name ∧ point.coords.Agree pairs other.coords

structure View.Beside (same : Coords Token → Coords Token → Prop) (pairs : Axis → Axis → Prop) (view other : View) : Prop where
  ahead : Recast same view.ahead other.ahead
  memory : view.memory.Agree pairs other.memory
  convertible : other.memory.table.Convertible

structure Compared (same : Coords Token → Coords Token → Prop) (pairs : Axis → Axis → Prop) (first second : Jitter) : Prop where
  renders : Renders same pairs
  draws : Jitter.Agree pairs first second
  bounded : second.Bounded

theorem beside_next (same : Coords Token → Coords Token → Prop) (pairs : Axis → Axis → Prop) (view other : View)
    (beside : view.Beside same pairs other) : other.next = view.next := recast_next _ _ beside.ahead

theorem beside_ended (same : Coords Token → Coords Token → Prop) (pairs : Axis → Axis → Prop) (view other : View)
    (beside : view.Beside same pairs other) : other.ahead = [] ↔ view.ahead = [] := by
  have next : other.ahead.head?.map Token.value = view.ahead.head?.map Token.value := beside_next _ _ _ _ beside
  rw [← List.head?_eq_none_iff, ← List.head?_eq_none_iff, ← Option.map_eq_none_iff, next, Option.map_eq_none_iff]

namespace Rule

variable {α β γ δ : Type}

def Mirrors (like : View → View → Prop) (values : α → β → Prop) (rule : Rule α) (other : Rule β) : Prop :=
  ∀ session around value later, like session.view around.view → rule session = .ok value later →
    ∃ value' later', other around = .ok value' later' ∧ values value value' ∧ like later.view later'.view

section

variable {like : View → View → Prop}

-- What the rules do is known of both, so only the views have to be compared.
theorem mirrors_realized (values : α → β → Prop) (rule : Rule α) (other : Rule β) (outcome : View → α → View → Prop)
    (outcome' : View → β → View → Prop) (realizes : Realizes rule outcome) (realizesToo : Realizes other outcome')
    (related : ∀ before before' value after, like before before' → outcome before value after →
      ∃ value' after', outcome' before' value' after' ∧ values value value' ∧ like after after') :
    Mirrors like values rule other := by
  intro session around value later before done
  obtain ⟨value', after, holds, same, kept⟩ := related _ _ value _ before (realizes.sound session value later done)
  obtain ⟨later', done', rfl⟩ := realizesToo.complete around value' after holds
  exact ⟨value', later', done', same, kept⟩

theorem mirrors_note (event other : Event) : Mirrors like Eq (note event) (note other) := by
  refine mirrors_realized _ _ _ _ _ (realizes_note event) (realizes_note other) ?_
  rintro before before' _ _ related rfl
  exact ⟨(), before', rfl, rfl, related⟩

end

section

variable {same : Coords Token → Coords Token → Prop} {pairs : Axis → Axis → Prop}

theorem mirrors_closed (token : Token) (before before' after : View) (closed : ¬token.Opens)
    (beside : before.Beside same pairs before') (reads : Reads [token] before after) :
    ∃ token' after', token.Alike token' ∧ Reads [token'] before' after' ∧ after.Beside same pairs after' := by
  cases reads
  obtain ⟨ahead, memory⟩ := before'
  obtain ⟨recast, agree, convertible⟩ := beside
  obtain ⟨token', rest, rfl, alike, tail⟩ := recast_closed _ _ _ recast closed
  exact ⟨token', ⟨rest, memory⟩, alike, rfl, tail, agree, convertible⟩

theorem mirrors_fixed (category : Category) (value : String) (closed : category = .separator → value ≠ Vocabulary.opening) :
    Mirrors (View.Beside same pairs) (fun _ _ => True) (take (some category) (some value)) (take (some category) (some value)) := by
  refine mirrors_realized _ _ _ _ _ (realizes_fixed category value) (realizes_fixed category value) ?_
  rintro before before' _ after beside ⟨fixed, rfl, reads⟩
  obtain ⟨token', after', alike, reads', kept⟩ := mirrors_closed _ _ _ _ (fun opens => closed opens.1 opens.2) beside reads
  obtain ⟨fixed', rfl⟩ := fixed_alike _ _ fixed token' alike
  exact ⟨_, after', ⟨fixed', rfl, reads'⟩, trivial, kept⟩

theorem mirrors_keyword (word : Keyword) :
    Mirrors (View.Beside same pairs) (fun _ _ => True) (keyword word) (keyword word) := mirrors_fixed _ _ nofun

theorem mirrors_operator : Mirrors (View.Beside same pairs) Eq operator operator := by
  refine mirrors_realized _ _ _ _ _ (realizes_spelling .operator) (realizes_spelling .operator) ?_
  rintro before before' _ after beside ⟨free, rfl, reads⟩
  obtain ⟨token', after', alike, reads', kept⟩ := mirrors_closed _ _ _ _ (fun opens => by cases opens.1) beside reads
  obtain ⟨free', rfl, spelled⟩ := free_alike _ free token' alike
  exact ⟨_, after', ⟨free', rfl, reads'⟩, spelled.symm, kept⟩

variable {first second : Jitter} (compared : Compared same pairs first second)

include compared

theorem mirrors_point : Mirrors (View.Beside same pairs) (Point.Agree pairs) (point first) (point second) := by
  refine mirrors_realized _ _ _ _ _ (realizes_point first) (realizes_point second) ?_
  rintro before ⟨ahead, memory⟩ value ⟨rest, later⟩ ⟨recast, agree, convertible⟩ ⟨tree, split, clear, placed⟩
  rw [split] at recast
  obtain ⟨tree', rest', rfl, behind, occurrences, clearToo⟩ := recast_point compared.renders tree rest _ recast
  have written : ∀ coords ∈ tree'.occurrence.written?, coords.Convertible :=
    written_convertible [tree'] tree'.occurrence List.mem_cons_self
  obtain ⟨value', later', placed', kept⟩ := Memory.places_total compared.bounded memory tree'.occurrence convertible written
  obtain ⟨names, places, memories⟩ := places_agree compared.draws _ _ _ _ agree _ _ occurrences _ _ placed placed'
  exact ⟨value', ⟨rest', later'⟩, ⟨tree', rfl, clearToo clear, placed'⟩, ⟨names, places⟩, behind, memories, kept⟩

theorem mirrors_coupled : Coupled (Point.Agree pairs) first second fun values rule other session around =>
    ∀ value later, View.Beside same pairs session.view around.view → rule session = .ok value later →
      ∃ value' later', other around = .ok value' later' ∧ values value value' ∧
        View.Beside same pairs later.view later'.view where
  value _ _ two session around alike _ _ beside done := by
    cases done
    exact ⟨two, around, rfl, alike, beside⟩
  both values results rule other next next' session around head tail result last beside done := by
    obtain ⟨value, later, passed, rest⟩ := (bind_ok rule next session last result).mp done
    obtain ⟨value', later', passed', alike, kept⟩ := head value later beside passed
    obtain ⟨result', last', rest', alikeToo, keptToo⟩ := tail value value' later later' passed alike result last kept rest
    exact ⟨result', last', (bind_ok other next' around last' result').mpr ⟨value', later', passed', rest'⟩, alikeToo, keptToo⟩
  point := mirrors_point compared
  word := mirrors_keyword
  operator := mirrors_operator
  terminator := mirrors_fixed _ _ fun _ => by decide
  noted := mirrors_note
  counted session around _ _ beside done := by
    cases done
    exact ⟨_, around, rfl, trivial, beside⟩
  refused _ expected session _ value later _ done :=
    ((realizes_refuse peekSnapshot expected).sound session value later done).elim
  picked _ next next' session around tail value later beside done := by
    have ahead : around.reader.peekValue? = session.reader.peekValue? := beside_next _ _ _ _ beside
    rw [bind_passed frontKeyword? next session session _ rfl] at done
    rw [bind_passed frontKeyword? next' around around _ rfl, ahead]
    exact tail _ value later beside done
  ended session around ended _ _ beside done := by
    rw [commands_end first session ended] at done
    cases done
    exact ⟨[], around, commands_end second around ((beside_ended _ _ _ _ beside).mpr ended), .nil, beside⟩
  more session around unfinished rest value last beside done := by
    have unfinishedToo := fun ended => unfinished ((beside_ended _ _ _ _ beside).mp ended)
    rw [commands_step first session unfinished] at done
    rw [commands_step second around unfinishedToo]
    exact rest value last beside done

theorem mirrors_drawing : Mirrors (View.Beside same pairs) (List.Forall₂ (Command.Alike (Point.Agree pairs)))
    (drawing first) (drawing second) :=
  coupled_drawing (mirrors_coupled compared)

end

end Rule

theorem reading_mirrored {same : Coords Token → Coords Token → Prop} {pairs : Axis → Axis → Prop} {first second : Jitter}
    (compared : Compared same pairs first second) (tokens tokens' : List Token) (recast : Recast same tokens tokens')
    (drawing : Drawing) (session : Session) (done : Reading.ofTokens first tokens = .finished drawing session) :
    ∃ drawing' session', Reading.ofTokens second tokens' = .finished drawing' session' ∧
      List.Forall₂ (Command.Alike (Point.Agree pairs)) drawing drawing' ∧ session.memory.Agree pairs session'.memory := by
  have next := recast_next tokens tokens' recast
  cases tokens with
  | nil => cases done
  | cons token rest =>
      obtain ⟨token', rest', rfl⟩ : ∃ token' rest', tokens' = token' :: rest' := by
        cases tokens' with
        | nil => cases next
        | cons token' rest' => exact ⟨token', rest', rfl⟩
      have start : View.Beside same pairs ⟨token :: rest, Memory.empty⟩ ⟨token' :: rest', Memory.empty⟩ :=
        ⟨recast, ⟨.nil, rfl, Even.zero⟩, empty_convertible⟩
      obtain ⟨drawing', session', done', alike, beside⟩ := Rule.mirrors_drawing compared
        ⟨⟨[], token :: rest⟩, [], [], []⟩ ⟨⟨[], token' :: rest'⟩, [], [], []⟩ drawing session start
        ((of_tokens_cons _ _ _ _ _).mp done)
      exact ⟨drawing', session', (of_tokens_cons _ _ _ _ _).mpr done', alike, beside.memory⟩

end Straightedge
