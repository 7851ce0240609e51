import Mathlib.Algebra.Group.Nat.Even
import Straightedge.Proofs.Parse.Safe

namespace Straightedge

-- The table is untouched. Two draws are made or none, unless a number in the table is out of range.
structure Quiet (before after : Session) : Prop where
  tokens : after.reader.toList = before.reader.toList
  position : before.reader.position ≤ after.reader.position
  table : after.table = before.table
  even : before.table.Convertible → Even before.requests.length → Even after.requests.length

theorem quiet_refl (session : Session) : Quiet session session := ⟨rfl, Nat.le_refl _, rfl, fun _ even => even⟩

theorem quiet_trans (before between after : Session) (first : Quiet before between) (second : Quiet between after) :
    Quiet before after where
  tokens := second.tokens.trans first.tokens
  position := Nat.le_trans first.position second.position
  table := second.table.trans first.table
  even convertible even := second.even (first.table ▸ convertible) (first.even convertible even)

-- The points that are completed on the way from one session to another, each by a reading of its own.
inductive Completes (jitter : Jitter) : Session → List (Point Number) → Session → Prop where
  | quiet (before after : Session) (quiet : Quiet before after) : Completes jitter before [] after
  | point (before start between after : Session) (point : Point Number) (points : List (Point Number))
      (quiet : Quiet before start) (read : Rule.point jitter start = .ok point between)
      (rest : Completes jitter between points after) : Completes jitter before (point :: points) after

def Completing (jitter : Jitter) (before after : Session) : Prop := ∃ points, Completes jitter before points after

variable {jitter : Jitter}

theorem completes_later (before between after : Session) (points : List (Point Number)) (first : Quiet before between)
    (second : Completes jitter between points after) : Completes jitter before points after := by
  cases second with
  | quiet _ _ quiet => exact .quiet before after (quiet_trans _ _ _ first quiet)
  | point _ start stop _ point points quiet read rest =>
      exact .point before start stop after point points (quiet_trans _ _ _ first quiet) read rest

theorem completes_append (before between after : Session) (points points' : List (Point Number))
    (first : Completes jitter before points between) (second : Completes jitter between points' after) :
    Completes jitter before (points ++ points') after := by
  induction first with
  | quiet before between quiet => exact completes_later before between after points' quiet second
  | point before start stop between point points quiet read _ ih =>
      exact .point before start stop after point _ quiet read (ih second)

theorem completing_refl (session : Session) : Completing jitter session session :=
  ⟨[], .quiet _ _ (quiet_refl session)⟩

theorem completing_trans (before between after : Session) (first : Completing jitter before between)
    (second : Completing jitter between after) : Completing jitter before after := by
  obtain ⟨points, first⟩ := first
  obtain ⟨points', second⟩ := second
  exact ⟨points ++ points', completes_append _ _ _ _ _ first second⟩

namespace Rule

variable {α β : Type}

def leaves (rule : Rule α) (session : Session) : Session :=
  match rule session with
  | .ok _ later => later
  | .error _ later => later

def Keeps (relation : Session → Session → Prop) (rule : Rule α) : Prop :=
  ∀ session, relation session (rule.leaves session)

theorem leaves_ok (rule : Rule α) (session later : Session) (value : α) (done : rule session = .ok value later) :
    rule.leaves session = later := by
  rw [leaves, done]

theorem leaves_error (rule : Rule α) (session later : Session) (fault : Fault) (stopped : rule session = .error fault later) :
    rule.leaves session = later := by
  rw [leaves, stopped]

theorem leaves_congr (rule other : Rule α) (session : Session) (same : rule session = other session) :
    rule.leaves session = other.leaves session := by
  rw [leaves, leaves, same]

theorem keeps_ok {relation : Session → Session → Prop} {rule : Rule α} (keeps : Keeps relation rule) (session later : Session)
    (value : α) (done : rule session = .ok value later) : relation session later :=
  leaves_ok rule session later value done ▸ keeps session

theorem keeps_error {relation : Session → Session → Prop} {rule : Rule α} (keeps : Keeps relation rule)
    (session later : Session) (fault : Fault) (stopped : rule session = .error fault later) : relation session later :=
  leaves_error rule session later fault stopped ▸ keeps session

-- Relations that hold of what is left of a rule if they hold of its parts.

structure Lasts (relation : Session → Session → Prop) : Prop where
  refl : ∀ session, relation session session
  trans : ∀ before between after, relation before between → relation between after → relation before after

theorem lasts_quiet : Lasts Quiet := ⟨quiet_refl, quiet_trans⟩

theorem lasts_completing : Lasts (Completing jitter) := ⟨completing_refl, completing_trans⟩

section

variable {relation : Session → Session → Prop} (lasts : Lasts relation)

include lasts

theorem keeps_still (rule : Rule α) (still : ∀ session, rule.leaves session = session) : Keeps relation rule := by
  intro session
  rw [still]
  exact lasts.refl session

theorem keeps_pure (value : α) : Keeps relation (pure value) := keeps_still lasts _ fun _ => rfl

theorem keeps_fail (expected : Expectation) (found : Snapshot) : Keeps relation (fail expected found : Rule α) :=
  keeps_still lasts _ fun _ => rfl

theorem relates_bind (rule : Rule α) (next : α → Rule β) (session : Session) (head : relation session (rule.leaves session))
    (tail : ∀ value between, rule session = .ok value between → relation between ((next value).leaves between)) :
    relation session ((rule >>= next).leaves session) := by
  cases found : rule session with
  | ok value between =>
      rw [leaves_ok rule session between value found] at head
      have whole : (rule >>= next).leaves session = (next value).leaves between := by
        rw [leaves, leaves, bind_passed rule next session between value found]
      rw [whole]
      exact lasts.trans _ _ _ head (tail value between found)
  | error fault between =>
      rw [leaves_error rule session between fault found] at head
      rwa [leaves_error _ session between fault (bind_failed rule next session between fault found)]

theorem keeps_bind (rule : Rule α) (next : α → Rule β) (head : Keeps relation rule)
    (tail : ∀ value, Keeps relation (next value)) : Keeps relation (rule >>= next) :=
  fun session => relates_bind lasts rule next session (head session) fun value between _ => tail value between

end

theorem quiet_take (category : Option Category) (value : Option String) : Keeps Quiet (take category value) := by
  rintro ⟨⟨consumed, remaining⟩, table, requests, journal⟩
  cases remaining with
  | nil =>
      rw [leaves_error _ _ _ _ (take_end category value _ rfl)]
      exact quiet_refl _
  | cons token rest =>
      have passed : Quiet ⟨⟨consumed, token :: rest⟩, table, requests, journal⟩
          ⟨⟨token :: consumed, rest⟩, table, requests, journal⟩ :=
        ⟨Reader.next_to_list ⟨consumed, token :: rest⟩, Nat.le_succ _, rfl, fun _ even => even⟩
      have taken := take_cons category value ⟨⟨consumed, token :: rest⟩, table, requests, journal⟩ token rest rfl
      split at taken
      · rwa [leaves_ok _ _ _ _ taken]
      · rwa [leaves_error _ _ _ _ taken]

theorem quiet_number : Keeps Quiet number := by
  refine keeps_bind lasts_quiet _ _ (quiet_take none none) fun token => ?_
  split
  · exact keeps_pure lasts_quiet _
  · exact keeps_fail lasts_quiet _ _

theorem quiet_coords : Keeps Quiet coords :=
  keeps_bind lasts_quiet _ _ (quiet_take _ _) fun _ => keeps_bind lasts_quiet _ _ quiet_number fun _ =>
    keeps_bind lasts_quiet _ _ (quiet_take _ _) fun _ => keeps_bind lasts_quiet _ _ quiet_number fun _ =>
      keeps_bind lasts_quiet _ _ (quiet_take _ _) fun _ => keeps_pure lasts_quiet _

theorem quiet_note (event : Event) : Keeps Quiet (note event) :=
  fun _ => ⟨rfl, Nat.le_refl _, rfl, fun _ even => even⟩

theorem quiet_operator : Keeps Quiet operator :=
  keeps_bind lasts_quiet _ _ (quiet_take _ _) fun _ => keeps_pure lasts_quiet _

theorem quiet_name : Keeps Quiet pointName :=
  keeps_bind lasts_quiet _ _ (quiet_take _ _) fun _ => keeps_pure lasts_quiet _

theorem quiet_mark : Keeps Quiet pointMark := by
  refine keeps_bind lasts_quiet _ _ (keeps_still lasts_quiet front? fun _ => rfl) fun front => ?_
  cases front with
  | none =>
      exact keeps_bind lasts_quiet _ _ (keeps_still lasts_quiet snapshot fun _ => rfl) fun _ => keeps_fail lasts_quiet _ _
  | some head =>
      dsimp only
      split
      · exact keeps_bind lasts_quiet _ _ (quiet_take _ _) fun _ => keeps_pure lasts_quiet _
      · split
        · exact keeps_pure lasts_quiet _
        · exact keeps_fail lasts_quiet _ _

-- What is left of tokens and table does not depend on whether the arithmetic fails, only the number of draws does.
def Inert (before after : Session) : Prop := after.reader = before.reader ∧ after.table = before.table

theorem inert_inferred (jitter : Jitter) : Keeps Inert (inferred jitter) := by
  have lasts : Lasts Inert := ⟨fun _ => ⟨rfl, rfl⟩, fun _ _ _ first second =>
    ⟨second.1.trans first.1, second.2.trans first.2⟩⟩
  have lifted (result : Except Overflow Number) : Keeps Inert (lift result) :=
    keeps_still lasts _ fun session => by cases result <;> rfl
  have moves (value : Number) : Keeps Inert (moved jitter value) :=
    keeps_bind lasts _ _ (fun _ => ⟨rfl, rfl⟩) fun _ => lifted _
  have averaged : Keeps Inert average := keeps_still lasts _ fun session => by
    rw [leaves, average]
    cases session.table.average <;> rfl
  exact keeps_bind lasts _ _ averaged fun near => keeps_bind lasts _ _ (moves near.x) fun _ =>
    keeps_bind lasts _ _ (moves near.y) fun _ => keeps_pure lasts _

theorem completing_quiet {rule : Rule α} (quiet : Keeps Quiet rule) : Keeps (Completing jitter) rule :=
  fun session => ⟨[], .quiet _ _ (quiet session)⟩

section

variable (bounded : jitter.Bounded)

include bounded

theorem quiet_inferred : Keeps Quiet (inferred jitter) := by
  intro session
  obtain ⟨reader, table⟩ := inert_inferred jitter session
  refine ⟨by rw [reader], by rw [reader], table, fun convertible even => ?_⟩
  obtain ⟨coords, later, done, _⟩ := inferred_total bounded session convertible
  have requests := congrArg (fun view => view.memory.requests) ((realizes_inferred jitter).sound session coords later done).2
  rw [leaves_ok _ _ _ _ done]
  show Even later.view.memory.requests.length
  rw [requests, List.length_append]
  exact even.add even_two

theorem quiet_resolve (name : String) : Keeps Quiet (resolve jitter name) := by
  refine keeps_bind lasts_quiet _ _ (keeps_still lasts_quiet peekValue? fun _ => rfl) fun front => ?_
  split
  · exact quiet_coords
  · refine keeps_bind lasts_quiet _ _ (keeps_still lasts_quiet (find? name) fun _ => rfl) fun found => ?_
    cases found with
    | some known => exact keeps_pure lasts_quiet _
    | none =>
        exact keeps_bind lasts_quiet _ _ (quiet_inferred bounded) fun _ =>
          keeps_bind lasts_quiet _ _ (quiet_note _) fun _ => keeps_pure lasts_quiet _

-- Points. A point that is not completed leaves the table alone as well.

theorem point_done (session later : Session) (point : Point Number) (done : Rule.point jitter session = .ok point later) :
    ∃ between, Quiet session between ∧ later = { between with table := between.table.record point.name point.coords } := by
  obtain ⟨_, marked, markDone, afterMark⟩ := (bind_ok _ _ _ _ _).mp done
  obtain ⟨name, named, nameDone, afterName⟩ := (bind_ok _ _ _ _ _).mp afterMark
  obtain ⟨place, placed, resolved, recorded⟩ := (bind_ok _ _ _ _ _).mp afterName
  have mark := keeps_ok quiet_mark session marked _ markDone
  have front := keeps_ok quiet_name marked named name nameDone
  have rest := keeps_ok (quiet_resolve bounded name) named placed place resolved
  cases recorded
  exact ⟨placed, quiet_trans _ _ _ mark (quiet_trans _ _ _ front rest), rfl⟩

theorem point_stopped (session later : Session) (fault : Fault) (stopped : Rule.point jitter session = .error fault later) :
    Quiet session later := by
  rcases bind_error _ _ _ _ _ stopped with failed | ⟨_, marked, markDone, afterMark⟩
  · exact keeps_error quiet_mark session later fault failed
  have mark := keeps_ok quiet_mark session marked _ markDone
  rcases bind_error _ _ _ _ _ afterMark with failed | ⟨name, named, nameDone, afterName⟩
  · exact quiet_trans _ _ _ mark (keeps_error quiet_name marked later fault failed)
  have front := quiet_trans _ _ _ mark (keeps_ok quiet_name marked named name nameDone)
  rcases bind_error _ _ _ _ _ afterName with failed | ⟨_, _, _, recorded⟩
  · exact quiet_trans _ _ _ front (keeps_error (quiet_resolve bounded name) named later fault failed)
  · cases recorded

-- All other rules are made of points and of what is quiet.

theorem completing_point : Keeps (Completing jitter) (point jitter) := by
  intro session
  cases found : point jitter session with
  | ok point later =>
      rw [leaves_ok _ _ _ _ found]
      exact ⟨[point], .point _ _ _ _ point [] (quiet_refl session) found (.quiet _ _ (quiet_refl later))⟩
  | error fault later =>
      rw [leaves_error _ _ _ _ found]
      exact ⟨[], .quiet _ _ (point_stopped bounded session later fault found)⟩

theorem completing_hereditary : Hereditary jitter fun rule session => Completing jitter session (rule.leaves session) where
  value := keeps_pure lasts_completing
  both := relates_bind lasts_completing
  point := completing_point bounded
  word _ := completing_quiet (quiet_take _ _)
  operator := completing_quiet quiet_operator
  terminator := completing_quiet (quiet_take _ _)
  noted event := completing_quiet (quiet_note event)
  counted := keeps_still lasts_completing tableSize fun _ => rfl
  refused expected := keeps_still lasts_completing (peekSnapshot >>= fail expected) fun _ => rfl
  picked _ _ _ _ tail := tail
  ended session nothing := by
    rw [leaves_ok _ _ _ _ (commands_end jitter session nothing)]
    exact completing_refl session
  more session unfinished rest := by rwa [leaves_congr _ _ session (commands_step jitter session unfinished)]

end

end Rule

end Straightedge
