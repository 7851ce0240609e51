import Mathlib.Data.List.Nodup
import Straightedge.Proofs.Jitter.Bounded
import Straightedge.Proofs.Parse.Kept
import Straightedge.Proofs.Place.History

namespace Straightedge

def Table.recordAll (table : Table) (points : List (Point Number)) : Table :=
  points.foldl (fun table point => table.record point.name point.coords) table

theorem record_names (table : Table) (name : String) (coords : Coords Number) :
    table.names <+: (table.record name coords).names ∧ (table.names.Nodup → (table.record name coords).names.Nodup) := by
  rw [names_record]
  by_cases known : name ∈ table.names
  · rw [if_pos known]
    exact ⟨List.prefix_rfl, id⟩
  · rw [if_neg known]
    exact ⟨List.prefix_append _ _, fun distinct => List.nodup_append.mpr
      ⟨distinct, List.nodup_singleton name, fun key inside other last =>
        (List.mem_singleton.mp last) ▸ fun same => known (same ▸ inside)⟩⟩

theorem record_all_names (table : Table) (points : List (Point Number)) : table.names <+: (table.recordAll points).names := by
  induction points generalizing table with
  | nil => exact List.prefix_rfl
  | cons point rest ih => exact (record_names table point.name point.coords).1.trans (ih _)

structure Sound (session : Session) : Prop where
  convertible : session.table.Convertible
  distinct : session.table.names.Nodup
  even : Even session.requests.length

theorem start_sound (tokens : List Token) (session : Session) (started : Session.start tokens = .ok session) :
    Sound session ∧ session.reader.toList = tokens := by
  cases tokens with
  | nil => cases started
  | cons token rest =>
      cases started
      exact ⟨⟨empty_convertible, List.nodup_nil, ⟨0, rfl⟩⟩, rfl⟩

theorem quiet_sound (before after : Session) (quiet : Quiet before after) (sound : Sound before) : Sound after where
  convertible := quiet.table ▸ sound.convertible
  distinct := quiet.table ▸ sound.distinct
  even := quiet.even sound.convertible sound.even

section

variable {jitter : Jitter} (bounded : jitter.Bounded)

include bounded

theorem point_sound (session later : Session) (point : Point Number) (done : Rule.point jitter session = .ok point later)
    (sound : Sound session) : Sound later := by
  obtain ⟨between, quiet, recorded⟩ := Rule.point_done bounded session later point done
  obtain ⟨_, distinct, even⟩ := quiet_sound session between quiet sound
  have convertible : later.table.Convertible := by
    rcases Rule.safe_point bounded session sound.convertible with ⟨_, _, passed, _, kept⟩ | ⟨_, _, stopped, _⟩
    · cases done.symm.trans passed
      exact kept
    · cases done.symm.trans stopped
  refine ⟨convertible, ?_, ?_⟩
  · rw [recorded]
    exact (record_names between.table point.name point.coords).2 distinct
  · rw [recorded]
    exact even

theorem completes_sound (before after : Session) (points : List (Point Number)) (completes : Completes jitter before points after)
    (sound : Sound before) : Sound after := by
  induction completes with
  | quiet before after quiet => exact quiet_sound before after quiet sound
  | point before start between after point points quiet read _ ih =>
      exact ih (point_sound bounded start between point read (quiet_sound before start quiet sound))

-- The table is the earlier one with the completed points recorded in it.
theorem completes_recorded (before after : Session) (points : List (Point Number))
    (completes : Completes jitter before points after) : after.table = before.table.recordAll points ∧
      after.reader.toList = before.reader.toList ∧ before.reader.position ≤ after.reader.position := by
  induction completes with
  | quiet before after quiet => exact ⟨quiet.table, quiet.tokens, quiet.position⟩
  | point before start between after point points quiet read _ ih =>
      obtain ⟨placed, lead, recorded⟩ := Rule.point_done bounded start between point read
      have front := quiet_trans before start placed quiet lead
      have table : between.table = before.table.record point.name point.coords := by rw [recorded, ← front.table]
      have reader : between.reader = placed.reader := by rw [recorded]
      rw [table, reader] at ih
      exact ⟨ih.1, ih.2.1.trans front.tokens, Nat.le_trans front.position ih.2.2⟩

end

inductive Operation where
  | snapshot
  | peekSnapshot
  | peekValue
  | take (category : Option Category) (value : Option String)
  | drawing
  | command
  | operator
  | figure
  | path (extent : Extent)
  | perpendicular
  | triangle
  | point
  | pointName
  | resolve (name : String)
  | coords
  | number
  | inferred

namespace Operation

def perform (jitter : Jitter) : Operation → Rule Unit
  | .snapshot => discard Rule.snapshot
  | .peekSnapshot => discard Rule.peekSnapshot
  | .peekValue => discard Rule.peekValue?
  | .take category value => discard (Rule.take category value)
  | .drawing => discard (Rule.drawing jitter)
  | .command => discard (Rule.command jitter)
  | .operator => discard Rule.operator
  | .figure => discard (Rule.figure jitter)
  | .path extent => discard (Rule.path jitter extent)
  | .perpendicular => discard (Rule.perpendicular jitter)
  | .triangle => discard (Rule.triangle jitter)
  | .point => discard (Rule.point jitter)
  | .pointName => discard Rule.pointName
  | .resolve name => discard (Rule.resolve jitter name)
  | .coords => discard Rule.coords
  | .number => discard Rule.number
  | .inferred => discard (Rule.inferred jitter)

def drawsPoints : Operation → Bool
  | .drawing => true
  | .command => true
  | .figure => true
  | .path _ => true
  | .perpendicular => true
  | .triangle => true
  | .point => true
  | _ => false

theorem leaves_discard {α : Type} (rule : Rule α) (session : Session) :
    Rule.leaves (discard rule) session = rule.leaves session := by
  simp only [Rule.leaves, discard, Functor.discard, Functor.mapConst, Function.comp_apply, EStateM.map]
  cases rule session <;> rfl

theorem keeps_discard {α : Type} {relation : Session → Session → Prop} {rule : Rule α} (keeps : Rule.Keeps relation rule) :
    Rule.Keeps relation (discard rule) := by
  intro session
  rw [leaves_discard]
  exact keeps session

variable {jitter : Jitter} (bounded : jitter.Bounded)

include bounded

theorem perform_quiet (operation : Operation) (noPoints : operation.drawsPoints = false) :
    Rule.Keeps Quiet (operation.perform jitter) := by
  cases operation with
  | snapshot => exact keeps_discard (Rule.keeps_still Rule.lasts_quiet _ fun _ => rfl)
  | peekSnapshot => exact keeps_discard (Rule.keeps_still Rule.lasts_quiet _ fun _ => rfl)
  | peekValue => exact keeps_discard (Rule.keeps_still Rule.lasts_quiet _ fun _ => rfl)
  | take category value => exact keeps_discard (Rule.quiet_take category value)
  | operator => exact keeps_discard Rule.quiet_operator
  | pointName => exact keeps_discard Rule.quiet_name
  | resolve name => exact keeps_discard (Rule.quiet_resolve bounded name)
  | coords => exact keeps_discard Rule.quiet_coords
  | number => exact keeps_discard Rule.quiet_number
  | inferred => exact keeps_discard (Rule.quiet_inferred bounded)
  | drawing | command | figure | path | perpendicular | triangle | point => cases noPoints

theorem perform_completing (operation : Operation) : Rule.Keeps (Completing jitter) (operation.perform jitter) := by
  by_cases noPoints : operation.drawsPoints = false
  · exact Rule.completing_quiet (perform_quiet bounded operation noPoints)
  have hereditary := Rule.completing_hereditary bounded
  cases operation with
  | drawing => exact keeps_discard (Rule.hereditary_drawing hereditary)
  | command => exact keeps_discard (Rule.hereditary_command hereditary)
  | figure => exact keeps_discard (Rule.hereditary_figure hereditary)
  | path extent => exact keeps_discard (Rule.hereditary_path hereditary extent)
  | perpendicular => exact keeps_discard (Rule.hereditary_perpendicular hereditary)
  | triangle => exact keeps_discard (Rule.hereditary_triangle hereditary)
  | point => exact keeps_discard (Rule.completing_point bounded)
  | _ => exact absurd rfl noPoints

end Operation

-- The session after the operations, each of which may succeed or stop.
def Session.afterAll (jitter : Jitter) (session : Session) (operations : List Operation) : Session :=
  operations.foldl (fun session operation => (operation.perform jitter).leaves session) session

theorem position_of_ahead (before after : Session) (tokens : List Token)
    (ahead : before.reader.remaining = tokens ++ after.reader.remaining) (same : after.reader.toList = before.reader.toList) :
    after.reader.position = before.reader.position + tokens.length := by
  have whole := congrArg List.length same
  simp only [Reader.toList, List.length_append, List.length_reverse, ahead] at whole
  rw [Reader.position, Reader.position]
  omega

theorem Grammar.point_tokens_filled (tree : Grammar.Point) : 1 ≤ tree.tokens.length := by
  rw [Grammar.Point.tokens, List.length_append, List.length_cons]
  omega

theorem Grammar.object_tokens_two (tree : Grammar.Object) : 2 ≤ tree.tokens.length := by
  have filled := Grammar.point_tokens_filled
  cases tree with
  | point keyword name coords =>
      show 2 ≤ (keyword.token :: name.token :: coords.elim [] Grammar.Coords.tokens).length
      rw [List.length_cons, List.length_cons]
      omega
  | line path =>
      have start := filled path.start
      rw [Grammar.Object.tokens, Grammar.Line.tokens, List.length_cons, List.length_append]
      omega
  | perpendicular keyword apex base =>
      have front := filled apex
      rw [Grammar.Object.tokens, List.length_cons, List.length_append]
      omega
  | triangle keyword first second third =>
      have last := filled third
      rw [Grammar.Object.tokens, List.length_cons, List.length_append]
      omega

section

variable {jitter : Jitter} (bounded : jitter.Bounded)

include bounded

theorem figure_advances (session later : Session) (figure : Figure Number)
    (done : Rule.figure jitter session = .ok figure later) : session.reader.position + 2 ≤ later.reader.position := by
  obtain ⟨points, completes⟩ := Rule.keeps_ok (Rule.hereditary_figure (Rule.completing_hereditary bounded)) session later figure done
  obtain ⟨tree, draws, _⟩ := (Rule.realizes_figure jitter).sound session figure later done
  have advanced := position_of_ahead session later tree.tokens draws.ahead (completes_recorded bounded _ _ _ completes).2.1
  have two := Grammar.object_tokens_two tree
  omega

theorem command_advances (session later : Session) (command : Command Number)
    (done : Rule.command jitter session = .ok command later) : session.reader.position + 4 ≤ later.reader.position := by
  obtain ⟨points, completes⟩ := Rule.keeps_ok (Rule.hereditary_command (Rule.completing_hereditary bounded)) session later command done
  obtain ⟨tree, draws, _⟩ := (Rule.realizes_command jitter).sound session command later done
  have advanced := position_of_ahead session later tree.tokens draws.ahead (completes_recorded bounded _ _ _ completes).2.1
  have two := Grammar.object_tokens_two tree.object
  rw [Grammar.Command.tokens, List.length_cons, List.length_append, List.length_singleton] at advanced
  omega

theorem after_all_completing (session : Session) (operations : List Operation) :
    Completing jitter session (session.afterAll jitter operations) := by
  induction operations generalizing session with
  | nil => exact completing_refl session
  | cons operation rest ih =>
      exact completing_trans _ _ _ (Operation.perform_completing bounded operation session) (ih _)

end

structure Consistent (tokens : List Token) (session : Session) : Prop where
  inside : session.reader.position ≤ tokens.length
  distinct : session.table.names.Nodup
  even : Even session.requests.length

theorem sound_consistent (tokens : List Token) (session : Session) (sound : Sound session)
    (same : session.reader.toList = tokens) : Consistent tokens session := by
  refine ⟨?_, sound.distinct, sound.even⟩
  rw [← same, Reader.toList, List.length_append, List.length_reverse]
  exact Nat.le_add_right _ _

/-- After any operations a session is consistent, and so it is after one more, which has only gone forward. -/
theorem consistent_under_any_use (jitter : Jitter) (bounded : jitter.Bounded) (tokens : List Token) (session : Session)
    (started : Session.start tokens = .ok session) (operations : List Operation) (operation : Operation) :
    let before := session.afterAll jitter operations
    let after := (operation.perform jitter).leaves before
    Consistent tokens before ∧ Consistent tokens after ∧
      before.reader.position ≤ after.reader.position ∧ before.table.names <+: after.table.names ∧
      (∃ points, Completes jitter before points after ∧ after.table = before.table.recordAll points) ∧
      (operation.drawsPoints = false → after.table = before.table) ∧
      (∀ fault later, Rule.point jitter before = .error fault later → later.table = before.table) ∧
      (∀ figure later, Rule.figure jitter before = .ok figure later →
        before.reader.position + 2 ≤ later.reader.position) ∧
      ∀ command later, Rule.command jitter before = .ok command later →
        before.reader.position + 4 ≤ later.reader.position := by
  intro before after
  obtain ⟨startSound, whole⟩ := start_sound tokens session started
  obtain ⟨earlier, reached⟩ := after_all_completing bounded session operations
  obtain ⟨points, completes⟩ := Operation.perform_completing bounded operation before
  have sound := completes_sound bounded session before earlier reached startSound
  have same := (completes_recorded bounded session before earlier reached).2.1.trans whole
  obtain ⟨recorded, kept, forward⟩ := completes_recorded bounded before after points completes
  refine ⟨sound_consistent tokens before sound same,
    sound_consistent tokens after (completes_sound bounded before after points completes sound) (kept.trans same),
    forward, ?_, ⟨points, completes, recorded⟩, fun noPoints => ?_, fun fault later stopped => ?_,
    fun figure later done => figure_advances bounded before later figure done,
    fun command later done => command_advances bounded before later command done⟩
  · rw [recorded]
    exact record_all_names before.table points
  · exact (Operation.perform_quiet bounded operation noPoints before).table
  · exact (Rule.point_stopped bounded before later fault stopped).table

-- The source is `DRAW SEGMENT A A.`, and its operator is lost to a rule that asks for a bracket.
theorem shared_segment_used : ∃ session, Session.start Grammar.sharedSegment.tokens = .ok session ∧
    (Jitter.cycle [3, 4]).Bounded ∧
    let before := session.afterAll (.cycle [3, 4]) [.inferred, .coords, .figure]
    let after := (Operation.command.perform (.cycle [3, 4])).leaves before
    before.table.names = ["A"] ∧ before.requests.length = 4 ∧ before.reader.position = 4 ∧
      Consistent Grammar.sharedSegment.tokens before ∧ Consistent Grammar.sharedSegment.tokens after ∧
      before.reader.position ≤ after.reader.position ∧ before.table.names <+: after.table.names := by
  have bounded : (Jitter.cycle [3, 4]).Bounded := cycle_bounded _ (by decide)
  have used := consistent_under_any_use (.cycle [3, 4]) bounded Grammar.sharedSegment.tokens _ rfl
    [.inferred, .coords, .figure] .command
  exact ⟨_, rfl, bounded, by cbv, by cbv, by cbv, used.1, used.2.1, used.2.2.1, used.2.2.2.1⟩

end Straightedge
