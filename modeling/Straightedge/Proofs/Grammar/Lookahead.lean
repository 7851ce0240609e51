import Straightedge.Proofs.Grammar.Derivation
import Straightedge.Proofs.Place.Memory

namespace Straightedge.Grammar

def Point.occurrence (point : Point) : Occurrence := ⟨point.name.value, point.coords.map Coords.value⟩

def Point.front (point : Point) : String :=
  match point.keyword with
  | some _ => Keyword.point.spelling
  | none => point.name.value

theorem point_front (point : Point) (rest : List Token) :
    (point.tokens ++ rest).head?.map Token.value = some point.front := by
  obtain ⟨keyword, name, coords⟩ := point
  cases keyword <;> rfl

theorem line_front (line : Line) (rest : List Token) :
    (line.tokens ++ rest).head?.map Token.value = some line.extent.keyword.spelling := rfl

def Point.Clear (point : Point) (next : Option String) : Prop :=
  (point.keyword = none → point.name.value ≠ Keyword.point.spelling) ∧
    (point.coords = none → next ≠ some Vocabulary.opening)

def Line.Clear (line : Line) (next : Option String) : Prop :=
  line.start.Clear (some line.stop.front) ∧ line.stop.Clear next

def Object.Clear : Object → Option String → Prop
  | .point keyword name coords, next => Point.Clear ⟨some keyword, name, coords⟩ next
  | .line path, next => path.Clear next
  | .perpendicular _ apex base, next => apex.Clear (some base.extent.keyword.spelling) ∧ base.Clear next
  | .triangle _ first second third, next =>
      first.Clear (some second.front) ∧ second.Clear (some third.front) ∧ third.Clear next

def Command.Clear (command : Command) : Prop := command.object.Clear (some Vocabulary.terminator)

def Task.Clear (task : Task) : Prop := ∀ command ∈ task.commands, command.Clear

end Straightedge.Grammar

namespace Straightedge

structure Token.Orderly (token : Token) : Prop where
  keyword : ∀ word : Keyword, token.value = word.spelling → token.category = .keyword
  opening : token.value = Vocabulary.opening → token.category = .separator

def Disciplined (tokens : List Token) : Prop := ∀ token ∈ tokens, token.Orderly

theorem disciplined_append (first second : List Token) (disciplined : Disciplined (first ++ second)) :
    Disciplined first ∧ Disciplined second := List.forall_mem_append.mp disciplined

theorem disciplined_cons (token : Token) (rest : List Token) (disciplined : Disciplined (token :: rest)) :
    Disciplined rest := (List.forall_mem_cons.mp disciplined).2

namespace Grammar

theorem name_in_point (point : Point) : point.name.token ∈ point.tokens := by
  rw [Point.tokens]
  exact List.mem_append_right _ List.mem_cons_self

theorem point_clear (point : Point) (next : Option String) (disciplined : Disciplined point.tokens)
    (closed : next ≠ some Vocabulary.opening) : point.Clear next := by
  constructor
  · intro _ spelled
    cases (disciplined _ (name_in_point point)).keyword .point spelled
  · intro _
    exact closed

theorem point_front_closed (point : Point) (disciplined : Disciplined point.tokens) :
    some point.front ≠ some Vocabulary.opening := by
  intro same
  have spelled : point.front = Vocabulary.opening := Option.some.inj same
  rw [Point.front] at spelled
  split at spelled
  · exact absurd spelled (by decide)
  · cases (disciplined _ (name_in_point point)).opening spelled

theorem spelling_closed (word : Keyword) : some word.spelling ≠ some Vocabulary.opening := by
  cases word <;> decide

theorem line_clear (line : Line) (next : Option String) (disciplined : Disciplined line.tokens)
    (closed : next ≠ some Vocabulary.opening) : line.Clear next := by
  obtain ⟨start, stop⟩ := disciplined_append _ _ (disciplined_cons _ _ disciplined)
  exact ⟨point_clear _ _ start (point_front_closed _ stop), point_clear _ _ stop closed⟩

theorem object_clear (object : Object) (next : Option String) (disciplined : Disciplined object.tokens)
    (closed : next ≠ some Vocabulary.opening) : object.Clear next := by
  cases object with
  | point keyword name coords => exact point_clear _ _ disciplined closed
  | line path => exact line_clear path next disciplined closed
  | perpendicular keyword apex base =>
      obtain ⟨apexTokens, baseTokens⟩ := disciplined_append _ _ (disciplined_cons _ _ disciplined)
      exact ⟨point_clear _ _ apexTokens (spelling_closed _), line_clear _ _ baseTokens closed⟩
  | triangle keyword first second third =>
      obtain ⟨front, thirdTokens⟩ := disciplined_append _ _ (disciplined_cons _ _ disciplined)
      obtain ⟨firstTokens, secondTokens⟩ := disciplined_append _ _ front
      exact ⟨point_clear _ _ firstTokens (point_front_closed _ secondTokens),
        point_clear _ _ secondTokens (point_front_closed _ thirdTokens), point_clear _ _ thirdTokens closed⟩

theorem command_clear (command : Command) (disciplined : Disciplined command.tokens) : command.Clear :=
  object_clear _ _ (disciplined_append _ _ (disciplined_cons _ _ disciplined)).1 (by decide)

theorem task_clear (task : Task) (disciplined : Disciplined task.tokens) : task.Clear := by
  intro command inside
  obtain ⟨before, after, split⟩ := List.append_of_mem inside
  rw [Task.tokens, split, List.flatMap_append, List.flatMap_cons] at disciplined
  exact command_clear command (disciplined_append _ _ (disciplined_append _ _ disciplined).2).1

end Grammar

end Straightedge
