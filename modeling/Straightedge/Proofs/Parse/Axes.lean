import Straightedge.Proofs.Parse.Mirror
import Straightedge.Proofs.Parse.Parallel

namespace Straightedge

def Point.exchanged (point : Point Number) : Point Number := ⟨point.name, point.coords.exchanged⟩

def Table.exchanged (table : Table) : Table := table.map fun entry => (entry.1, entry.2.exchanged)

-- The two draws for a new point in each other's place.
def Jitter.exchanged (jitter : Jitter) : Jitter where
  draw turn := jitter.draw (if Even turn then turn + 1 else turn - 1)

theorem exchanged_bounded (jitter : Jitter) (bounded : jitter.Bounded) : jitter.exchanged.Bounded := fun _ => bounded _

theorem agree_exchanged (coords other : Coords Number) (agree : coords.Agree (· ≠ ·) other) : other = coords.exchanged := by
  obtain ⟨x, y⟩ := coords
  obtain ⟨x', y'⟩ := other
  have toX : x = y' := agree .x .y nofun
  have toY : y = x' := agree .y .x nofun
  rw [toX, toY, Coords.exchanged]

theorem along_exchanged {α : Type} (coords : Coords α) (axis axis' : Axis) (apart : axis ≠ axis') :
    coords.along axis = coords.exchanged.along axis' := by
  cases axis <;> cases axis' <;> first | rfl | exact absurd rfl apart

theorem point_exchanged (point other : Point Number) (agree : point.Agree (· ≠ ·) other) : other = point.exchanged := by
  obtain ⟨names, places⟩ := agree
  rw [Point.exchanged, names, ← agree_exchanged _ _ places]

theorem table_exchanged (table other : Table) (agree : table.Agree (· ≠ ·) other) : other = table.exchanged := by
  induction agree with
  | nil => rfl
  | @cons entry entry' rest rest' head _ ih =>
      obtain ⟨key, coords⟩ := entry
      obtain ⟨key', coords'⟩ := entry'
      obtain ⟨rfl, places⟩ := head
      rw [ih, agree_exchanged coords coords' places]
      rfl

theorem exchanged_first (jitter : Jitter) (bounds : Bounds) (turn : Nat) (even : Even turn) :
    jitter.exchanged.draw turn bounds = jitter.draw (turn + 1) bounds :=
  congrArg (fun turn => jitter.draw turn bounds) (if_pos even)

theorem exchanged_second (jitter : Jitter) (bounds : Bounds) (turn : Nat) (even : Even turn) :
    jitter.exchanged.draw (turn + 1) bounds = jitter.draw turn bounds :=
  congrArg (fun turn => jitter.draw turn bounds) (if_neg (Nat.not_even_iff_odd.mpr even.add_one))

theorem draws_exchanged (jitter : Jitter) : Jitter.Agree (· ≠ ·) jitter jitter.exchanged := by
  intro axis axis' apart turn even
  cases axis with
  | x =>
      cases axis' with
      | x => exact absurd rfl apart
      | y => exact (exchanged_second jitter Jitter.bounds turn even).symm
  | y =>
      cases axis' with
      | x => exact (exchanged_first jitter Jitter.bounds turn even).symm
      | y => exact absurd rfl apart

theorem renders_exchanged : Renders (fun pair other => other = pair.exchanged) (· ≠ ·) := by
  rintro pair _ coords rfl ⟨x, y⟩
  exact ⟨coords.exchanged, ⟨y, x⟩, along_exchanged coords⟩

theorem compared_exchanged (jitter : Jitter) (bounded : jitter.Bounded) :
    Compared (fun pair other => other = pair.exchanged) (· ≠ ·) jitter jitter.exchanged :=
  ⟨renders_exchanged, draws_exchanged jitter, exchanged_bounded jitter bounded⟩

-- The number for the axis is the same, and any number stands for the other one.
def Respells (axis : Axis) (pair other : Coords Token) : Prop :=
  (other.along axis).number? = (pair.along axis).number? ∧ ∃ coords, other.Denotes coords

def Jitter.AgreesAlong (axis : Axis) (jitter other : Jitter) : Prop :=
  ∀ turn, Even turn → other.draw (turn + axis.turn) Jitter.bounds = jitter.draw (turn + axis.turn) Jitter.bounds

def Table.along (axis : Axis) (table : Table) : List (String × Number) := table.map fun entry => (entry.1, entry.2.along axis)

theorem denotes_along (axis : Axis) (pair : Coords Token) (coords : Coords Number) (denotes : pair.Denotes coords) :
    (pair.along axis).number? = some (coords.along axis) := by
  cases axis with
  | x => exact denotes.1
  | y => exact denotes.2

theorem renders_respelled (axis : Axis) : Renders (Respells axis) fun one two => one = axis ∧ two = axis := by
  rintro pair other coords ⟨same, coords', denotes'⟩ denotes
  refine ⟨coords', denotes', ?_⟩
  rintro _ _ ⟨rfl, rfl⟩
  rw [denotes_along _ _ _ denotes, denotes_along _ _ _ denotes'] at same
  exact (Option.some.inj same).symm

theorem compared_along (axis : Axis) (jitter other : Jitter) (bounded : other.Bounded)
    (draws : jitter.AgreesAlong axis other) :
    Compared (Respells axis) (fun one two => one = axis ∧ two = axis) jitter other := by
  refine ⟨renders_respelled axis, ?_, bounded⟩
  rintro _ _ ⟨rfl, rfl⟩ turn even
  exact (draws turn even).symm

theorem table_along (axis : Axis) (table other : Table) (agree : table.Agree (fun one two => one = axis ∧ two = axis) other) :
    other.along axis = table.along axis := by
  induction agree with
  | nil => rfl
  | cons head _ ih =>
      rw [Table.along, Table.along] at ih ⊢
      rw [List.map_cons, List.map_cons, ih, head.1, head.2 axis axis ⟨rfl, rfl⟩]

theorem points_along (axis : Axis) (points others : List (Point Number))
    (agree : List.Forall₂ (Point.Agree fun one two => one = axis ∧ two = axis) points others) :
    (others.map fun point => point.coords.along axis) = points.map fun point => point.coords.along axis := by
  induction agree with
  | nil => rfl
  | cons head _ ih => rw [List.map_cons, List.map_cons, ih, head.2 axis axis ⟨rfl, rfl⟩]

/-- The two axes are treated alike: with the numbers of every pair and the draws of every pair exchanged, x and y are
exchanged in what is read. They never mix: other numbers and other draws for one of them change nothing of the other. -/
theorem axes_alike_and_apart (jitter : Jitter) (bounded : jitter.Bounded) (tokens : List Token) (drawing : Drawing)
    (session : Session) (done : Reading.ofTokens jitter tokens = .finished drawing session) :
    (∃ later, Reading.ofTokens jitter.exchanged (exchangeAxes tokens) =
        .finished (drawing.map (Command.each Point.exchanged)) later ∧
      later.table = session.table.exchanged ∧ later.requests = session.requests) ∧
    ∀ (axis : Axis) (other : Jitter) (tokens' : List Token), other.Bounded → jitter.AgreesAlong axis other →
      Recast (Respells axis) tokens tokens' →
      ∃ drawing' later, Reading.ofTokens other tokens' = .finished drawing' later ∧
        drawing'.map Command.erased = drawing.map Command.erased ∧
        (drawing'.points.map fun point => point.coords.along axis) = (drawing.points.map fun point => point.coords.along axis) ∧
        later.table.along axis = session.table.along axis ∧ later.requests = session.requests := by
  constructor
  · obtain ⟨drawing', later, done', alike, memory⟩ := reading_mirrored (compared_exchanged jitter bounded) tokens _
      (exchange_recast tokens) drawing session done
    rw [drawing_put _ Point.exchanged point_exchanged drawing drawing' alike] at done'
    exact ⟨later, done', table_exchanged _ _ memory.table, memory.requests⟩
  · intro axis other tokens' boundedToo draws recast
    obtain ⟨drawing', later, done', alike, memory⟩ := reading_mirrored (compared_along axis jitter other boundedToo draws)
      tokens tokens' recast drawing session done
    exact ⟨drawing', later, done', (drawing_erased _ (fun _ _ agree => agree.1) _ _ alike).symm,
      points_along axis _ _ (drawing_points _ _ _ alike), table_along axis _ _ memory.table, memory.requests⟩

namespace Grammar

-- The source is `DRAW SEGMENT A B(1, 2).`, perhaps with another digit: only the second point is written with coordinates.
def halfWritten (y : Numeral) : Task :=
  ⟨⟨⟨"DRAW", 0⟩, .line ⟨.segment, ⟨5⟩, ⟨none, ⟨"A", 13⟩, none⟩, ⟨none, ⟨"B", 15⟩, some ⟨⟨16⟩,
    ⟨⟨.integerLiteral, "1", 17⟩, .integer 1, digit_denotes "1" 17 1 (by decide) (by decide)⟩, ⟨18⟩, y, ⟨21⟩⟩⟩⟩, ⟨22⟩⟩, []⟩

def digitTwo : Numeral := ⟨⟨.integerLiteral, "2", 20⟩, .integer 2, digit_denotes "2" 20 2 (by decide) (by decide)⟩

def digitSeven : Numeral := ⟨⟨.integerLiteral, "7", 20⟩, .integer 7, digit_denotes "7" 20 7 (by decide) (by decide)⟩

end Grammar

open Grammar (halfWritten digitTwo digitSeven)

theorem half_written_read (y : Grammar.Numeral) : ∃ session, Reading.ofTokens (.cycle [3, 4]) (halfWritten y).tokens =
    .finished [⟨"DRAW", .line ⟨.segment, ⟨"A", ⟨.integer 3, .integer 4⟩⟩, ⟨"B", ⟨.integer 1, y.value⟩⟩⟩⟩] session := by
  have clear : (halfWritten y).Clear := by
    have start : "A" ≠ Keyword.point.spelling := by decide
    have stop : "B" ≠ Keyword.point.spelling := by decide
    have unopened : some "B" ≠ some Vocabulary.opening := by decide
    intro command inside
    cases List.mem_singleton.mp inside
    exact ⟨⟨fun _ => start, fun _ => unopened⟩, fun _ => stop, nofun⟩
  have first : Memory.Places (.cycle [3, 4]) Memory.empty ⟨"A", none⟩ ⟨"A", ⟨.integer 3, .integer 4⟩⟩
      ⟨[("A", ⟨.integer 3, .integer 4⟩)], [Jitter.bounds, Jitter.bounds]⟩ :=
    ⟨rfl, .inferred "A" ⟨.integer 0, .integer 0⟩ _ rfl rfl rfl rfl, rfl⟩
  have second : Memory.Places (.cycle [3, 4]) ⟨[("A", ⟨.integer 3, .integer 4⟩)], [Jitter.bounds, Jitter.bounds]⟩
      ⟨"B", some ⟨.integer 1, y.value⟩⟩ ⟨"B", ⟨.integer 1, y.value⟩⟩
      ⟨[("A", ⟨.integer 3, .integer 4⟩), ("B", ⟨.integer 1, y.value⟩)], [Jitter.bounds, Jitter.bounds]⟩ :=
    ⟨rfl, .written "B" _, rfl⟩
  have yields : (halfWritten y).Yields [⟨"DRAW", .line ⟨.segment, ⟨"A", ⟨.integer 3, .integer 4⟩⟩,
      ⟨"B", ⟨.integer 1, y.value⟩⟩⟩⟩] := by
    refine .cons ⟨rfl, rfl, ⟨rfl, fun _ written => by cases written⟩, rfl, ?_⟩ .nil
    rintro _ ⟨⟩
    rfl
  obtain ⟨session, done, _⟩ := reading_complete (.cycle [3, 4]) (halfWritten y) _ _ clear yields
    (.cons _ _ _ _ _ _ _ first (.cons _ _ _ _ _ _ _ second (.nil _)))
  exact ⟨session, done⟩

theorem half_written_recast (y z : Grammar.Numeral) :
    Recast (Respells .x) (halfWritten y).tokens (halfWritten z).tokens := by
  have respelled : Respells .x ⟨⟨.integerLiteral, "1", 17⟩, y.token⟩ ⟨⟨.integerLiteral, "1", 17⟩, z.token⟩ :=
    ⟨rfl, ⟨.integer 1, z.value⟩, (number_denotes _ _).mpr (Grammar.digit_denotes "1" 17 1 (by decide) (by decide)),
      (number_denotes _ _).mpr z.denotes⟩
  have clause := Recast.clause _ _ _ _ _ _ _ _ _ _ ⟨rfl, rfl⟩ (token_alike ⟨.separator, "(", 16⟩)
    (token_alike ⟨.separator, ",", 18⟩) respelled (.short [⟨.separator, ")", 21⟩, ⟨.separator, ".", 22⟩] (by decide))
  have closed (token : Token) (kind : token.category ≠ .separator) : ¬token.Opens := fun opens => kind opens.1
  exact .other _ _ _ _ (closed _ nofun) (token_alike _) (.other _ _ _ _ (closed _ nofun) (token_alike _)
    (.other _ _ _ _ (closed _ nofun) (token_alike _) (.other _ _ _ _ (closed _ nofun) (token_alike _) clause)))

theorem half_written_axes : (Jitter.cycle [3, 4]).Bounded ∧ ∃ drawing session,
    Reading.ofTokens (.cycle [3, 4]) (halfWritten digitTwo).tokens = .finished drawing session ∧
    (∃ later, Reading.ofTokens (Jitter.cycle [3, 4]).exchanged (exchangeAxes (halfWritten digitTwo).tokens) =
      .finished [⟨"DRAW", .line ⟨.segment, ⟨"A", ⟨.integer 4, .integer 3⟩⟩, ⟨"B", ⟨.integer 2, .integer 1⟩⟩⟩⟩] later) ∧
    ∃ drawing' later, Reading.ofTokens (.cycle [3, 5]) (halfWritten digitSeven).tokens = .finished drawing' later ∧
      (drawing'.points.map fun point => point.coords.along .x) = [.integer 3, .integer 1] := by
  have bounded : (Jitter.cycle [3, 4]).Bounded := cycle_bounded _ (by decide)
  have boundedToo : (Jitter.cycle [3, 5]).Bounded := cycle_bounded _ (by decide)
  have draws : (Jitter.cycle [3, 4]).AgreesAlong .x (.cycle [3, 5]) := by
    intro turn even
    have first : (turn + Axis.x.turn) % 2 = 0 := Nat.even_iff.mp even
    simp [Jitter.cycle, first]
  obtain ⟨session, done⟩ := half_written_read digitTwo
  obtain ⟨⟨exchanged, read, _⟩, apart⟩ := axes_alike_and_apart (.cycle [3, 4]) bounded _ _ session done
  obtain ⟨drawing', later, read', _, points, _⟩ := apart .x (.cycle [3, 5]) (halfWritten digitSeven).tokens boundedToo draws
    (half_written_recast digitTwo digitSeven)
  exact ⟨bounded, _, session, done, ⟨exchanged, read⟩, drawing', later, read', points⟩

end Straightedge
