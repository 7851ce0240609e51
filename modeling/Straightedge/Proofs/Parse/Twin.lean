import Straightedge.Proofs.Parse.Lockstep

namespace Straightedge

def Session.standing (session : Session) : Nat × Table × List Bounds :=
  (session.reader.position, session.table, session.requests)

def Token.Alike (first second : Token) : Prop := first.category = second.category ∧ first.value = second.value

-- The pairs that were read come with the last one first, as a reader keeps them.
def Twins (row : List (Token × Token)) (earlier : List Token) (session other : Session) : Prop :=
  ∃ read ahead : List (Token × Token), row = read.reverse ++ ahead ∧
    session.reader = ⟨read.map Prod.fst, ahead.map Prod.fst⟩ ∧
    other.reader = ⟨read.map Prod.snd ++ earlier, ahead.map Prod.snd⟩ ∧
    other.table = session.table ∧ other.requests = session.requests

inductive TwinFaults (row : List (Token × Token)) : Fault → Fault → Prop where
  | violation (expected : Expectation) (pair : Token × Token) (inside : pair ∈ row) :
      TwinFaults row (.violation (.unmet expected pair.1.snapshot)) (.violation (.unmet expected pair.2.snapshot))
  | overflow (cause : Overflow) : TwinFaults row (.overflow cause) (.overflow cause)

def twinLikeness (row : List (Token × Token)) (earlier : List Token) : Likeness := ⟨Twins row earlier, TwinFaults row⟩

structure Spelled (row : List (Token × Token)) : Prop where
  alike : ∀ pair ∈ row, pair.1.Alike pair.2
  filled : row ≠ []

theorem number_alike (first second : Token) (alike : first.Alike second) : first.number? = second.number? := by
  obtain ⟨category, value, offset⟩ := first
  obtain ⟨rfl, rfl⟩ := alike
  rfl

theorem twins_start (row : List (Token × Token)) (earlier : List Token) (table : Table) (requests : List Bounds)
    (journal journal' : List Event) : Twins row earlier ⟨⟨[], row.map Prod.fst⟩, table, requests, journal⟩
      ⟨⟨earlier, row.map Prod.snd⟩, table, requests, journal'⟩ :=
  ⟨[], row, rfl, rfl, rfl, rfl, rfl⟩

theorem twins_standing (row : List (Token × Token)) (earlier : List Token) (session other : Session)
    (twins : Twins row earlier session other) :
    other.standing = (earlier.length + session.reader.position, session.table, session.requests) := by
  obtain ⟨read, ahead, _, reader, reader', table, requests⟩ := twins
  rw [Session.standing, table, requests, Reader.position, Reader.position, reader, reader']
  simp [Nat.add_comm]

namespace Rule

variable {row : List (Token × Token)} {earlier : List Token}

theorem twins_ahead (session around : Session) (twins : Twins row earlier session around) :
    (session.reader.remaining = [] ∧ around.reader.remaining = []) ∨
      ∃ pair ∈ row, ∃ rest rest', session.reader.remaining = pair.1 :: rest ∧ around.reader.remaining = pair.2 :: rest' ∧
        ∀ table requests journal journal', Twins row earlier
          ⟨⟨pair.1 :: session.reader.consumed, rest⟩, table, requests, journal⟩
          ⟨⟨pair.2 :: around.reader.consumed, rest'⟩, table, requests, journal'⟩ := by
  obtain ⟨read, ahead, split, reader, reader', _, _⟩ := twins
  cases ahead with
  | nil => exact .inl ⟨by rw [reader]; rfl, by rw [reader']; rfl⟩
  | cons pair rest =>
      refine .inr ⟨pair, ?_, rest.map Prod.fst, rest.map Prod.snd, by rw [reader]; rfl, by rw [reader']; rfl, ?_⟩
      · rw [split]
        exact List.mem_append_right _ List.mem_cons_self
      · intro table requests journal journal'
        refine ⟨pair :: read, rest, ?_, ?_, ?_, rfl, rfl⟩
        · rw [split, List.reverse_cons, List.append_assoc]
          rfl
        · rw [reader]
          rfl
        · rw [reader']
          rfl

theorem twins_shown (spelled : Spelled row) (session around : Session) (twins : Twins row earlier session around) :
    ∃ pair ∈ row, session.reader.peekSnapshot = pair.1.snapshot ∧ around.reader.peekSnapshot = pair.2.snapshot := by
  obtain ⟨read, ahead, split, reader, reader', _, _⟩ := twins
  cases ahead with
  | cons pair rest =>
      refine ⟨pair, ?_, by rw [reader]; rfl, by rw [reader']; rfl⟩
      rw [split]
      exact List.mem_append_right _ List.mem_cons_self
  | nil =>
      -- The row is not empty, so something was read, and the tokens before the row are out of sight.
      cases read with
      | nil => exact absurd split spelled.filled
      | cons pair rest =>
          refine ⟨pair, ?_, by rw [reader]; rfl, by rw [reader']; rfl⟩
          rw [split]
          simp

theorem twins_kept (session around : Session) (twins : Twins row earlier session around) (table : Table)
    (requests : List Bounds) (journal journal' : List Event) : Twins row earlier
      ⟨session.reader, table, requests, journal⟩ ⟨around.reader, table, requests, journal'⟩ := by
  obtain ⟨read, ahead, split, reader, reader', _, _⟩ := twins
  exact ⟨read, ahead, split, reader, reader', rfl, rfl⟩

variable {α β : Type}

theorem twin_take (spelled : Spelled row) (category : Option Category) (value : Option String) :
    Lockstep (twinLikeness row earlier) (fun first second => (first, second) ∈ row) (take category value)
      (take category value) := by
  intro session around twins
  rcases twins_ahead session around twins with ⟨ended, ended'⟩ | ⟨pair, inside, rest, rest', front, front', later⟩
  · obtain ⟨pair, inside, shown, shown'⟩ := twins_shown spelled session around twins
    rw [take_end _ _ session ended, take_end _ _ around ended']
    rw [Reader.peekSnapshot, ended] at shown
    rw [Reader.peekSnapshot, ended'] at shown'
    dsimp only at shown shown'
    rw [shown, shown']
    exact .stopped _ _ _ _ (.violation _ pair inside) twins
  · obtain ⟨categories, values⟩ := spelled.alike pair inside
    obtain ⟨_, _, _, _, _, table, requests⟩ := twins
    have kept := later session.table session.requests session.journal around.journal
    rw [take_cons _ _ session pair.1 rest front, take_cons _ _ around pair.2 rest' front', ← categories, ← values, table,
      requests]
    split
    · exact .passed _ _ _ _ inside kept
    · exact .stopped _ _ _ _ (.violation _ pair inside) kept

-- Rules that work on the table and the requests alone, which are the same on both sides.

theorem twin_average : Lockstep (twinLikeness row earlier) Eq average average := by
  intro session around twins
  obtain ⟨_, _, _, _, _, table, _⟩ := id twins
  rw [average, average, table]
  cases session.table.average with
  | ok near => exact .passed _ _ _ _ rfl twins
  | error cause => exact .stopped _ _ _ _ (.overflow cause) twins

theorem twin_step (rule other : Rule α) (see : Table → List Bounds → α) (record : Table → Table)
    (ask : List Bounds → List Bounds) (tell tell' : List Event → List Event)
    (step : ∀ reader table requests journal, rule ⟨reader, table, requests, journal⟩ =
      .ok (see table requests) ⟨reader, record table, ask requests, tell journal⟩)
    (step' : ∀ reader table requests journal, other ⟨reader, table, requests, journal⟩ =
      .ok (see table requests) ⟨reader, record table, ask requests, tell' journal⟩) :
    Lockstep (twinLikeness row earlier) Eq rule other := by
  refine lockstep_step _ _ _ _ _ _ _ (fun _ => step _ _ _ _) (fun _ => step' _ _ _ _) fun session around twins => ?_
  obtain ⟨_, _, _, _, _, table, requests⟩ := id twins
  rw [table, requests]
  exact ⟨rfl, twins_kept session around twins _ _ _ _⟩

theorem twin_draw (jitter : Jitter) : Lockstep (twinLikeness row earlier) Eq (draw jitter) (draw jitter) :=
  twin_step _ _ (fun _ requests => jitter.draw requests.length Jitter.bounds) id (· ++ [Jitter.bounds]) id id
    (fun _ _ _ _ => rfl) (fun _ _ _ _ => rfl)

theorem twin_find (name : String) : Lockstep (twinLikeness row earlier) Eq (find? name) (find? name) :=
  twin_step _ _ (fun table _ => table.find? name) id id id id (fun _ _ _ _ => rfl) (fun _ _ _ _ => rfl)

theorem twin_record (name : String) (coords : Coords Number) :
    Lockstep (twinLikeness row earlier) Eq (record name coords) (record name coords) :=
  twin_step _ _ (fun _ _ => ()) (·.record name coords) id id id (fun _ _ _ _ => rfl) (fun _ _ _ _ => rfl)

theorem twin_note (event other : Event) : Lockstep (twinLikeness row earlier) Eq (note event) (note other) :=
  twin_step _ _ (fun _ _ => ()) id id (· ++ [event]) (· ++ [other]) (fun _ _ _ _ => rfl) (fun _ _ _ _ => rfl)

theorem twin_value (spelled : Spelled row) (category : Category) :
    Lockstep (twinLikeness row earlier) Eq (do return (← take (some category) none).value : Rule String)
      (do return (← take (some category) none).value : Rule String) :=
  lockstep_bind _ _ _ _ _ _ (twin_take spelled _ _) fun _ _ inside =>
    lockstep_pure _ _ _ (spelled.alike _ inside).2

theorem twin_word (spelled : Spelled row) (category : Option Category) (value : Option String) :
    Lockstep (twinLikeness row earlier) (fun _ _ => True) (take category value) (take category value) :=
  lockstep_mono _ _ _ _ (fun _ _ _ => trivial) (twin_take spelled category value)

theorem twin_number (spelled : Spelled row) : Lockstep (twinLikeness row earlier) Eq number number := by
  refine lockstep_bind _ _ _ _ _ _ (twin_take spelled none none) fun first second inside => ?_
  rw [← number_alike first second (spelled.alike _ inside)]
  cases first.number? with
  | some value => exact lockstep_pure _ _ _ rfl
  | none => exact fun session around twins => .stopped _ _ _ _ (.violation .number (first, second) inside) twins

theorem twins_fronted (spelled : Spelled row) (session around : Session) (twins : Twins row earlier session around) :
    Fronted session.reader around.reader := by
  rcases twins_ahead session around twins with ⟨nothing, nothingToo⟩ | ⟨pair, inside, rest, rest', front, frontToo, _⟩
  · exact .ended nothing nothingToo
  · obtain ⟨categories, values⟩ := spelled.alike pair inside
    refine .facing pair.1 pair.2 rest rest' front frontToo categories.symm (fun word => ?_) ?_
    · rw [values]
    · rw [values]

theorem twins_placing (spelled : Spelled row) (jitter : Jitter) : Placing (twinLikeness row earlier) Eq jitter where
  fronted := twins_fronted spelled
  refused session around expected twins := by
    obtain ⟨pair, inside, shown, shown'⟩ := twins_shown spelled session around twins
    rw [shown, shown']
    exact .violation expected pair inside
  overflow := .overflow
  word _ := twin_word spelled _ _
  separator _ := twin_word spelled _ _
  operator := twin_value spelled .operator
  name := twin_value spelled .identifier
  number := twin_number spelled
  found := by
    rintro name _ rfl
    exact twin_find name
  recorded := by
    rintro name _ place rfl
    exact twin_record name place
  averaged := twin_average
  drawn := twin_draw jitter
  noted := twin_note

theorem twins_paired (spelled : Spelled row) (jitter : Jitter) : Paired (twinLikeness row earlier) Eq jitter jitter := by
  refine placing_paired Eq Eq jitter (twins_placing spelled jitter) ?_
  rintro ⟨name, place⟩ _ ⟨rfl, rfl⟩
  rfl

theorem twin_drawing (spelled : Spelled row) (jitter : Jitter) :
    Lockstep (twinLikeness row earlier) Eq (drawing jitter) (drawing jitter) :=
  lockstep_mono _ _ _ _ drawing_alike_eq (lockstep_drawing (twins_paired spelled jitter))

end Rule

end Straightedge
