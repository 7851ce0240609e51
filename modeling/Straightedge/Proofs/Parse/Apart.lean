import Straightedge.Proofs.Parse.Located
import Straightedge.Proofs.Parse.Lockstep
import Straightedge.Proofs.Parse.Safe
import Straightedge.Proofs.Place.History

namespace Straightedge

theorem Table.find_none (table : Table) (name : String) : table.find? name = none ↔ name ∉ table.names := by
  induction table with
  | nil => simp [Table.find?, Table.names]
  | cons entry rest ih =>
      obtain ⟨key, coords⟩ := entry
      rw [Table.find?, names_cons, List.mem_cons, not_or]
      by_cases same : key = name
      · simp [same]
      · rw [if_neg same, ih]
        exact ⟨fun absent => ⟨Ne.symm same, absent⟩, And.right⟩

structure Matched (session around : Session) : Prop where
  reader : around.reader = session.reader
  names : around.table.names = session.table.names
  requests : around.requests = session.requests
  unasked : session.requests = [] → around.table = session.table
  convertible : session.table.Convertible
  convertibleToo : around.table.Convertible

inductive SameViolation : Fault → Fault → Prop where
  | violation (error : SyntaxError) : SameViolation (.violation error) (.violation error)

def matchedLikeness : Likeness := ⟨Matched, SameViolation⟩

namespace Rule

variable {α β : Type}

theorem matched_blind (rule : Rule α) (kind : α → Prop) (blind : Blind rule kind) :
    Lockstep matchedLikeness (fun first second => first = second ∧ kind first) rule rule := by
  rintro ⟨reader, table, requests, journal⟩ ⟨_, table', requests', journal'⟩ ⟨readers, names, same, unasked, fine, fineToo⟩
  cases readers
  rcases blind reader with ⟨value, later, holds, passed⟩ | ⟨error, later, failed⟩
  · rw [passed, passed]
    exact .passed _ _ _ _ ⟨rfl, holds⟩ ⟨rfl, names, same, unasked, fine, fineToo⟩
  · rw [failed, failed]
    exact .stopped _ _ _ _ (.violation error) ⟨rfl, names, same, unasked, fine, fineToo⟩

theorem matched_record (session around : Session) (matched : Matched session around) (name : String)
    (first second : Coords Number) (fine : first.Convertible) (fineToo : second.Convertible)
    (same : session.requests = [] → first = second) : Matched { session with table := session.table.record name first }
      { around with table := around.table.record name second } := by
  refine ⟨matched.reader, ?_, matched.requests, fun none => ?_, Table.record_convertible _ _ _ matched.convertible fine,
    Table.record_convertible _ _ _ matched.convertibleToo fineToo⟩
  · rw [names_record, names_record, matched.names]
  · rw [matched.unasked none, same none]

theorem matched_note (event other : Event) : Lockstep matchedLikeness Eq (note event) (note other) :=
  fun _ _ matched => .passed _ _ _ _ rfl ⟨matched.reader, matched.names, matched.requests, matched.unasked,
    matched.convertible, matched.convertibleToo⟩

theorem unwritten_known (jitter : Jitter) (name : String) (session : Session) (coords : Coords Number)
    (found : session.table.find? name = some coords) : unwritten jitter name session = .ok coords session := by
  have looked : find? name session = .ok (some coords) session := congrArg (EStateM.Result.ok · session) found
  rw [unwritten, bind_passed _ _ _ _ _ looked]
  rfl

variable {jitter first second : Jitter}

theorem unwritten_new (bounded : jitter.Bounded) (name : String) (session : Session) (convertible : session.table.Convertible)
    (new : session.table.find? name = none) : ∃ coords later, unwritten jitter name session = .ok coords later ∧
      coords.Convertible ∧ later.reader = session.reader ∧ later.table = session.table ∧
      later.requests = session.requests ++ [Jitter.bounds, Jitter.bounds] := by
  have looked : find? name session = .ok none session := congrArg (EStateM.Result.ok · session) new
  obtain ⟨coords, later, done, kept, table⟩ := inferred_total bounded session convertible
  have reader := (aside_facing _ (aside_inferred jitter) session later coords done []).2
  have requests := congrArg (fun view => view.memory.requests) ((realizes_inferred jitter).sound session coords later done).2
  refine ⟨coords, { later with journal := later.journal ++ [.inferred name coords] }, ?_, kept, reader, table, requests⟩
  rw [unwritten, bind_passed _ _ _ _ _ looked]
  dsimp only
  rw [bind_passed _ _ _ _ _ done]
  rfl

theorem matched_unwritten (bounded : first.Bounded) (boundedToo : second.Bounded) (name : String) (session around : Session)
    (matched : Matched session around) : ∃ coords coords' later later', unwritten first name session = .ok coords later ∧
      unwritten second name around = .ok coords' later' ∧ coords.Convertible ∧ coords'.Convertible ∧
      (later.requests = [] → coords = coords') ∧ Matched later later' := by
  cases found : session.table.find? name with
  | some coords =>
      have known : around.table.find? name ≠ none := by
        rw [ne_eq, Table.find_none, matched.names, ← Table.find_none, found]
        exact Option.some_ne_none coords
      obtain ⟨coords', foundToo⟩ := Option.ne_none_iff_exists'.mp known
      refine ⟨coords, coords', session, around, unwritten_known _ _ _ _ found, unwritten_known _ _ _ _ foundToo,
        Table.find_convertible _ _ _ matched.convertible found, Table.find_convertible _ _ _ matched.convertibleToo foundToo,
        fun none => ?_, matched⟩
      rw [matched.unasked none, found] at foundToo
      exact Option.some.inj foundToo
  | none =>
      have new : around.table.find? name = none := by
        rw [Table.find_none, matched.names, ← Table.find_none, found]
      obtain ⟨coords, later, done, fine, reader, table, requests⟩ := unwritten_new bounded name session matched.convertible found
      obtain ⟨coords', later', done', fine', reader', table', requests'⟩ :=
        unwritten_new boundedToo name around matched.convertibleToo new
      -- jitter was asked for, so from here on the tables may differ
      have asked : later.requests ≠ [] := by
        rw [requests]
        exact List.append_ne_nil_of_right_ne_nil _ (List.cons_ne_nil _ _)
      refine ⟨coords, coords', later, later', done, done', fine, fine', fun none => absurd none asked,
        ⟨?_, ?_, ?_, fun none => absurd none asked, table ▸ matched.convertible, table' ▸ matched.convertibleToo⟩⟩
      · rw [reader, reader', matched.reader]
      · rw [table, table', matched.names]
      · rw [requests, requests', matched.requests]

theorem matched_placed (bounded : first.Bounded) (boundedToo : second.Bounded) (name : String) :
    Lockstep matchedLikeness (fun point other => point.name = other.name)
      (do let place ← resolve first name; record name place; return ⟨name, place⟩ : Rule (Point Number))
      (do let place ← resolve second name; record name place; return ⟨name, place⟩ : Rule (Point Number)) := by
  intro session around matched
  by_cases opened : session.reader.remaining.head?.map Token.value = some Vocabulary.opening
  · have openedToo : around.reader.remaining.head?.map Token.value = some Vocabulary.opening := matched.reader ▸ opened
    rw [bind_same _ _ _ _ (resolve_opened first name session opened),
      bind_same _ _ _ _ (resolve_opened second name around openedToo)]
    refine lockstep_bind _ _ _ _ _ _ (matched_blind _ _ blind_coords) ?_ session around matched
    rintro place _ ⟨rfl, fine⟩ later later' kept
    exact .passed _ _ _ _ rfl (matched_record later later' kept name place place fine fine fun _ => rfl)
  · have closedToo : around.reader.remaining.head?.map Token.value ≠ some Vocabulary.opening := matched.reader ▸ opened
    obtain ⟨place, place', later, later', done, done', fine, fine', same, kept⟩ :=
      matched_unwritten bounded boundedToo name session around matched
    rw [← resolve_closed first name session opened] at done
    rw [← resolve_closed second name around closedToo] at done'
    rw [bind_passed _ _ _ _ _ done, bind_passed _ _ _ _ _ done']
    exact .passed _ _ _ _ rfl (matched_record later later' kept name place place' fine fine' same)

theorem matched_point (bounded : first.Bounded) (boundedToo : second.Bounded) :
    Lockstep matchedLikeness (fun point other => point.name = other.name) (point first) (point second) := by
  refine lockstep_bind _ _ _ _ _ _ (matched_blind _ _ blind_mark) fun _ _ _ => ?_
  refine lockstep_bind _ _ _ _ _ _ (matched_blind _ _ (blind_value (some .identifier))) ?_
  rintro name _ ⟨rfl, _⟩
  exact matched_placed bounded boundedToo name

theorem matched_word (category : Option Category) (value : Option String) :
    Lockstep matchedLikeness (fun _ _ => True) (take category value) (take category value) :=
  lockstep_mono _ _ _ _ (fun _ _ _ => trivial) (matched_blind _ _ (blind_take category value))

theorem matched_paired (bounded : first.Bounded) (boundedToo : second.Bounded) :
    Paired matchedLikeness (fun point other => point.name = other.name) first second where
  more session around matched := by rw [matched.reader]
  ahead session around matched := by rw [matched.reader]
  refused session around expected matched := by
    rw [matched.reader]
    exact .violation _
  word _ := matched_word _ _
  terminator := matched_word _ _
  operator := lockstep_mono _ _ _ _ (fun _ _ same => same.1) (matched_blind _ _ (blind_value (some .operator)))
  noted := matched_note
  point := matched_point bounded boundedToo

end Rule

end Straightedge
