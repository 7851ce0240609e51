import Mathlib.Logic.Equiv.Basic
import Straightedge.Proofs.Parse.Twin
import Straightedge.Proofs.Parse.Violation
import Straightedge.Proofs.Place.History
import Straightedge.Proofs.Token.Name

namespace Straightedge

section

variable (rename : String → String)

def Token.renamed (token : Token) : Token :=
  if token.category = .identifier then { token with value := rename token.value } else token

def Table.renamed (table : Table) : Table := table.map fun entry => (rename entry.1, entry.2)

def Point.renamed (point : Point Number) : Point Number := ⟨rename point.name, point.coords⟩

def Line.renamed (line : Line Number) : Line Number := ⟨line.extent, line.start.renamed rename, line.stop.renamed rename⟩

def Figure.renamed : Figure Number → Figure Number
  | .point place => .point (place.renamed rename)
  | .line path => .line (path.renamed rename)
  | .perpendicular base apex => .perpendicular (base.renamed rename) (apex.renamed rename)
  | .triangle first second third => .triangle (first.renamed rename) (second.renamed rename) (third.renamed rename)

def Command.renamed (command : Command Number) : Command Number := ⟨command.operator, command.object.renamed rename⟩

end

def identifiers (tokens : List Token) : List String :=
  (tokens.filter fun token => token.category = .identifier).map Token.value

-- The new names are names, and tell the same points apart.
structure Renaming (tokens : List Token) (rename : String → String) : Prop where
  names : ∀ name ∈ identifiers tokens, tokenize (rename name) = .ok [⟨.identifier, rename name, 0⟩]
  apart : ∀ first ∈ identifiers tokens, ∀ second ∈ identifiers tokens, rename first = rename second → first = second

-- A text that is reported is a new name if the token is a name.
inductive Reading.Renamed (tokens : List Token) (rename : String → String) : Reading → Reading → Prop where
  | empty (nothing : tokens = []) :
      Renamed tokens rename (.empty (.unmet .initial ⟨0, ""⟩)) (.empty (.unmet .initial ⟨0, ""⟩))
  | stopped (expected : Expectation) (token : Token) (inside : token ∈ tokens) (session later : Session)
      (standing : later.standing = (session.reader.position, session.table.renamed rename, session.requests)) :
      Renamed tokens rename (.stopped (.violation (.unmet expected token.snapshot)) session)
        (.stopped (.violation (.unmet expected (token.renamed rename).snapshot)) later)
  | finished (drawing : Drawing) (session later : Session)
      (standing : later.standing = (session.reader.position, session.table.renamed rename, session.requests)) :
      Renamed tokens rename (.finished drawing session) (.finished (drawing.map (Command.renamed rename)) later)

variable {tokens : List Token} {rename : String → String}

theorem name_in (token : Token) (inside : token ∈ tokens) (name : token.category = .identifier) :
    token.value ∈ identifiers tokens :=
  List.mem_map_of_mem (List.mem_filter.mpr ⟨inside, decide_eq_true name⟩)

theorem renamed_name (token : Token) (name : token.category = .identifier) :
    token.renamed rename = ⟨.identifier, rename token.value, token.offset⟩ := by
  rw [Token.renamed, if_pos name, name]

theorem renamed_other (token : Token) (other : token.category ≠ .identifier) : token.renamed rename = token := by
  rw [Token.renamed, if_neg other]

theorem renamed_category (token : Token) : (token.renamed rename).category = token.category := by
  rw [Token.renamed]
  split <;> rfl

theorem renamed_number (token : Token) : (token.renamed rename).number? = token.number? := by
  by_cases name : token.category = .identifier
  · rw [renamed_name token name, Token.number_filtered, Token.number_filtered, name]
  · rw [renamed_other token name]

structure Orderly (tokens : List Token) (rename : String → String) : Prop where
  filled : tokens ≠ []
  before : Disciplined tokens
  behind : Disciplined (tokens.map (Token.renamed rename))
  apart : ∀ first ∈ identifiers tokens, ∀ second ∈ identifiers tokens, rename first = rename second → first = second

theorem lexed_orderly (source : String) (split : tokenize source = .ok tokens) (filled : tokens ≠ [])
    (fresh : Renaming tokens rename) : Orderly tokens rename := by
  have before := tokenize_disciplined source tokens split
  refine ⟨filled, before, List.forall_mem_map.mpr fun token inside => ?_, fresh.apart⟩
  by_cases name : token.category = .identifier
  · have lexed := tokenize_disciplined _ _ (fresh.names token.value (name_in token inside name))
    have fixed : Token.Orderly ⟨.identifier, rename token.value, 0⟩ := lexed _ List.mem_cons_self
    rw [renamed_name token name]
    exact ⟨fixed.keyword, fixed.opening⟩
  · rw [renamed_other token name]
    exact before token inside

-- Neither an old nor a new name is the text of anything but a name.
theorem renamed_fixed (token : Token) (text : String) (before : token.value = text → token.category ≠ .identifier)
    (behind : (token.renamed rename).value = text → token.category ≠ .identifier) :
    (token.renamed rename).value = text ↔ token.value = text := by
  by_cases name : token.category = .identifier
  · exact ⟨fun same => absurd name (behind same), fun same => absurd name (before same)⟩
  · rw [renamed_other token name]

theorem orderly_spelled (orderly : Orderly tokens rename) (token : Token) (inside : token ∈ tokens) (word : Keyword) :
    (token.renamed rename).value = word.spelling ↔ token.value = word.spelling := by
  refine renamed_fixed token _ (fun same => ?_) fun same => ?_
  · rw [(orderly.before token inside).keyword word same]
    decide
  · have keyword := (orderly.behind _ (List.mem_map_of_mem inside)).keyword word same
    rw [renamed_category] at keyword
    rw [keyword]
    decide

theorem orderly_opening (orderly : Orderly tokens rename) (token : Token) (inside : token ∈ tokens) :
    (token.renamed rename).value = Vocabulary.opening ↔ token.value = Vocabulary.opening := by
  refine renamed_fixed token _ (fun same => ?_) fun same => ?_
  · rw [(orderly.before token inside).opening same]
    decide
  · have separator := (orderly.behind _ (List.mem_map_of_mem inside)).opening same
    rw [renamed_category] at separator
    rw [separator]
    decide

theorem renamed_find (table : Table) (name : String) (apart : ∀ key ∈ table.names, rename key = rename name → key = name) :
    (table.renamed rename).find? (rename name) = table.find? name := by
  induction table with
  | nil => rfl
  | cons entry rest ih =>
      obtain ⟨key, place⟩ := entry
      obtain ⟨first, others⟩ := List.forall_mem_cons.mp apart
      have behind := ih others
      rw [Table.renamed] at behind ⊢
      rw [List.map_cons, Table.find?, Table.find?, behind]
      by_cases same : key = name
      · rw [if_pos same, if_pos (congrArg rename same)]
      · rw [if_neg same, if_neg fun renamed => same (first renamed)]

theorem renamed_record (table : Table) (name : String) (place : Coords Number)
    (apart : ∀ key ∈ table.names, rename key = rename name → key = name) :
    (table.renamed rename).record (rename name) place = (table.record name place).renamed rename := by
  induction table with
  | nil => rfl
  | cons entry rest ih =>
      obtain ⟨key, old⟩ := entry
      obtain ⟨first, others⟩ := List.forall_mem_cons.mp apart
      have behind := ih others
      rw [Table.renamed] at behind ⊢
      rw [List.map_cons, Table.record, Table.record, behind]
      by_cases same : key = name
      · rw [if_pos same, if_pos (congrArg rename same)]
        rfl
      · rw [if_neg same, if_neg fun renamed => same (first renamed)]
        rfl

theorem renamed_average (table : Table) : (table.renamed rename).average = table.average := by
  have each : ∀ (rest : Table) (count : Nat) (near : Coords Number),
      Table.averageFrom count near (rest.renamed rename) = Table.averageFrom count near rest := by
    intro rest
    induction rest with
    | nil => exact fun _ _ => rfl
    | cons entry rest ih =>
        intro count near
        rw [Table.renamed] at ih ⊢
        rw [List.map_cons, Table.averageFrom, Table.averageFrom]
        simp only [ih]
  exact each table 0 _

theorem drawing_renamed (first second : Drawing)
    (alike : List.Forall₂ (Command.Alike fun point other => other = point.renamed rename) first second) :
    second = first.map (Command.renamed rename) := by
  rw [drawing_put _ (Point.renamed rename) (fun _ _ same => same) first second alike]
  refine List.map_congr_left fun command _ => ?_
  obtain ⟨operator, object⟩ := command
  cases object <;> rfl

structure Renames (tokens : List Token) (rename : String → String) (session other : Session) : Prop where
  whole : session.reader.toList = tokens
  reader : other.reader = ⟨session.reader.consumed.map (Token.renamed rename), session.reader.remaining.map (Token.renamed rename)⟩
  table : other.table = session.table.renamed rename
  requests : other.requests = session.requests
  named : ∀ name ∈ session.table.names, name ∈ identifiers tokens

inductive RenamedFaults (tokens : List Token) (rename : String → String) : Fault → Fault → Prop where
  | violation (expected : Expectation) (token : Token) (inside : token ∈ tokens) :
      RenamedFaults tokens rename (.violation (.unmet expected token.snapshot))
        (.violation (.unmet expected (token.renamed rename).snapshot))
  | overflow (cause : Overflow) : RenamedFaults tokens rename (.overflow cause) (.overflow cause)

def renamedLikeness (tokens : List Token) (rename : String → String) : Likeness :=
  ⟨Renames tokens rename, RenamedFaults tokens rename⟩

theorem renames_standing (session other : Session) (renames : Renames tokens rename session other) :
    other.standing = (session.reader.position, session.table.renamed rename, session.requests) := by
  rw [Session.standing, renames.table, renames.requests, Reader.position, Reader.position, renames.reader, List.length_map]

theorem renames_front (session other : Session) (renames : Renames tokens rename session other) :
    (session.reader.remaining = [] ∧ other.reader.remaining = []) ∨ ∃ token ∈ tokens, ∃ rest rest',
      session.reader.remaining = token :: rest ∧ other.reader.remaining = token.renamed rename :: rest' ∧
        Renames tokens rename { session with reader := ⟨token :: session.reader.consumed, rest⟩ }
          { other with reader := ⟨token.renamed rename :: other.reader.consumed, rest'⟩ } := by
  obtain ⟨whole, reader, table, requests, named⟩ := renames
  cases front : session.reader.remaining with
  | nil =>
      rw [front] at reader
      exact .inl ⟨rfl, congrArg Reader.remaining reader⟩
  | cons token rest =>
      rw [front] at reader
      rw [Reader.toList, front] at whole
      refine .inr ⟨token, ?_, rest, rest.map (Token.renamed rename), rfl, congrArg Reader.remaining reader, ?_⟩
      · rw [← whole]
        exact List.mem_append_right _ List.mem_cons_self
      · refine ⟨?_, ?_, table, requests, named⟩
        · rw [← whole, Reader.toList, List.reverse_cons, List.append_assoc]
          rfl
        · rw [congrArg Reader.consumed reader]
          rfl

theorem renames_shown (orderly : Orderly tokens rename) (session other : Session)
    (renames : Renames tokens rename session other) : ∃ token ∈ tokens,
      session.reader.peekSnapshot = token.snapshot ∧ other.reader.peekSnapshot = (token.renamed rename).snapshot := by
  rcases renames_front session other renames with ⟨ended, ended'⟩ | ⟨token, inside, rest, rest', front, front', _⟩
  · -- There is a token, and it was read.
    obtain ⟨whole, reader, _⟩ := renames
    rw [Reader.toList, ended, List.append_nil] at whole
    cases consumed : session.reader.consumed with
    | nil =>
        rw [consumed] at whole
        exact absurd whole.symm orderly.filled
    | cons token rest =>
        rw [consumed] at whole reader
        refine ⟨token, by rw [← whole]; simp, ?_, ?_⟩
        · rw [Reader.peekSnapshot, ended, Reader.snapshot, Reader.current?, consumed]
          rfl
        · rw [Reader.peekSnapshot, ended', Reader.snapshot, Reader.current?, reader]
          rfl
  · exact ⟨token, inside, by rw [Reader.peekSnapshot, front], by rw [Reader.peekSnapshot, front']⟩

namespace Rule

-- Where a text is asked for, a name is not.
theorem renamed_take (orderly : Orderly tokens rename) (category : Option Category) (value : Option String)
    (asked : value = none ∨ ∃ other, category = some other ∧ other ≠ .identifier) :
    Lockstep (renamedLikeness tokens rename) (fun first second =>
      first ∈ tokens ∧ second = first.renamed rename ∧ category.all (· == first.category) = true)
        (take category value) (take category value) := by
  intro session around renames
  rcases renames_front session around renames with ⟨ended, ended'⟩ | ⟨token, inside, rest, rest', front, front', kept⟩
  · obtain ⟨token, inside, shown, shown'⟩ := renames_shown orderly session around renames
    rw [Reader.peekSnapshot, ended] at shown
    rw [Reader.peekSnapshot, ended'] at shown'
    dsimp only at shown shown'
    rw [take_end _ _ session ended, take_end _ _ around ended', shown, shown']
    exact .stopped _ _ _ _ (.violation _ token inside) renames
  · have same : (category.all (· == (token.renamed rename).category) && value.all (· == (token.renamed rename).value)) =
        (category.all (· == token.category) && value.all (· == token.value)) := by
      rw [renamed_category]
      rcases asked with rfl | ⟨other, rfl, different⟩
      · rfl
      · by_cases name : token.category = .identifier
        · have refused : (some other).all (· == token.category) = false := by
            rw [name, Option.all_some]
            exact beq_eq_false_iff_ne.mpr different
          rw [refused, Bool.false_and, Bool.false_and]
        · rw [renamed_other token name]
    rw [take_cons _ _ session token rest front, take_cons _ _ around _ rest' front', same]
    split
    · rename_i fits
      exact .passed _ _ _ _ ⟨inside, rfl, (Bool.and_eq_true_iff.mp fits).1⟩ kept
    · exact .stopped _ _ _ _ (.violation _ token inside) kept

theorem renamed_word (orderly : Orderly tokens rename) (category : Category) (text : String)
    (other : category ≠ .identifier) : Lockstep (renamedLikeness tokens rename) (fun _ _ => True)
      (take (some category) (some text)) (take (some category) (some text)) :=
  lockstep_mono _ _ _ _ (fun _ _ _ => trivial) (renamed_take orderly _ _ (.inr ⟨category, rfl, other⟩))

theorem renamed_operator (orderly : Orderly tokens rename) :
    Lockstep (renamedLikeness tokens rename) Eq operator operator := by
  refine lockstep_bind _ _ _ _ _ _ (renamed_take orderly _ none (.inl rfl)) ?_
  rintro token _ ⟨_, rfl, fits⟩
  have category : Category.operator = token.category := eq_of_beq fits
  refine lockstep_pure _ _ _ ?_
  rw [renamed_other token (by rw [← category]; decide)]

theorem renamed_point_name (orderly : Orderly tokens rename) : Lockstep (renamedLikeness tokens rename)
    (fun first second => first ∈ identifiers tokens ∧ second = rename first) pointName pointName := by
  refine lockstep_bind _ _ _ _ _ _ (renamed_take orderly _ none (.inl rfl)) ?_
  rintro token _ ⟨inside, rfl, fits⟩
  have category : Category.identifier = token.category := eq_of_beq fits
  refine lockstep_pure _ _ _ ⟨name_in token inside category.symm, ?_⟩
  rw [renamed_name token category.symm]

theorem renamed_numbers (orderly : Orderly tokens rename) :
    Lockstep (renamedLikeness tokens rename) Eq number number := by
  refine lockstep_bind _ _ _ _ _ _ (renamed_take orderly none none (.inl rfl)) ?_
  rintro token _ ⟨inside, rfl, _⟩
  rw [renamed_number]
  cases token.number? with
  | some value => exact lockstep_pure _ _ _ rfl
  | none => exact fun session around renames => .stopped _ _ _ _ (.violation .number token inside) renames

theorem renames_kept (session around : Session) (renames : Renames tokens rename session around)
    (requests requests' : List Bounds) (same : requests' = requests) (journal journal' : List Event) : Renames tokens rename
      { session with requests := requests, journal := journal } { around with requests := requests', journal := journal' } :=
  ⟨renames.whole, renames.reader, renames.table, same, renames.named⟩

theorem renames_fronted (orderly : Orderly tokens rename) (session around : Session)
    (renames : Renames tokens rename session around) : Fronted session.reader around.reader := by
  rcases renames_front session around renames with ⟨nothing, nothingToo⟩ | ⟨token, inside, rest, rest', front, frontToo, _⟩
  · exact .ended nothing nothingToo
  · exact .facing token _ rest rest' front frontToo (renamed_category token) (orderly_spelled orderly token inside)
      (orderly_opening orderly token inside)

theorem renamed_placing (orderly : Orderly tokens rename) (jitter : Jitter) : Placing (renamedLikeness tokens rename)
    (fun first second => first ∈ identifiers tokens ∧ second = rename first) jitter where
  fronted := renames_fronted orderly
  refused session around expected renames := by
    obtain ⟨token, inside, shown, shown'⟩ := renames_shown orderly session around renames
    rw [shown, shown']
    exact .violation expected token inside
  overflow := .overflow
  word word := renamed_word orderly .keyword _ (by decide)
  separator mark := renamed_word orderly .separator mark (by decide)
  operator := renamed_operator orderly
  name := renamed_point_name orderly
  number := renamed_numbers orderly
  found := by
    rintro name _ ⟨known, rfl⟩ session around renames
    have same : around.table.find? (rename name) = session.table.find? name := by
      rw [renames.table]
      exact renamed_find _ _ fun key inside => orderly.apart key (renames.named key inside) name known
    exact .passed _ _ _ _ same.symm renames
  recorded := by
    rintro name _ place ⟨known, rfl⟩ session around renames
    refine .passed _ _ _ _ rfl ⟨renames.whole, renames.reader, ?_, renames.requests, ?_⟩
    · rw [renames.table]
      exact renamed_record _ _ _ fun key inside => orderly.apart key (renames.named key inside) name known
    · rw [names_record]
      split
      · exact renames.named
      · exact List.forall_mem_append.mpr ⟨renames.named, List.forall_mem_singleton.mpr known⟩
  averaged := by
    intro session around renames
    rw [average, average, renames.table, renamed_average]
    cases session.table.average with
    | ok near => exact .passed _ _ _ _ rfl renames
    | error cause => exact .stopped _ _ _ _ (.overflow cause) renames
  drawn := by
    intro session around renames
    rw [draw, draw, renames.requests]
    exact .passed _ _ _ _ rfl (renames_kept session around renames _ _ rfl _ _)
  noted event other session around renames :=
    .passed _ _ _ _ rfl (renames_kept session around renames _ _ renames.requests _ _)

theorem renamed_drawing (orderly : Orderly tokens rename) (jitter : Jitter) : Lockstep (renamedLikeness tokens rename)
    (fun first second => second = first.map (Command.renamed rename)) (drawing jitter) (drawing jitter) := by
  refine lockstep_mono _ _ _ _ drawing_renamed (lockstep_drawing (placing_paired _ _ jitter (renamed_placing orderly jitter) ?_))
  rintro ⟨name, place⟩ ⟨_, _⟩ ⟨⟨_, rfl⟩, rfl⟩
  rfl

end Rule

/-- A source whose names are exchanged for others is read to the same drawing, table and draws under the other names,
or refused at the same token in the same way. -/
theorem names_carry_no_meaning (jitter : Jitter) (bounded : jitter.Bounded) (source : String) (tokens : List Token)
    (split : tokenize source = .ok tokens) (rename : String → String) (fresh : Renaming tokens rename) :
    Reading.Renamed tokens rename (Reading.ofTokens jitter tokens)
      (Reading.ofTokens jitter (tokens.map (Token.renamed rename))) := by
  by_cases nothing : tokens = []
  · subst nothing
    exact .empty rfl
  · have orderly := lexed_orderly source split nothing fresh
    have filled : tokens.map (Token.renamed rename) ≠ [] := fun none => nothing (List.map_eq_nil_iff.mp none)
    have start : Renames tokens rename ⟨⟨[], tokens⟩, [], [], []⟩ ⟨⟨[], tokens.map (Token.renamed rename)⟩, [], [], []⟩ :=
      ⟨rfl, rfl, rfl, rfl, fun _ none => (List.not_mem_nil none).elim⟩
    have ends := Rule.renamed_drawing orderly jitter _ _ start
    rw [of_tokens_drawing jitter _ nothing, of_tokens_drawing jitter _ filled]
    rw [Reader.ofTokens, Reader.ofTokens] at *
    generalize found : Rule.drawing jitter ⟨⟨[], tokens⟩, [], [], []⟩ = left at ends ⊢
    generalize Rule.drawing jitter ⟨⟨[], tokens.map (Token.renamed rename)⟩, [], [], []⟩ = right at ends ⊢
    cases ends with
    | passed drawing _ session later same renames =>
        cases same
        exact .finished drawing session later (renames_standing session later renames)
    | stopped fault fault' session later same renames =>
        cases same with
        | violation expected token inside =>
            exact .stopped expected token inside session later (renames_standing session later renames)
        | overflow cause => exact absurd found (Rule.drawing_in_range bounded tokens cause session)

def crossedSegment : List Token :=
  [⟨.operator, "DRAW", 0⟩, ⟨.keyword, "SEGMENT", 5⟩, ⟨.identifier, "A", 13⟩, ⟨.identifier, "B", 15⟩, ⟨.separator, ".", 16⟩]

theorem exchanged_names_tell_the_same : (Jitter.cycle [3, 4]).Bounded ∧
    tokenize "DRAW SEGMENT A B." = .ok crossedSegment ∧ Renaming crossedSegment (Equiv.swap "A" "B") ∧
      Reading.Renamed crossedSegment (Equiv.swap "A" "B") (Reading.ofTokens (.cycle [3, 4]) crossedSegment)
        (Reading.ofTokens (.cycle [3, 4]) (crossedSegment.map (Token.renamed (Equiv.swap "A" "B")))) := by
  have bounded : (Jitter.cycle [3, 4]).Bounded := cycle_bounded _ (by decide)
  have split : tokenize "DRAW SEGMENT A B." = .ok crossedSegment := by decide +kernel
  have fresh : Renaming crossedSegment (Equiv.swap "A" "B") := ⟨by decide +kernel, by decide +kernel⟩
  exact ⟨bounded, split, fresh, names_carry_no_meaning _ bounded _ _ split _ fresh⟩

end Straightedge
