import Straightedge.Proofs.Parse.Tracked
import Straightedge.Proofs.Parse.Violation
import Straightedge.Proofs.Place.History

namespace Straightedge

theorem places_all_trans (jitter : Jitter) (memory between later : Memory) (before after : List Occurrence)
    (points points' : List (Point Number)) (first : Memory.PlacesAll jitter memory before points between)
    (second : Memory.PlacesAll jitter between after points' later) :
    Memory.PlacesAll jitter memory (before ++ after) (points ++ points') later := by
  induction first with
  | nil => exact second
  | cons memory middle between occurrence point before points placed _ ih =>
      exact .cons memory middle later occurrence point (before ++ after) (points ++ points') placed (ih second)

-- The complete occurrences of a text that was read are placed one after another.
def Adds (jitter : Jitter) (memory : Memory) (text ahead : List Token) (later : Memory) : Prop :=
  ∃ occurrences points, Memory.PlacesAll jitter memory occurrences points later ∧
    ∀ count, completed (text.length + count) (text ++ ahead) = occurrences ++ completed count ahead

-- So are those of a text behind which a rule stopped.
def Leaves (jitter : Jitter) (memory : Memory) (text ahead : List Token) (later : Memory) : Prop :=
  ∃ points, Memory.PlacesAll jitter memory (completed text.length (text ++ ahead)) points later

theorem adds_silent (jitter : Jitter) (memory : Memory) (text ahead : List Token) (silent : Silent text) :
    Adds jitter memory text ahead memory :=
  ⟨[], [], .nil memory, fun count => completed_silent text ahead count silent⟩

theorem adds_both (jitter : Jitter) (memory between later : Memory) (front back ahead : List Token)
    (first : Adds jitter memory front (back ++ ahead) between) (second : Adds jitter between back ahead later) :
    Adds jitter memory (front ++ back) ahead later := by
  obtain ⟨before, points, placed, counted⟩ := first
  obtain ⟨after, points', placed', counted'⟩ := second
  refine ⟨before ++ after, points ++ points', places_all_trans _ _ _ _ _ _ _ _ placed placed', fun count => ?_⟩
  rw [List.length_append, Nat.add_assoc, List.append_assoc, counted, counted', List.append_assoc]

theorem leaves_nothing (jitter : Jitter) (memory : Memory) (text ahead : List Token)
    (nothing : completed text.length (text ++ ahead) = []) : Leaves jitter memory text ahead memory := by
  rw [Leaves, nothing]
  exact ⟨[], .nil memory⟩

theorem leaves_behind (jitter : Jitter) (memory between later : Memory) (front text ahead : List Token)
    (first : Adds jitter memory front (text ++ ahead) between) (second : Leaves jitter between text ahead later) :
    Leaves jitter memory (front ++ text) ahead later := by
  obtain ⟨before, points, placed, counted⟩ := first
  obtain ⟨points', placed'⟩ := second
  rw [Leaves, List.length_append, List.append_assoc, counted]
  exact ⟨points ++ points', places_all_trans _ _ _ _ _ _ _ _ placed placed'⟩

theorem carries_complete (jitter : Jitter) : Carries jitter (Adds jitter) (Leaves jitter) where
  silent := adds_silent jitter
  point tree _ ahead place _ clear placed :=
    ⟨[tree.occurrence], [place], .cons _ _ _ _ _ _ _ placed (.nil _), fun count => Grammar.completed_point tree ahead count clear⟩
  both := adds_both jitter
  pending := leaves_nothing jitter
  behind := leaves_behind jitter

namespace Rule

variable {α : Type} (rule : Rule α) (session : Session) (text ahead : List Token) (error : SyntaxError)

theorem halts_beyond (halts : Halts rule session text ahead error) (token : Token) (head : token ∈ ahead.head?)
    (longer : List Token) (begins : text ++ [token] <+: longer) :
    ∃ last, rule (session.facing longer) = .error (.violation error) last := by
  obtain ⟨tail, rfl⟩ := begins
  rw [List.append_assoc]
  exact halts.again token head tail

-- An odd token behind the one that is complained of is not reached: its offset is not the one that is shown.
theorem halts_unbalked (halts : Halts rule session text ahead error) (token : Token) (head : token ∈ ahead.head?)
    (longer : List Token) (begins : text ++ [token] <+: longer) : ¬∀ offset, Balks rule session longer offset [] := by
  intro all
  obtain ⟨expected, last, balked⟩ := all (error.offset + 1)
  obtain ⟨last', stopped⟩ := halts_beyond rule session text ahead error halts token head
    (longer ++ [oddToken (error.offset + 1)]) (begins.trans (List.prefix_append _ _))
  rw [stopped, EStateM.Result.error.injEq, Fault.violation.injEq] at balked
  have shown : error.offset = error.offset + 1 := congrArg SyntaxError.offset balked.1
  omega

variable (jitter : Jitter)

theorem passed_known (value : Drawing) (later : Session) (done : drawing jitter session = .ok value later) :
    ∀ token ∈ session.reader.remaining, token.category ≠ oddCategory := by
  obtain ⟨ended, _⟩ := (realizes_drawing jitter).sound session value later done
  obtain ⟨text, crosses, _⟩ := (follows_drawing (carries_complete jitter) session).passes value later done
  have remaining := crosses.passes.remaining
  rw [show later.reader.remaining = [] from ended, List.append_nil] at remaining
  exact remaining ▸ crosses.known

theorem balks_shorter (bounded : jitter.Bounded) (convertible : session.table.Convertible)
    (halts : Halts (drawing jitter) session text ahead error) (read : List Token) (begins : read <+: text) (offset : Int) :
    Balks (drawing jitter) session read offset [] := by
  rcases safe_drawing bounded (session.facing (read ++ [oddToken offset])) convertible with
    ⟨value, later, done, _⟩ | ⟨found, later, stopped, _⟩
  · -- a drawing is not read across an odd token
    exact absurd rfl (passed_known _ jitter value later done (oddToken offset) (List.mem_append_right _ List.mem_cons_self))
  · obtain ⟨front, back, halts', _⟩ := (follows_drawing (carries_complete jitter) _).halts found later stopped
    have split : read ++ [oddToken offset] = front ++ back := halts'.front
    -- the odd token is not among those that were read
    have cut : back = [oddToken offset] ∨ ∃ token unread, read = front ++ token :: unread ∧ token ∈ back.head? := by
      rcases List.append_eq_append_iff.mp split with ⟨unread, rfl, backSame⟩ | ⟨unread, readSame, rfl⟩
      · cases unread with
        | nil => exact .inl backSame.symm
        | cons token unread =>
            have odd : token = oddToken offset := (List.cons.inj backSame).1.symm
            exact absurd (congrArg Token.category odd) (halts'.known token (List.mem_append_right _ List.mem_cons_self))
      · cases unread with
        | nil => exact .inl rfl
        | cons token unread => exact .inr ⟨token, unread, readSame, rfl⟩
    rcases cut with rfl | ⟨token, unread, rfl, head⟩
    · exact ⟨found.expected, later, halts'.shown (oddToken offset) rfl ▸ stopped⟩
    · -- a token within the text is not complained of, since the reading gets beyond it
      have within : front ++ [token] <+: text := List.IsPrefix.trans ⟨unread, List.append_assoc _ _ _⟩ begins
      exact absurd (fun offset => halts.odd offset []) (halts_unbalked _ _ front back found halts' token head text within)

end Rule

-- The first tokens are all taken: an odd token behind them is what is complained of, wherever it is said to
-- stand.
def Gets (jitter : Jitter) (tokens : List Token) (count : Nat) : Prop :=
  ∀ offset, ∃ expected session, Reading.ofTokens jitter (tokens.take count ++ [oddToken offset]) =
    .stopped (.violation (.unmet expected (oddToken offset).snapshot)) session

theorem gets_balks (jitter : Jitter) (tokens : List Token) (count : Nat) : Gets jitter tokens count ↔
    ∀ offset, (Rule.drawing jitter).Balks ⟨.ofTokens tokens, [], [], []⟩ (tokens.take count) offset [] := by
  refine forall_congr' fun offset => exists_congr fun expected => exists_congr fun session => ?_
  exact of_tokens_stopped jitter _ (List.append_ne_nil_of_right_ne_nil _ (List.cons_ne_nil _ _)) _ session

theorem gets_to_halt (jitter : Jitter) (bounded : jitter.Bounded) (tokens text ahead : List Token) (error : SyntaxError)
    (halts : (Rule.drawing jitter).Halts ⟨.ofTokens tokens, [], [], []⟩ text ahead error) (i : Nat)
    (inside : i ≤ tokens.length) : Gets jitter tokens i ↔ i ≤ text.length := by
  have split : tokens = text ++ ahead := halts.front
  rw [gets_balks]
  constructor
  · intro all
    by_contra beyond
    have more : ahead ≠ [] := by
      rintro rfl
      rw [split, List.append_nil] at inside
      exact beyond inside
    obtain ⟨token, rest, rfl⟩ := List.exists_cons_of_ne_nil more
    refine Rule.halts_unbalked _ _ text _ error halts token rfl (tokens.take i) ?_ all
    rw [split, List.prefix_take_iff, List.length_append]
    exact ⟨⟨rest, List.append_assoc _ _ _⟩, Nat.not_le.mp beyond⟩
  · intro within offset
    refine Rule.balks_shorter _ text ahead error jitter bounded empty_convertible halts _ ?_ offset
    rw [split, List.take_append_of_le_length within]
    exact List.take_prefix _ _

/-- A reading that stops leaves the points that were complete by then, and them alone: each is placed by those
before it, the jitter was asked twice for every name that came up without coordinates, and the table is the
digest of them all. -/
theorem stopped_reading_keeps_complete_points (jitter : Jitter) (bounded : jitter.Bounded) (tokens : List Token)
    (error : SyntaxError) (session : Session) (stopped : Reading.ofTokens jitter tokens = .stopped (.violation error) session) :
    ∃ count ≤ tokens.length, (∀ i ≤ tokens.length, Gets jitter tokens i ↔ i ≤ count) ∧
      (∀ token ∈ tokens[count]?, error.offset = token.offset ∧ error.actual = token.value) ∧
      ∃ points : List (Point Number), points.map Point.name = (completed count tokens).map Occurrence.name ∧
        (∀ (i : Nat) occurrence point, (completed count tokens)[i]? = some occurrence → points[i]? = some point →
          PlacedBy jitter (2 * newAmong (completed count tokens) i) (points.take i) occurrence point.coords) ∧
        session.requests = List.replicate (2 * (bareNames (completed count tokens)).length) Jitter.bounds ∧
        session.table = digest points := by
  have filled : tokens ≠ [] := by
    rintro rfl
    cases stopped
  rw [of_tokens_stopped jitter tokens filled] at stopped
  obtain ⟨text, ahead, halts, points, placed⟩ := (Rule.follows_drawing (carries_complete jitter) _).halts error session stopped
  have split : tokens = text ++ ahead := halts.front
  refine ⟨text.length, ?_, gets_to_halt jitter bounded tokens text ahead error halts, ?_, points, ?_⟩
  · rw [split, List.length_append]
    exact Nat.le_add_right _ _
  · intro token found
    rw [split, List.getElem?_append_right (Nat.le_refl _), Nat.sub_self, ← List.head?_eq_getElem?] at found
    rw [halts.shown token found]
    exact ⟨rfl, rfl⟩
  · rw [split]
    exact placed_from_start jitter _ _ _ placed

-- The source is `DRAW SEGMENT A A(.`, in which the second A is not finished.
def halfWritten : List Token :=
  [⟨.operator, "DRAW", 0⟩, ⟨.keyword, "SEGMENT", 5⟩, ⟨.identifier, "A", 13⟩, ⟨.identifier, "A", 15⟩,
    ⟨.separator, "(", 16⟩, ⟨.separator, ".", 17⟩]

theorem half_written_point_dropped : ∃ error session,
    Reading.ofTokens (.cycle [3, 4]) halfWritten = .stopped (.violation error) session ∧
      session.table = [("A", ⟨.integer 3, .integer 4⟩)] ∧
      ∃ count ≤ halfWritten.length, (∀ i ≤ halfWritten.length, Gets (.cycle [3, 4]) halfWritten i ↔ i ≤ count) ∧
        session.requests = List.replicate (2 * (bareNames (completed count halfWritten)).length) Jitter.bounds := by
  have bounded : (Jitter.cycle [3, 4]).Bounded := cycle_bounded _ (by decide)
  let session : Session := ⟨⟨halfWritten.reverse, []⟩, [("A", ⟨.integer 3, .integer 4⟩)], [Jitter.bounds, Jitter.bounds],
    [.inferred "A" ⟨.integer 3, .integer 4⟩]⟩
  have command : Rule.command (.cycle [3, 4]) ⟨.ofTokens halfWritten, [], [], []⟩ =
      .error (.violation ⟨.number, 17, "."⟩) session := by cbv
  have commands := Rule.commands_step (.cycle [3, 4]) ⟨.ofTokens halfWritten, [], [], []⟩ (List.cons_ne_nil _ _)
  rw [Rule.bind_failed _ _ _ _ _ command] at commands
  have stopped : Reading.ofTokens (.cycle [3, 4]) halfWritten = .stopped (.violation ⟨.number, 17, "."⟩) session := by
    rw [of_tokens_drawing _ halfWritten (List.cons_ne_nil _ _), Rule.drawing, Rule.bind_failed _ _ _ _ _ commands]
  obtain ⟨count, inside, gets, _, _, _, _, requests, _⟩ :=
    stopped_reading_keeps_complete_points (.cycle [3, 4]) bounded halfWritten _ session stopped
  exact ⟨_, session, stopped, rfl, count, inside, gets, requests⟩

end Straightedge
