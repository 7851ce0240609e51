import Straightedge.Proofs.Place.Memory

namespace Straightedge

structure View where
  ahead : List Token
  memory : Memory

def Session.memory (session : Session) : Memory := ⟨session.table, session.requests⟩

def Session.view (session : Session) : View := ⟨session.reader.remaining, session.memory⟩

namespace Rule

variable {α β : Type}

-- The rule succeeds exactly where the relation holds.
structure Realizes (rule : Rule α) (outcome : View → α → View → Prop) : Prop where
  sound : ∀ session value later, rule session = .ok value later → outcome session.view value later.view
  complete : ∀ session value after, outcome session.view value after →
    ∃ later, rule session = .ok value later ∧ later.view = after

theorem realizes_congr (rule : Rule α) (outcome outcome' : View → α → View → Prop)
    (realizes : Realizes rule outcome) (same : ∀ before value after, outcome before value after ↔ outcome' before value after) :
    Realizes rule outcome' := by
  constructor
  · intro session value later done
    exact (same _ _ _).mp (realizes.sound session value later done)
  · intro session value after holds
    exact realizes.complete session value after ((same _ _ _).mpr holds)

theorem realizes_pure (value : α) :
    Realizes (pure value) fun before result after => result = value ∧ after = before := by
  constructor
  · intro session result later done
    cases done
    exact ⟨rfl, rfl⟩
  · rintro session result after ⟨rfl, rfl⟩
    exact ⟨session, rfl, rfl⟩

theorem bind_ok (rule : Rule α) (next : α → Rule β) (session later : Session) (result : β) :
    (rule >>= next) session = .ok result later ↔
      ∃ value between, rule session = .ok value between ∧ next value between = .ok result later := by
  simp only [bind, EStateM.bind]
  cases rule session with
  | ok value between =>
      constructor
      · intro done
        exact ⟨value, between, rfl, done⟩
      · rintro ⟨_, _, passed, done⟩
        cases passed
        exact done
  | error fault between =>
      constructor
      · intro done
        cases done
      · rintro ⟨_, _, passed, _⟩
        cases passed

theorem bind_passed (rule : Rule α) (next : α → Rule β) (session between : Session) (value : α)
    (passed : rule session = .ok value between) : (rule >>= next) session = next value between := by
  simp only [bind, EStateM.bind, passed]

theorem bind_failed (rule : Rule α) (next : α → Rule β) (session later : Session) (fault : Fault)
    (failed : rule session = .error fault later) : (rule >>= next) session = .error fault later := by
  simp only [bind, EStateM.bind, failed]

theorem bind_same (rule other : Rule α) (next : α → Rule β) (session : Session) (same : rule session = other session) :
    (rule >>= next) session = (other >>= next) session := by
  simp only [bind, EStateM.bind, same]

theorem bind_error (rule : Rule α) (next : α → Rule β) (session later : Session) (fault : Fault)
    (stopped : (rule >>= next) session = .error fault later) : rule session = .error fault later ∨
      ∃ value between, rule session = .ok value between ∧ next value between = .error fault later := by
  cases found : rule session with
  | ok value between =>
      rw [bind_passed rule next session between value found] at stopped
      exact .inr ⟨value, between, rfl, stopped⟩
  | error cause between =>
      rw [bind_failed rule next session between cause found] at stopped
      cases stopped
      exact .inl rfl

theorem realizes_bind (rule : Rule α) (next : α → Rule β) (first : View → α → View → Prop)
    (second : α → View → β → View → Prop) (head : Realizes rule first)
    (tail : ∀ value, Realizes (next value) (second value)) :
    Realizes (rule >>= next) fun before result after =>
      ∃ value between, first before value between ∧ second value between result after := by
  constructor
  · intro session result later done
    obtain ⟨value, between, passed, rest⟩ := (bind_ok rule next session later result).mp done
    exact ⟨value, between.view, head.sound _ _ _ passed, (tail value).sound _ _ _ rest⟩
  · rintro session result after ⟨value, between, passed, rest⟩
    obtain ⟨middle, headDone, rfl⟩ := head.complete session value between passed
    obtain ⟨later, tailDone, rfl⟩ := (tail value).complete middle result after rest
    exact ⟨later, (bind_ok rule next session later result).mpr ⟨value, middle, headDone, tailDone⟩, rfl⟩

theorem realizes_fail (expected : Expectation) (found : Snapshot) :
    Realizes (fail expected found : Rule α) fun _ _ _ => False := by
  constructor
  · intro session value later done
    cases done
  · intro session value after impossible
    exact impossible.elim

theorem realizes_lift (result : Except Overflow α) :
    Realizes (lift result) fun before value after => result = .ok value ∧ after = before := by
  constructor
  · intro session value later done
    cases result <;> cases done
    exact ⟨rfl, rfl⟩
  · rintro session value after ⟨rfl, rfl⟩
    exact ⟨session, rfl, rfl⟩

theorem realizes_refuse (look : Rule Snapshot) (expected : Expectation) :
    Realizes (look >>= fail expected : Rule α) fun _ _ _ => False := by
  constructor
  · intro session value later done
    obtain ⟨_, _, _, failed⟩ := (bind_ok look _ session later value).mp done
    cases failed
  · intro session value after impossible
    exact impossible.elim

theorem realizes_step (rule : Rule α) (see : View → α) (move : View → View)
    (step : ∀ session, ∃ later, rule session = .ok (see session.view) later ∧ later.view = move session.view) :
    Realizes rule fun before value after => value = see before ∧ after = move before := by
  constructor
  · intro session value later done
    obtain ⟨_, stepped, moved⟩ := step session
    rw [stepped] at done
    cases done
    exact ⟨rfl, moved⟩
  · rintro session value after ⟨rfl, rfl⟩
    exact step session

theorem realizes_peek_value :
    Realizes peekValue? fun before value after => value = before.ahead.head?.map Token.value ∧ after = before :=
  realizes_step peekValue? (fun view => view.ahead.head?.map Token.value) id fun session => ⟨session, rfl, rfl⟩

theorem realizes_note (event : Event) : Realizes (note event) fun before _ after => after = before := by
  refine realizes_congr _ _ _ (realizes_step (note event) (fun _ => ()) id fun session => ⟨_, rfl, rfl⟩) ?_
  simp

theorem realizes_record (name : String) (coords : Coords Number) :
    Realizes (record name coords) fun before _ after =>
      after = ⟨before.ahead, before.memory.table.record name coords, before.memory.requests⟩ := by
  refine realizes_congr _ _ _ (realizes_step (record name coords) (fun _ => ())
    (fun before => ⟨before.ahead, before.memory.table.record name coords, before.memory.requests⟩)
    fun session => ⟨_, rfl, rfl⟩) ?_
  simp

theorem realizes_draw (jitter : Jitter) :
    Realizes (draw jitter) fun before value after =>
      value = jitter.draw before.memory.requests.length Jitter.bounds ∧
        after = ⟨before.ahead, before.memory.table, before.memory.requests ++ [Jitter.bounds]⟩ :=
  realizes_step (draw jitter) (fun before => jitter.draw before.memory.requests.length Jitter.bounds)
    (fun before => ⟨before.ahead, before.memory.table, before.memory.requests ++ [Jitter.bounds]⟩)
    fun _ => ⟨_, rfl, rfl⟩

-- A token that is consumed is as it was asked for.

def Fits (category : Option Category) (value : Option String) (token : Token) : Prop :=
  (∀ wanted ∈ category, wanted = token.category) ∧ ∀ wanted ∈ value, wanted = token.value

theorem fits_iff (category : Option Category) (value : Option String) (token : Token) :
    (category.all (· == token.category) && value.all (· == token.value)) = true ↔ Fits category value token := by
  simp only [Bool.and_eq_true, Option.all_eq_true, beq_iff_eq, Fits, Option.mem_def]

theorem take_end (category : Option Category) (value : Option String) (session : Session)
    (ended : session.reader.remaining = []) : take category value session =
      .error (.violation (.unmet (.token category value) session.reader.snapshot)) session := by
  simp only [take, Reader.next, ended]

theorem take_cons (category : Option Category) (value : Option String) (session : Session) (token : Token)
    (rest : List Token) (front : session.reader.remaining = token :: rest) :
    take category value session = if category.all (· == token.category) && value.all (· == token.value)
      then .ok token { session with reader := ⟨token :: session.reader.consumed, rest⟩ }
      else .error (.violation (.unmet (.token category value) token.snapshot))
        { session with reader := ⟨token :: session.reader.consumed, rest⟩ } := by
  simp only [take, Reader.next, front]

theorem realizes_take (category : Option Category) (value : Option String) :
    Realizes (take category value) fun before token after =>
      before = ⟨token :: after.ahead, after.memory⟩ ∧ Fits category value token := by
  constructor
  · intro session token later done
    simp only [take, Reader.next] at done
    split at done
    · cases done
    · rename_i front reader read
      split at read <;> cases read
      rename_i rest left
      split at done <;> cases done
      rename_i fits
      refine ⟨?_, (fits_iff _ _ _).mp fits⟩
      rw [Session.view, left]
      rfl
  · rintro session token ⟨rest, memory⟩ ⟨found, fits⟩
    have left : session.reader.remaining = token :: rest := congrArg View.ahead found
    have kept : session.memory = memory := congrArg View.memory found
    refine ⟨{ session with reader := ⟨token :: session.reader.consumed, rest⟩ }, ?_, ?_⟩
    · simp only [take, Reader.next, left, if_pos ((fits_iff _ _ _).mpr fits)]
    · rw [← kept]
      rfl

end Rule

end Straightedge
