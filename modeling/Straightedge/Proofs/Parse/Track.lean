import Straightedge.Proofs.Parse.Completed
import Straightedge.Proofs.Parse.Locate

namespace Straightedge

-- It is spelled like a bracket, so that it cannot be passed over behind a name either.
def oddCategory : Category := .other "" (by decide)

def oddToken (offset : Int) : Token := ⟨oddCategory, Vocabulary.opening, offset⟩

namespace Rule

variable {α β : Type}

def Balks (rule : Rule α) (session : Session) (text : List Token) (offset : Int) (tail : List Token) : Prop :=
  ∃ expected last, rule (session.facing (text ++ oddToken offset :: tail)) =
    .error (.violation (.unmet expected (oddToken offset).snapshot)) last

structure Crosses (rule : Rule α) (session : Session) (text : List Token) (value : α) (later : Session) : Prop where
  passes : Passes rule session text value later
  odd : ∀ offset tail, Balks rule session text offset tail ∨
    rule (session.facing (text ++ oddToken offset :: tail)) = .ok value (later.facing (oddToken offset :: tail))
  known : ∀ token ∈ text, token.category ≠ oddCategory

structure Halts (rule : Rule α) (session : Session) (text ahead : List Token) (error : SyntaxError) : Prop where
  front : session.reader.remaining = text ++ ahead
  shown : ∀ token ∈ ahead.head?, error = .unmet error.expected token.snapshot
  again : ∀ token ∈ ahead.head?, ∀ tail, ∃ last,
    rule (session.facing (text ++ token :: tail)) = .error (.violation error) last
  odd : ∀ offset tail, Balks rule session text offset tail
  known : ∀ token ∈ text, token.category ≠ oddCategory

theorem balks_first (rule : Rule α) (next : α → Rule β) (session : Session) (text : List Token) (offset : Int)
    (tail : List Token) (balks : Balks rule session text offset tail) : Balks (rule >>= next) session text offset tail := by
  obtain ⟨expected, last, stopped⟩ := balks
  exact ⟨expected, last, bind_failed _ _ _ _ _ stopped⟩

theorem balks_or_reaches (rule : Rule α) (next : α → Rule β) (session between : Session) (front back ahead : List Token)
    (value : α) (first : Crosses rule session front value between) (split : between.reader.remaining = back ++ ahead)
    (offset : Int) (tail : List Token) : Balks (rule >>= next) session (front ++ back) offset tail ∨
      (rule >>= next) (session.facing (front ++ back ++ oddToken offset :: tail)) =
        next value (between.facing (back ++ oddToken offset :: tail)) := by
  cases back with
  | nil =>
      rw [List.append_nil, List.nil_append]
      rcases first.odd offset tail with balks | passed
      · exact .inl (balks_first _ _ _ _ _ _ balks)
      · exact .inr (bind_passed _ _ _ _ _ passed)
  | cons token back =>
      -- the first rule sees the same token behind its text as before
      have near : (token :: back ++ oddToken offset :: tail).head? = between.reader.remaining.head? := by rw [split]; rfl
      rw [List.append_assoc]
      exact .inr (bind_passed _ _ _ _ _ (first.passes.again _ near))

theorem known_append (front back : List Token) (first : ∀ token ∈ front, token.category ≠ oddCategory)
    (second : ∀ token ∈ back, token.category ≠ oddCategory) : ∀ token ∈ front ++ back, token.category ≠ oddCategory :=
  List.forall_mem_append.mpr ⟨first, second⟩

theorem crosses_both (rule : Rule α) (next : α → Rule β) (session between later : Session) (front back : List Token)
    (value : α) (result : β) (first : Crosses rule session front value between)
    (second : Crosses (next value) between back result later) : Crosses (rule >>= next) session (front ++ back) result later := by
  refine ⟨passes_both _ _ _ _ _ _ _ _ _ first.passes second.passes, fun offset tail => ?_,
    known_append _ _ first.known second.known⟩
  rcases balks_or_reaches rule next session between front back _ value first second.passes.remaining offset tail with
    balks | reached
  · exact .inl balks
  · rw [Balks, reached]
    exact second.odd offset tail

theorem halts_first (rule : Rule α) (next : α → Rule β) (session : Session) (text ahead : List Token) (error : SyntaxError)
    (halts : Halts rule session text ahead error) : Halts (rule >>= next) session text ahead error := by
  refine ⟨halts.front, halts.shown, fun token head tail => ?_, fun offset tail => balks_first _ _ _ _ _ _ (halts.odd offset tail),
    halts.known⟩
  obtain ⟨last, stopped⟩ := halts.again token head tail
  exact ⟨last, bind_failed _ _ _ _ _ stopped⟩

theorem halts_second (rule : Rule α) (next : α → Rule β) (session between : Session) (front text ahead : List Token)
    (value : α) (error : SyntaxError) (first : Crosses rule session front value between)
    (second : Halts (next value) between text ahead error) : Halts (rule >>= next) session (front ++ text) ahead error := by
  refine ⟨?_, second.shown, fun token head tail => ?_, fun offset tail => ?_, known_append _ _ first.known second.known⟩
  · rw [first.passes.remaining, second.front, List.append_assoc]
  · obtain ⟨last, stopped⟩ := second.again token head tail
    obtain ⟨rest, rfl⟩ := List.head?_eq_some_iff.mp head
    have near : (text ++ token :: tail).head? = between.reader.remaining.head? := by
      rw [second.front]
      exact head_append text _ _ rfl
    rw [List.append_assoc, bind_passed _ _ _ _ _ (first.passes.again _ near)]
    exact ⟨last, stopped⟩
  · rcases balks_or_reaches rule next session between front text ahead value first second.front offset tail with
      balks | reached
    · exact balks
    · rw [Balks, reached]
      exact second.odd offset tail

-- A rule that looks at the token in front, and an odd one there is refused.

theorem crosses_congr (rule other : Rule α) (session later : Session) (text : List Token) (value : α)
    (same : ∀ around : Session, around.reader.remaining.head? = session.reader.remaining.head? → rule around = other around)
    (odd : ∀ offset tail, Balks rule session [] offset tail) (crosses : Crosses other session text value later) :
    Crosses rule session text value later := by
  have near (back : List Token) (head : (text ++ back).head? = session.reader.remaining.head?) :
      rule (session.facing (text ++ back)) = other (session.facing (text ++ back)) := same _ head
  refine ⟨⟨crosses.passes.consumed, crosses.passes.remaining, fun tail head => ?_⟩, fun offset tail => ?_, crosses.known⟩
  · rw [near, crosses.passes.again tail head]
    rw [crosses.passes.remaining]
    exact head_append text _ _ head
  · cases text with
    | nil => exact .inl (odd offset tail)
    | cons token rest =>
        rw [Balks, near _ (by rw [crosses.passes.remaining]; rfl)]
        exact crosses.odd offset tail

theorem halts_congr (rule other : Rule α) (session : Session) (text ahead : List Token) (error : SyntaxError)
    (same : ∀ around : Session, around.reader.remaining.head? = session.reader.remaining.head? → rule around = other around)
    (odd : ∀ offset tail, Balks rule session [] offset tail) (halts : Halts other session text ahead error) :
    Halts rule session text ahead error := by
  have near (back : List Token) (head : (text ++ back).head? = session.reader.remaining.head?) :
      rule (session.facing (text ++ back)) = other (session.facing (text ++ back)) := same _ head
  refine ⟨halts.front, halts.shown, fun token head tail => ?_, fun offset tail => ?_, halts.known⟩
  · rw [near]
    · exact halts.again token head tail
    · obtain ⟨rest, rfl⟩ := List.head?_eq_some_iff.mp head
      rw [halts.front]
      exact head_append text _ _ rfl
  · cases text with
    | nil => exact odd offset tail
    | cons token rest =>
        rw [Balks, near _ (by rw [halts.front]; rfl)]
        exact halts.odd offset tail

-- Rules that read a fixed number of tokens of some kind and leave the memory alone.

structure Plain (rule : Rule α) (kind : Token → Prop) (count : Nat) : Prop where
  passes : ∀ session value later, rule session = .ok value later → later.memory = session.memory ∧
    ∃ text, text.length = count ∧ (∀ token ∈ text, kind token) ∧ Crosses rule session text value later
  halts : ∀ session error later, rule session = .error (.violation error) later → later.memory = session.memory ∧
    ∃ text ahead, text.length < count ∧ (∀ token ∈ text, kind token) ∧ Halts rule session text ahead error

theorem plain_bind (rule : Rule α) (next : α → Rule β) (kind : Token → Prop) (first second : Nat)
    (head : Plain rule kind first) (tail : ∀ value, Plain (next value) kind second) :
    Plain (rule >>= next) kind (first + second) := by
  constructor
  · intro session result later done
    obtain ⟨value, between, passed, rest⟩ := (bind_ok rule next session later result).mp done
    obtain ⟨kept, front, frontLength, frontKind, frontCrosses⟩ := head.passes session value between passed
    obtain ⟨keptToo, back, backLength, backKind, backCrosses⟩ := (tail value).passes between result later rest
    exact ⟨keptToo.trans kept, front ++ back, by rw [List.length_append, frontLength, backLength],
      List.forall_mem_append.mpr ⟨frontKind, backKind⟩, crosses_both _ _ _ _ _ _ _ _ _ frontCrosses backCrosses⟩
  · intro session error later stopped
    rcases bind_error rule next session later _ stopped with failed | ⟨value, between, passed, failed⟩
    · obtain ⟨kept, text, ahead, short, textKind, halts⟩ := head.halts session error later failed
      exact ⟨kept, text, ahead, by omega, textKind, halts_first _ _ _ _ _ _ halts⟩
    · obtain ⟨kept, front, frontLength, frontKind, frontCrosses⟩ := head.passes session value between passed
      obtain ⟨keptToo, text, ahead, short, textKind, halts⟩ := (tail value).halts between error later failed
      exact ⟨keptToo.trans kept, front ++ text, ahead, by rw [List.length_append]; omega,
        List.forall_mem_append.mpr ⟨frontKind, textKind⟩, halts_second _ _ _ _ _ _ _ _ _ frontCrosses halts⟩

theorem crosses_aside (rule : Rule α) (aside : Aside rule) (session later : Session) (value : α)
    (done : rule session = .ok value later) : Crosses rule session [] value later :=
  ⟨passes_aside rule aside session later value done,
    fun offset tail => .inr ((aside_facing rule aside session later value done (oddToken offset :: tail)).1),
    fun _ none => (List.not_mem_nil none).elim⟩

theorem plain_aside (rule : Rule α) (kind : Token → Prop) (aside : Aside rule)
    (kept : ∀ session value later, rule session = .ok value later → later.memory = session.memory) : Plain rule kind 0 :=
  ⟨fun session value later done => ⟨kept session value later done, [], rfl, fun _ none => (List.not_mem_nil none).elim,
      crosses_aside rule aside session later value done⟩,
    fun session error later stopped => absurd stopped (aside.calm session error later)⟩

theorem plain_pure (value : α) (kind : Token → Prop) : Plain (pure value : Rule α) kind 0 := by
  refine plain_aside _ _ (aside_pure value) fun session result later done => ?_
  cases done
  rfl

theorem plain_single (rule : Rule α) (kind : Token → Prop)
    (ended : ∀ session : Session, session.reader.remaining = [] → ∃ expected,
      rule session = .error (.violation (.unmet expected session.reader.snapshot)) session)
    (single : ∀ token, (∃ value, kind token ∧ token.category ≠ oddCategory ∧ ∀ (session : Session) rest,
        rule (session.facing (token :: rest)) = .ok value { session with reader := ⟨token :: session.reader.consumed, rest⟩ }) ∨
      ∃ expected, ∀ (session : Session) rest, rule (session.facing (token :: rest)) =
        .error (.violation (.unmet expected token.snapshot)) { session with reader := ⟨token :: session.reader.consumed, rest⟩ }) :
    Plain rule kind 1 := by
  have odd (session : Session) (offset : Int) (tail : List Token) : Balks rule session [] offset tail := by
    rcases single (oddToken offset) with ⟨_, _, known, _⟩ | ⟨expected, refused⟩
    · exact absurd rfl known
    · exact ⟨expected, _, refused session tail⟩
  constructor
  · intro session value later done
    cases ahead : session.reader.remaining with
    | nil =>
        obtain ⟨expected, failed⟩ := ended session ahead
        rw [failed] at done
        cases done
    | cons token rest =>
        have here := facing_self session _ ahead
        rcases single token with ⟨result, fits, known, passed⟩ | ⟨expected, refused⟩
        · rw [← here, passed] at done
          cases done
          exact ⟨rfl, [token], rfl, List.forall_mem_singleton.mpr fits,
            ⟨⟨rfl, ahead, fun tail _ => passed session tail⟩, fun offset tail => .inr (passed session _),
              List.forall_mem_singleton.mpr known⟩⟩
        · rw [← here, refused] at done
          cases done
  · intro session error later stopped
    cases ahead : session.reader.remaining with
    | nil =>
        obtain ⟨expected, failed⟩ := ended session ahead
        rw [failed] at stopped
        cases stopped
        exact ⟨rfl, [], [], Nat.zero_lt_one, fun _ none => (List.not_mem_nil none).elim,
          ⟨ahead, fun _ none => (by cases none), fun _ none => (by cases none), odd session,
            fun _ none => (List.not_mem_nil none).elim⟩⟩
    | cons token rest =>
        have here := facing_self session _ ahead
        rcases single token with ⟨result, fits, known, passed⟩ | ⟨expected, refused⟩
        · rw [← here, passed] at stopped
          cases stopped
        · rw [← here, refused] at stopped
          cases stopped
          refine ⟨rfl, [], token :: rest, Nat.zero_lt_one, fun _ none => (List.not_mem_nil none).elim,
            ⟨ahead, ?_, ?_, odd session, fun _ none => (List.not_mem_nil none).elim⟩⟩
          · rintro _ ⟨⟩
            rfl
          · rintro _ ⟨⟩ tail
            exact ⟨_, refused session tail⟩

theorem plain_take (category : Category) (value : Option String) (kind : Token → Prop) (known : category ≠ oddCategory)
    (kinds : ∀ token : Token, token.category = category → kind token) : Plain (take (some category) value) kind 1 := by
  refine plain_single _ kind (fun session ahead => ⟨_, take_end _ _ session ahead⟩) fun token => ?_
  by_cases met : ((some category).all (· == token.category) && value.all (· == token.value)) = true
  · have same : category = token.category := ((fits_iff _ _ _).mp met).1 category rfl
    refine .inl ⟨token, kinds token same.symm, same ▸ known, fun session rest => ?_⟩
    rw [take_cons (some category) value _ token rest rfl, if_pos met]
    rfl
  · refine .inr ⟨.token (some category) value, fun session rest => ?_⟩
    rw [take_cons (some category) value _ token rest rfl, if_neg met]
    rfl

theorem plain_number : Plain number (fun token => token.category ≠ .identifier) 1 := by
  refine plain_single _ _ (fun session ahead => ⟨_, bind_failed _ _ _ _ _ (take_end none none session ahead)⟩) fun token => ?_
  have taken (session : Session) (rest : List Token) : take none none (session.facing (token :: rest)) =
      .ok token { session with reader := ⟨token :: session.reader.consumed, rest⟩ } :=
    take_cons none none _ token rest rfl
  cases found : token.number? with
  | some value =>
      refine .inl ⟨value, ?_, ?_, fun session rest => ?_⟩
      · cases (number_denotes token value).mp found <;> exact Category.noConfusion
      · cases (number_denotes token value).mp found <;> exact Category.noConfusion
      · rw [number, bind_passed _ _ _ _ _ (taken session rest), found]
        rfl
  | none =>
      refine .inr ⟨.number, fun session rest => ?_⟩
      rw [number, bind_passed _ _ _ _ _ (taken session rest), found]
      rfl

theorem plain_fixed (category : Category) (value : String) (known : category ≠ oddCategory)
    (silent : category ≠ .identifier) : Plain (take (some category) (some value)) (fun token => token.category ≠ .identifier) 1 :=
  plain_take category _ _ known fun _ same => same ▸ silent

theorem plain_keyword (word : Keyword) : Plain (keyword word) (fun token => token.category ≠ .identifier) 1 :=
  plain_fixed _ _ Category.noConfusion Category.noConfusion

theorem plain_separator (mark : String) : Plain (separator mark) (fun token => token.category ≠ .identifier) 1 :=
  plain_fixed _ _ Category.noConfusion Category.noConfusion

theorem plain_coords : Plain coords (fun token => token.category ≠ .identifier) 5 :=
  plain_bind _ _ _ 1 4 (plain_separator _) fun _ => plain_bind _ _ _ 1 3 plain_number fun _ =>
    plain_bind _ _ _ 1 2 (plain_separator _) fun _ => plain_bind _ _ _ 1 1 plain_number fun _ =>
      plain_bind _ _ _ 1 0 (plain_separator _) fun _ => plain_pure _ _

theorem plain_value (category : Category) (kind : Token → Prop) (known : category ≠ oddCategory)
    (kinds : ∀ token : Token, token.category = category → kind token) :
    Plain (do return (← take (some category) none).value : Rule String) kind 1 :=
  plain_bind _ _ _ 1 0 (plain_take category none kind known kinds) fun _ => plain_pure _ _

end Rule

end Straightedge
