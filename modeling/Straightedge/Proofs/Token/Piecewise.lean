import Straightedge.Proofs.Token.Lines

namespace Straightedge

namespace Cursor

inductive Call where
  | peek (distance : Int)
  | atEnd
  | skipGap
  | nextToken
  | tokens

inductive Answer where
  | character (seen : Option Char)
  | ended (seen : Bool)
  | skipped
  | token (found : Except SyntaxError (Option Token))
  | tokens (found : Except SyntaxError (List Token))

def Answer.given : Answer → Except SyntaxError (List Token)
  | .token found => found.map Option.toList
  | .tokens found => found
  | _ => .ok []

def perform (cursor : Cursor) : Call → Answer × Cursor
  | .peek distance => (.character (cursor.peek? distance), cursor)
  | .atEnd => (.ended cursor.atEnd, cursor)
  | .skipGap => (.skipped, cursor.skipGap)
  | .nextToken => (.token cursor.nextToken.1, cursor.nextToken.2)
  | .tokens => (.tokens cursor.tokens.1, cursor.tokens.2)

def Call.reads : Call → Bool
  | .nextToken => true
  | .tokens => true
  | _ => false

-- The cursor stands at the character that the error is about, and no call gets it away from there.
structure Halted (cursor : Cursor) (error : SyntaxError) : Prop where
  shown : ∃ c, cursor.peek? 0 = some c ∧ error = ⟨.validCharacter, cursor.position, String.singleton c⟩
  stays : ∀ call, (cursor.perform call).2 = cursor
  again : ∀ call : Call, call.reads = true → (cursor.perform call).1.given = .error error

end Cursor

open Cursor (Call)

def inTurn {σ κ α : Type} (step : σ → κ → α × σ) (state : σ) : List κ → List α × σ
  | [] => ([], state)
  | call :: rest =>
      let first := step state call
      let later := inTurn step first.2 rest
      (first.1 :: later.1, later.2)

theorem in_turn_alike {σ τ κ α β γ : Type} {step : σ → κ → α × σ} {step' : τ → κ → β × τ} {shown : α → γ}
    {shown' : β → γ} {related : σ → τ → Prop} (each : ∀ state other, related state other → ∀ call,
      shown (step state call).1 = shown' (step' other call).1 ∧ related (step state call).2 (step' other call).2)
    (state : σ) (other : τ) (start : related state other) (calls : List κ) :
    (inTurn step state calls).1.map shown = (inTurn step' other calls).1.map shown' ∧
      related (inTurn step state calls).2 (inTurn step' other calls).2 := by
  induction calls generalizing state other with
  | nil => exact ⟨rfl, start⟩
  | cons call rest ih =>
      obtain ⟨same, between⟩ := each state other start call
      obtain ⟨answers, last⟩ := ih _ _ between
      refine ⟨?_, last⟩
      rw [inTurn, inTurn, List.map_cons, List.map_cons, same, answers]

-- A supply of tokens: they are handed out one by one or all at once, and then there is nothing, or the same error
-- again and again.

structure Supply where
  tokens : List Token
  stop : Option SyntaxError

namespace Supply

def whole (supply : Supply) : Except SyntaxError (List Token) := supply.stop.elim (.ok supply.tokens) .error

def perform (supply : Supply) : Call → Except SyntaxError (List Token) × Supply
  | .nextToken =>
      match supply.tokens with
      | token :: rest => (.ok [token], { supply with tokens := rest })
      | [] => (supply.whole, supply)
  | .tokens => (supply.whole, { supply with tokens := [] })
  | _ => (.ok [], supply)

theorem whole_fails (supply : Supply) (error : SyntaxError) (failed : supply.whole = .error error) :
    supply.stop = some error := by
  obtain ⟨tokens, stop⟩ := supply
  cases stop <;> cases failed
  rfl

-- What stands behind the last token: nothing, or a character that begins neither a gap nor a lexeme.
inductive Ends (offset : Nat) : List Char → Option SyntaxError → Prop where
  | finish : Ends offset [] none
  | stuck (c : Char) (rest : List Char) (stuck : Stuck c rest) :
      Ends offset (c :: rest) (some ⟨.validCharacter, offset, String.singleton c⟩)

end Supply

def Supplies (offset : Nat) (source : List Char) (supply : Supply) : Prop :=
  ∃ text rest, source = text ++ rest ∧ Splits offset text rest supply.tokens ∧
    Supply.Ends (offset + text.length) rest supply.stop

theorem supplies_exists (offset : Nat) (source : List Char) : ∃ supply, Supplies offset source supply := by
  rcases splits_or_stuck offset source with ⟨tokens, splits⟩ | ⟨before, c, after, tokens, split, splits, stuck⟩
  · exact ⟨⟨tokens, none⟩, source, [], (List.append_nil source).symm, splits, .finish⟩
  · exact ⟨⟨tokens, some _⟩, before, c :: after, split, splits, .stuck c after stuck⟩

section

variable {offset : Nat} {rest : List Char} {stop : Option SyntaxError} (ends : Supply.Ends offset rest stop)

include ends

theorem ends_no_gap : gapLength false rest = 0 := by
  cases ends with
  | finish => rfl
  | stuck c rest stuck => exact stuck_no_gap c rest stuck

theorem ends_scan : scan offset rest = (stop.elim (.ok []) .error, offset) := by
  cases ends with
  | finish => exact scan_finish offset 0 [] rfl
  | stuck c rest stuck => exact scan_stuck offset c rest stuck

theorem ends_front : front rest = .finish 0 ∧ stop = none ∨
    ∃ c, front rest = .invalid 0 c ∧ stop = some ⟨.validCharacter, offset, String.singleton c⟩ := by
  cases ends with
  | finish => exact .inl ⟨rfl, rfl⟩
  | stuck c rest stuck => exact .inr ⟨c, front_stuck c rest stuck, rfl⟩

end

def Supplied (cursor : Cursor) (supply : Supply) : Prop := Supplies cursor.position cursor.rest supply

-- The call hands out what the supply does, and goes on in what is ahead. It fails only at the end of a supply.
structure Supplying (cursor : Cursor) (supply : Supply) (call : Call) : Prop where
  given : (cursor.perform call).1.given = (supply.perform call).1
  supplied : Supplied (cursor.perform call).2 (supply.perform call).2
  ahead : ∃ size ≤ cursor.rest.length, (cursor.perform call).2 = cursor.advance size
  fails : ∀ error, (supply.perform call).1 = .error error →
    Supply.Ends (cursor.perform call).2.position (cursor.perform call).2.rest (some error)

theorem supplying_front (cursor : Cursor) (supply : Supply) (call : Call) (front text rest : List Char)
    (taken : (cursor.perform call).2 = cursor.advance front.length)
    (given : (cursor.perform call).1.given = (supply.perform call).1) (ahead : cursor.rest = front ++ (text ++ rest))
    (splits : Splits (cursor.position + front.length) text rest (supply.perform call).2.tokens)
    (ends : Supply.Ends (cursor.position + (front ++ text).length) rest (supply.perform call).2.stop)
    (fails : ∀ error, (supply.perform call).1 = .error error →
      text = [] ∧ (supply.perform call).2.stop = some error) : Supplying cursor supply call := by
  have behind : (cursor.advance front.length).rest = text ++ rest := by
    rw [Cursor.rest_advance, ahead, List.drop_left]
  rw [List.length_append, ← Nat.add_assoc] at ends
  refine ⟨given, ?_, ⟨front.length, ?_, taken⟩, ?_⟩
  · rw [taken]
    exact ⟨text, rest, behind, splits, ends⟩
  · rw [ahead, List.length_append]
    exact Nat.le_add_right _ _
  · intro error failed
    obtain ⟨rfl, stopped⟩ := fails error failed
    rw [taken, behind, ← stopped]
    exact ends

theorem gap_taken (offset : Nat) (text rest : List Char) (tokens : List Token) (splits : Splits offset text rest tokens)
    (noGap : gapLength false rest = 0) : ∃ gap left, text = gap ++ left ∧
      gapLength false (text ++ rest) = gap.length ∧ Splits (offset + gap.length) left rest tokens ∧
        (left = [] ↔ tokens = []) := by
  cases splits with
  | finish _ _ _ isGap =>
      refine ⟨text, [], (List.append_nil text).symm, ?_, .finish _ [] rest (.empty rest), by simp⟩
      rw [gap_length_gap _ _ isGap, noGap, Nat.add_zero]
  | lexeme _ gap text later rest category value tokens isGap stands tail =>
      obtain ⟨lexeme, read, same, _⟩ := stands_front text (later ++ rest) category value stands
      have filled : text ≠ [] := same ▸ Lexeme.front_ne_nil _ lexeme read
      have behind := Splits.lexeme (offset + gap.length) [] text later rest category value tokens (.empty _) stands
      rw [List.length_nil, Nat.zero_add, Nat.add_assoc] at behind
      refine ⟨gap, text ++ later, rfl, ?_, behind tail, by simp [filled]⟩
      rw [List.append_assoc, List.append_assoc, gap_length_gap _ _ isGap, gap_length_lexeme _ lexeme read, Nat.add_zero]

section

variable (cursor : Cursor) (supply : Supply) (supplied : Supplied cursor supply)

include supplied

theorem supplying_look (call : Call) (looks : (cursor.perform call).2 = cursor)
    (given : (cursor.perform call).1.given = .ok []) (untouched : supply.perform call = (.ok [], supply)) :
    Supplying cursor supply call := by
  obtain ⟨text, rest, ahead, splits, ends⟩ := supplied
  refine supplying_front cursor supply call [] text rest looks (by rw [given, untouched]) ahead ?_ ?_ ?_ <;>
    rw [untouched]
  · exact splits
  · exact ends
  · intro error failed
    cases failed

theorem supplying_skip : Supplying cursor supply .skipGap := by
  obtain ⟨text, rest, ahead, splits, ends⟩ := supplied
  obtain ⟨gap, left, rfl, size, behind, _⟩ := gap_taken _ text rest _ splits (ends_no_gap ends)
  rw [← ahead] at size
  rw [List.append_assoc] at ahead
  exact supplying_front cursor supply _ gap left rest (congrArg cursor.advance size) rfl ahead behind ends
    fun _ failed => by cases failed

theorem supplying_next : Supplying cursor supply .nextToken := by
  obtain ⟨tokens, stop⟩ := supply
  obtain ⟨text, rest, ahead, splits, ends⟩ := supplied
  cases splits with
  | finish _ gap rest isGap =>
      -- Behind the gap nothing is read.
      have read : cursor.nextToken = (stop.elim (.ok none) .error, cursor.advance text.length) := by
        rw [Cursor.nextToken, ahead, front_gap _ _ isGap]
        rcases ends_front ends with ⟨found, rfl⟩ | ⟨c, found, rfl⟩ <;> rw [found] <;> rfl
      refine supplying_front cursor _ _ text [] rest (congrArg Prod.snd read) ?_ ahead ?_ ?_ ?_
      · rw [Cursor.perform, read]
        cases stop <;> rfl
      · exact .finish _ [] rest (.empty rest)
      · rwa [List.append_nil]
      · exact fun error failed => ⟨rfl, Supply.whole_fails ⟨[], stop⟩ error failed⟩
  | lexeme _ gap text later rest category value tokens isGap stands tail =>
      rw [List.append_assoc, List.append_assoc] at ahead
      have read := next_token_stands cursor gap text (later ++ rest) category value ahead isGap stands
      rw [← List.append_assoc] at ahead
      refine supplying_front cursor _ _ (gap ++ text) later rest (congrArg Prod.snd read) ?_ ahead ?_ ?_ ?_
      · rw [Cursor.perform, read]
        rfl
      · rwa [List.length_append]
      · rwa [List.append_assoc]
      · intro error failed
        cases failed

theorem supplying_tokens : Supplying cursor supply .tokens := by
  obtain ⟨tokens, stop⟩ := supply
  obtain ⟨text, rest, ahead, splits, ends⟩ := supplied
  have read : cursor.tokens = (stop.elim (.ok tokens) .error, cursor.advance text.length) := by
    rw [Cursor.tokens, ahead, splits_scan _ _ _ _ splits, ends_scan ends]
    cases stop with
    | none => simp [prepend, Except.map, Cursor.advance]
    | some error => rfl
  refine supplying_front cursor _ _ text [] rest (congrArg Prod.snd read) (congrArg Prod.fst read) ahead ?_ ?_ ?_
  · exact .finish _ [] rest (.empty rest)
  · rwa [List.append_nil]
  · exact fun error failed => ⟨rfl, Supply.whole_fails ⟨tokens, stop⟩ error failed⟩

theorem supplying (call : Call) : Supplying cursor supply call := by
  cases call with
  | peek distance => exact supplying_look cursor supply supplied _ rfl rfl rfl
  | atEnd => exact supplying_look cursor supply supplied _ rfl rfl rfl
  | skipGap => exact supplying_skip cursor supply supplied
  | nextToken => exact supplying_next cursor supply supplied
  | tokens => exact supplying_tokens cursor supply supplied

theorem supplied_whole : cursor.tokens.1 = supply.whole := (supplying cursor supply supplied .tokens).given

theorem supplied_run (calls : List Call) :
    let run := inTurn Cursor.perform cursor calls
    let handed := inTurn Supply.perform supply calls
    run.1.map Cursor.Answer.given = handed.1 ∧ Supplied run.2 handed.2 := by
  have each (cursor : Cursor) (supply : Supply) (supplied : Supplied cursor supply) (call : Call) :
      (cursor.perform call).1.given = id (supply.perform call).1 ∧
        Supplied (cursor.perform call).2 (supply.perform call).2 :=
    ⟨(supplying cursor supply supplied call).given, (supplying cursor supply supplied call).supplied⟩
  have run := in_turn_alike each cursor supply supplied calls
  rwa [List.map_id] at run

-- Only blanks and comments are left in front of the invalid character exactly if no token is.
theorem supplied_reaches (error : SyntaxError) (stopped : supply.stop = some error) :
    (cursor.skipGap.position : Int) = error.offset ↔ supply.tokens = [] := by
  obtain ⟨tokens, stop⟩ := supply
  obtain ⟨text, rest, ahead, splits, ends⟩ := supplied
  obtain ⟨gap, left, rfl, size, _, empty⟩ := gap_taken _ text rest _ splits (ends_no_gap ends)
  have reached : cursor.skipGap.position = cursor.position + gap.length := by
    rw [Cursor.skipGap, ahead, size]
    rfl
  cases stopped
  cases ends
  rw [reached, ← empty, ← List.length_eq_zero_iff, List.length_append]
  dsimp only
  omega

end

-- A call that fails leaves the cursor where every further call fails.

theorem ends_halted (cursor : Cursor) (error : SyntaxError)
    (ends : Supply.Ends cursor.position cursor.rest (some error)) : cursor.Halted error := by
  have noGap := ends_no_gap ends
  have scanned := ends_scan ends
  obtain ⟨_, impossible⟩ | ⟨c, found, same⟩ := ends_front ends
  · cases impossible
  have next : cursor.nextToken = (.error error, cursor) := by
    rw [Cursor.nextToken, found]
    cases same
    rfl
  have tokens : cursor.tokens = (.error error, cursor) := by
    rw [Cursor.tokens, scanned]
    rfl
  refine ⟨?_, ?_, ?_⟩
  · generalize behind : cursor.rest = rest at ends
    cases ends with
    | stuck d later stuck =>
      refine ⟨d, ?_, rfl⟩
      have head := congrArg List.head? behind
      rw [Cursor.rest, List.head?_drop] at head
      simpa [Cursor.peek?] using head
  · intro call
    cases call with
    | peek | atEnd => rfl
    | skipGap => exact congrArg cursor.advance noGap
    | nextToken => exact congrArg Prod.snd next
    | tokens => exact congrArg Prod.snd tokens
  · intro call reads
    cases call with
    | peek | atEnd | skipGap => cases reads
    | nextToken => rw [Cursor.perform, next]; rfl
    | tokens => exact congrArg Prod.fst tokens

theorem failed_halted (cursor : Cursor) (call : Call) (error : SyntaxError)
    (failed : (cursor.perform call).1.given = .error error) : (cursor.perform call).2.Halted error := by
  obtain ⟨supply, supplied⟩ := supplies_exists cursor.position cursor.rest
  have supplying := supplying cursor supply supplied call
  exact ends_halted _ error (supplying.fails error (supplying.given ▸ failed))

-- The position never goes back, and stays in the source once it is there.

theorem call_ahead (cursor : Cursor) (call : Call) :
    ∃ size ≤ cursor.rest.length, (cursor.perform call).2 = cursor.advance size := by
  obtain ⟨supply, supplied⟩ := supplies_exists cursor.position cursor.rest
  exact (supplying cursor supply supplied call).ahead

theorem run_ahead (cursor : Cursor) (calls : List Call) :
    ∃ size ≤ cursor.rest.length, (inTurn Cursor.perform cursor calls).2 = cursor.advance size := by
  induction calls generalizing cursor with
  | nil => exact ⟨0, Nat.zero_le _, rfl⟩
  | cons call rest ih =>
      obtain ⟨first, inside, after⟩ := call_ahead cursor call
      obtain ⟨later, behind, last⟩ := ih (cursor.perform call).2
      rw [after, Cursor.rest_advance, List.length_drop] at behind
      rw [after, Cursor.advance_advance] at last
      refine ⟨first + later, by omega, ?_⟩
      rw [inTurn, after]
      exact last

-- A source without its beginning is read alike, only with offsets that are lower.

def raiseFound (distance : Nat) (found : Except SyntaxError (List Token)) : Except SyntaxError (List Token) :=
  (found.map (List.map (Token.raised distance))).mapError (SyntaxError.raised distance)

-- One cursor has the same ahead as another that is further back by a distance.
structure Ahead (distance : Nat) (cursor other : Cursor) : Prop where
  rest : cursor.rest = other.rest
  position : cursor.position = distance + other.position

theorem call_raised (distance : Nat) (cursor other : Cursor) (ahead : Ahead distance cursor other) (call : Call) :
    (cursor.perform call).1.given = raiseFound distance (other.perform call).1.given ∧
      (cursor.perform call).2.position = distance + (other.perform call).2.position := by
  obtain ⟨rest, position⟩ := ahead
  have moved (size : Nat) : cursor.position + size = distance + (other.position + size) := by
    rw [position, Nat.add_assoc]
  cases call with
  | peek | atEnd => exact ⟨rfl, position⟩
  | skipGap =>
      rw [Cursor.perform, Cursor.skipGap, rest]
      exact ⟨rfl, moved _⟩
  | nextToken =>
      rw [Cursor.perform, Cursor.perform, Cursor.nextToken, Cursor.nextToken, rest]
      cases front other.rest with
      | finish gap => exact ⟨rfl, moved gap⟩
      | invalid gap c =>
          refine ⟨?_, moved gap⟩
          simp [moved, Cursor.Answer.given, raiseFound, Except.map, Except.mapError, SyntaxError.raised]
      | lexeme gap lexeme =>
          refine ⟨?_, moved _⟩
          dsimp only
          rw [moved, lexeme_raised]
          rfl
  | tokens =>
      have scanned := scan_raised distance other.position other.rest
      rw [← rest, ← position, rest] at scanned
      simp only [Cursor.perform, Cursor.tokens, Cursor.Answer.given, rest, scanned]
      exact ⟨rfl, rfl⟩

theorem call_still_ahead (distance : Nat) (cursor other : Cursor) (ahead : Ahead distance cursor other) (call : Call) :
    Ahead distance (cursor.perform call).2 (other.perform call).2 := by
  obtain ⟨_, position⟩ := call_raised distance cursor other ahead call
  obtain ⟨size, _, after⟩ := call_ahead cursor call
  obtain ⟨otherSize, _, otherAfter⟩ := call_ahead other call
  -- The positions tell that both have gone on by the same size.
  have same : size = otherSize := by
    rw [after, otherAfter] at position
    simp only [Cursor.advance, ahead.position] at position
    omega
  refine ⟨?_, position⟩
  rw [after, otherAfter, same, Cursor.rest_advance, Cursor.rest_advance, ahead.rest]

theorem run_raised (distance : Nat) (cursor other : Cursor) (ahead : Ahead distance cursor other) (calls : List Call) :
    let run := inTurn Cursor.perform cursor calls
    let alone := inTurn Cursor.perform other calls
    run.1.map Cursor.Answer.given = alone.1.map (raiseFound distance ·.given) ∧ Ahead distance run.2 alone.2 :=
  in_turn_alike (fun cursor other ahead call =>
    ⟨(call_raised distance cursor other ahead call).1, call_still_ahead distance cursor other ahead call⟩)
    cursor other ahead calls

namespace Supply

theorem run_stop (supply : Supply) (calls : List Call) : (inTurn perform supply calls).2.stop = supply.stop := by
  induction calls generalizing supply with
  | nil => rfl
  | cons call rest ih =>
      have kept : (supply.perform call).2.stop = supply.stop := by
        cases call with
        | nextToken =>
            obtain ⟨tokens, stop⟩ := supply
            cases tokens <;> rfl
        | _ => rfl
      rw [inTurn, ih, kept]

-- Without an error the tokens come out one after the other, and none is lost.
theorem run_joined (tokens : List Token) (calls : List Call) : ∃ (given : List (List Token)) (rest : List Token),
    inTurn perform ⟨tokens, none⟩ calls = (given.map .ok, ⟨rest, none⟩) ∧ given.flatten ++ rest = tokens := by
  induction calls generalizing tokens with
  | nil => exact ⟨[], tokens, rfl, rfl⟩
  | cons call rest ih =>
      have first : ∃ part left, perform ⟨tokens, none⟩ call = (.ok part, ⟨left, none⟩) ∧
          part ++ left = tokens := by
        cases call with
        | nextToken =>
            cases tokens with
            | nil => exact ⟨[], [], rfl, rfl⟩
            | cons token left => exact ⟨[token], left, rfl, rfl⟩
        | tokens => exact ⟨tokens, [], rfl, List.append_nil _⟩
        | peek | atEnd | skipGap => exact ⟨[], tokens, rfl, rfl⟩
      obtain ⟨part, left, performed, whole⟩ := first
      obtain ⟨given, last, later, same⟩ := ih left
      refine ⟨part :: given, last, ?_, ?_⟩
      · rw [inTurn, performed, later]
        rfl
      · rw [List.flatten_cons, List.append_assoc, same, whole]

theorem fails_only (supply : Supply) (call : Call) (error : SyntaxError)
    (failed : (supply.perform call).1 = .error error) : supply.stop = some error := by
  cases call with
  | nextToken =>
      obtain ⟨tokens, stop⟩ := supply
      cases tokens with
      | nil => exact whole_fails _ error failed
      | cons token rest => cases failed
  | tokens => exact whole_fails supply error failed
  | peek | atEnd | skipGap => cases failed

theorem fails_iff (supply : Supply) (error : SyntaxError) (stopped : supply.stop = some error) (call : Call) :
    (supply.perform call).1 = .error error ↔ call = .tokens ∨ call = .nextToken ∧ supply.tokens = [] := by
  obtain ⟨tokens, stop⟩ := supply
  cases stopped
  cases call with
  | nextToken => cases tokens <;> simp [perform, whole]
  | tokens => simp [perform, whole]
  | _ => simp [perform]

end Supply

theorem run_whole (cursor : Cursor) (tokens : List Token) (found : cursor.tokens.1 = .ok tokens) (calls : List Call) :
    let run := inTurn Cursor.perform cursor calls
    ∃ (given : List (List Token)) (rest : List Token), run.1.map Cursor.Answer.given = given.map .ok ∧
      run.2.tokens.1 = .ok rest ∧ given.flatten ++ rest = tokens := by
  intro run
  obtain ⟨⟨all, stop⟩, supplied⟩ := supplies_exists cursor.position cursor.rest
  rw [supplied_whole cursor _ supplied] at found
  cases stop <;> cases found
  obtain ⟨given, rest, joined, same⟩ := Supply.run_joined all calls
  obtain ⟨handed, left⟩ := supplied_run cursor _ supplied calls
  rw [joined] at handed left
  exact ⟨given, rest, handed, supplied_whole run.2 _ left, same⟩

theorem run_failing (cursor : Cursor) (error : SyntaxError) (failed : cursor.tokens.1 = .error error) (calls : List Call)
    (call : Call) :
    let run := inTurn Cursor.perform cursor calls
    let next := run.2.perform call
    run.2.tokens.1 = .error error ∧
      (next.1.given = .error error ↔
        call = .tokens ∨ call = .nextToken ∧ (run.2.skipGap.position : Int) = error.offset) ∧
      ∀ other, next.1.given = .error other → other = error ∧ next.2.Halted error := by
  intro run next
  obtain ⟨supply, supplied⟩ := supplies_exists cursor.position cursor.rest
  obtain ⟨_, left⟩ := supplied_run cursor supply supplied calls
  rw [supplied_whole cursor supply supplied] at failed
  have stopped : (inTurn Supply.perform supply calls).2.stop = some error := by
    rw [Supply.run_stop, Supply.whole_fails supply error failed]
  have given : next.1.given = ((inTurn Supply.perform supply calls).2.perform call).1 :=
    (supplying _ _ left call).given
  refine ⟨?_, ?_, ?_⟩
  · rw [supplied_whole run.2 _ left, Supply.whole, stopped]
    rfl
  · rw [given, Supply.fails_iff _ error stopped, supplied_reaches _ _ left error stopped]
  · intro other halted
    have kept := Supply.fails_only _ call other (given ▸ halted)
    rw [stopped] at kept
    cases kept
    exact ⟨rfl, failed_halted run.2 call error halted⟩

theorem run_bounds (cursor : Cursor) (calls : List Call) (call : Call) :
    let run := inTurn Cursor.perform cursor calls
    let next := run.2.perform call
    run.2.position ≤ next.2.position ∧ next.2.position ≤ max cursor.position cursor.source.length := by
  intro run next
  obtain ⟨size, inside, after⟩ := run_ahead cursor calls
  obtain ⟨further, within, moved⟩ := call_ahead run.2 call
  have length : cursor.rest.length = cursor.source.length - cursor.position := List.length_drop
  have here : run.2.position = cursor.position + size := congrArg Cursor.position after
  have there : next.2.position = run.2.position + further := congrArg Cursor.position moved
  rw [after, Cursor.rest_advance, List.length_drop] at within
  omega

/-- Calls in any order hand out one supply of tokens, the one that a single call for all tokens shows. Without an
invalid character they join to what that call gives. Otherwise the first call that comes to the character with
nothing left to hand out fails as that call does, and so does every call for tokens behind it. All of this is the same
in the source without what stands in front of the start, and the position moves between the start and the end. -/
theorem pieces_make_the_whole (source : List Char) (position : Nat) (calls : List Call) (call : Call) :
    let start : Cursor := ⟨source, position⟩
    let run := inTurn Cursor.perform start calls
    let next := run.2.perform call
    let alone := inTurn Cursor.perform ⟨source.drop position, 0⟩ calls
    (∃ supply, Supplies position (source.drop position) supply ∧ start.tokens.1 = supply.whole ∧
      run.1.map Cursor.Answer.given = (inTurn Supply.perform supply calls).1) ∧
    (∀ tokens, start.tokens.1 = .ok tokens → ∃ (given : List (List Token)) (rest : List Token),
      run.1.map Cursor.Answer.given = given.map .ok ∧ run.2.tokens.1 = .ok rest ∧ given.flatten ++ rest = tokens) ∧
    (∀ error, start.tokens.1 = .error error → run.2.tokens.1 = .error error ∧
      (next.1.given = .error error ↔
        call = .tokens ∨ call = .nextToken ∧ (run.2.skipGap.position : Int) = error.offset) ∧
      ∀ other, next.1.given = .error other → other = error ∧ next.2.Halted error) ∧
    (run.1.map Cursor.Answer.given = alone.1.map (raiseFound position ·.given) ∧
      run.2.tokens.1 = raiseFound position alone.2.tokens.1 ∧ run.2.position = position + alone.2.position) ∧
    run.2.position ≤ next.2.position ∧ next.2.position ≤ max position source.length := by
  intro start run next alone
  refine ⟨?_, ?_, ?_, ?_, run_bounds start calls call⟩
  · obtain ⟨supply, supplied⟩ := supplies_exists position (source.drop position)
    exact ⟨supply, supplied, supplied_whole start supply supplied, (supplied_run start supply supplied calls).1⟩
  · exact fun tokens found => run_whole start tokens found calls
  · exact fun error failed => run_failing start error failed calls call
  · have ahead : Ahead position start ⟨source.drop position, 0⟩ := ⟨rfl, rfl⟩
    obtain ⟨answers, behind⟩ := run_raised position start _ ahead calls
    exact ⟨answers, (call_raised position _ _ behind .tokens).1, behind.position⟩

-- The start is within a comment, so what would be skipped in front of it is read as a name.
theorem stray_mark_halts :
    let start : Cursor := ⟨"#x\nA ?B".toList, 1⟩
    let run := inTurn Cursor.perform start [.nextToken, .skipGap, .nextToken]
    start.tokens.1 = .error ⟨.validCharacter, 5, "?"⟩ ∧ run.2.tokens.1 = .error ⟨.validCharacter, 5, "?"⟩ ∧
      (run.2.perform .nextToken).1.given = .error ⟨.validCharacter, 5, "?"⟩ ∧
      (run.2.perform .nextToken).2.Halted ⟨.validCharacter, 5, "?"⟩ := by
  intro start run
  have failed : start.tokens.1 = .error ⟨.validCharacter, 5, "?"⟩ := by decide +kernel
  have reached : run.2.skipGap.position = 5 := by decide +kernel
  obtain ⟨_, _, failing, _⟩ := pieces_make_the_whole _ 1 [.nextToken, .skipGap, .nextToken] .nextToken
  obtain ⟨again, fails, halts⟩ := failing _ failed
  have error := fails.mpr (.inr ⟨rfl, congrArg Nat.cast reached⟩)
  exact ⟨failed, again, error, (halts _ error).2⟩

end Straightedge
