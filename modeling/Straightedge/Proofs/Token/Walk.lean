import Straightedge.Parse.Session
import Straightedge.Proofs.Token.Lexeme
import Straightedge.Proofs.Token.Spelling

namespace Straightedge

open Text
open Cursor (rest_advance advance_advance advance_zero)

-- Why a walk stops: at a character that starts no token, or past the last character.
inductive Halt where
  | violation (error : SyntaxError)
  | exhausted (cause : Exhausted)

abbrev Walk := EStateM Halt Cursor

namespace Walk

def advance : Walk Char := fun cursor =>
  match cursor.next with
  | (.ok c, later) => .ok c later
  | (.error cause, later) => .error (.exhausted cause) later

def ahead (distance : Nat) : Walk (Option Char) := fun cursor => .ok (cursor.peek? distance) cursor

def place : Walk Nat := fun cursor => .ok cursor.position cursor

variable {α β : Type}

@[simp] theorem pure_walk (value : α) (cursor : Cursor) : (pure value : Walk α) cursor = .ok value cursor := rfl

@[simp] theorem bind_walk (step : Walk α) (next : α → Walk β) (cursor : Cursor) :
    (step >>= next) cursor = match step cursor with
      | .ok value later => next value later
      | .error halt later => .error halt later := by
  rw [bind, Monad.toBind, EStateM.instMonad]
  dsimp only [EStateM.bind]
  cases step cursor <;> rfl

theorem bind_of_ok (step : Walk α) (next : α → Walk β) (cursor later : Cursor) (value : α)
    (done : step cursor = .ok value later) : (step >>= next) cursor = next value later := by
  rw [bind_walk, done]

@[simp] theorem map_walk (put : α → β) (step : Walk α) (cursor : Cursor) :
    (put <$> step) cursor = match step cursor with
      | .ok value later => .ok (put value) later
      | .error halt later => .error halt later := by
  rw [map_eq_pure_bind, bind_walk]
  cases step cursor <;> rfl

@[simp] theorem ahead_walk (distance : Nat) (cursor : Cursor) : ahead distance cursor = .ok (cursor.peek? distance) cursor := rfl

@[simp] theorem place_walk (cursor : Cursor) : place cursor = .ok cursor.position cursor := rfl

theorem peek_rest (cursor : Cursor) (distance : Nat) : cursor.peek? distance = cursor.rest[distance]? := by
  have index : (cursor.position : Int) + distance = .ofNat (cursor.position + distance) := rfl
  rw [Cursor.peek?, index]
  simp [Cursor.rest]

theorem advance_cons (cursor : Cursor) (c : Char) (rest : List Char) (front : cursor.rest = c :: rest) :
    advance cursor = .ok c (cursor.advance 1) := by
  simp [advance, Cursor.next, front]

theorem advance_shrinks (cursor later : Cursor) (c : Char) (taken : advance cursor = .ok c later) :
    later.rest.length < cursor.rest.length := by
  cases front : cursor.rest with
  | nil => simp [advance, Cursor.next, front] at taken
  | cons d rest =>
      rw [advance_cons cursor d rest front] at taken
      cases taken
      have shorter : (cursor.advance 1).rest = cursor.rest.drop 1 := by simp [Cursor.advance, Cursor.rest]
      simp [shorter, front]

-- Every turn takes one character, which joins those taken before.
def advanceWhile (test : Char → Bool) (text : List Char) (cursor : Cursor) : EStateM.Result Halt Cursor (List Char) :=
  if (cursor.peek? 0).any test then
    match _taken : advance cursor with
    | .ok c later => advanceWhile test (text ++ [c]) later
    | .error halt later => .error halt later
  else .ok text cursor
termination_by cursor.rest.length
decreasing_by exact advance_shrinks cursor later c _taken

theorem advance_while (test : Char → Bool) (text : List Char) (cursor : Cursor) :
    advanceWhile test text cursor =
      .ok (text ++ cursor.rest.takeWhile test) (cursor.advance (cursor.rest.takeWhile test).length) := by
  rw [advanceWhile, ← Nat.cast_zero, peek_rest]
  cases front : cursor.rest with
  | nil => simp [advance_zero]
  | cons c rest =>
      by_cases passes : test c = true
      · have shorter := advance_shrinks cursor (cursor.advance 1) c (advance_cons cursor c rest front)
        have tail : (cursor.advance 1).rest = rest := by simp [rest_advance, front]
        rw [if_pos (by simpa using passes)]
        -- The character in front was seen, so advancing over it cannot fail.
        split
        · rename_i d later taken
          rw [advance_cons cursor c rest front] at taken
          cases taken
          rw [advance_while test (text ++ [c]) (cursor.advance 1), tail, List.takeWhile_cons_of_pos passes,
            List.append_assoc, advance_advance, List.length_cons, Nat.add_comm 1]
          rfl
        · rename_i failed
          rw [advance_cons cursor c rest front] at failed
          cases failed
      · simp [passes, advance_zero]
termination_by cursor.rest.length

def answered (answer : Except SyntaxError α × Cursor) : EStateM.Result Halt Cursor α :=
  match answer with
  | (.ok value, later) => .ok value later
  | (.error error, later) => .error (.violation error) later

@[simp] theorem peek_front (cursor : Cursor) : cursor.peek? 0 = cursor.rest.head? := by
  rw [← Nat.cast_zero, peek_rest, List.head?_eq_getElem?]

theorem skipped_line (cursor later : Cursor) (line : List Char) (front : cursor.peek? 0 = some commentMark)
    (skipped : advanceWhile (· ≠ '\n') [] cursor = .ok line later) : later.rest.length < cursor.rest.length := by
  rw [peek_front] at front
  rw [advance_while] at skipped
  cases skipped
  cases source : cursor.rest with
  | nil => simp [source] at front
  | cons c rest =>
      have mark : c = commentMark := by simpa [source] using front
      subst mark
      rw [rest_advance, source, List.takeWhile_cons_of_pos (by decide)]
      simp only [List.length_drop, List.length_cons]
      omega

def skipGap (cursor : Cursor) : EStateM.Result Halt Cursor Unit :=
  match _front : cursor.peek? 0 with
  | none => .ok () cursor
  | some c =>
      if isBlank c then
        match _taken : advance cursor with
        | .ok _ later => skipGap later
        | .error halt later => .error halt later
      else if _mark : c = commentMark then
        match _skipped : advanceWhile (· ≠ '\n') [] cursor with
        | .ok _ later => skipGap later
        | .error halt later => .error halt later
      else .ok () cursor
termination_by cursor.rest.length
decreasing_by
  · exact advance_shrinks cursor later _ _taken
  · exact skipped_line cursor later _ (_mark ▸ _front) _skipped

theorem drop_take_while (test : Char → Bool) (source : List Char) :
    source.drop (source.takeWhile test).length = source.dropWhile test := by
  calc source.drop (source.takeWhile test).length
      = (source.takeWhile test ++ source.dropWhile test).drop (source.takeWhile test).length := by
        rw [List.takeWhile_append_dropWhile]
    _ = source.dropWhile test := List.drop_left

theorem skip_gap (cursor : Cursor) : skipGap cursor = .ok () (cursor.advance (gapLength false cursor.rest)) := by
  rw [skipGap]
  split
  · rename_i ended
    rw [peek_front, List.head?_eq_none_iff] at ended
    rw [ended]
    rfl
  · rename_i c front
    rw [peek_front] at front
    obtain ⟨rest, source⟩ := List.head?_eq_some_iff.mp front
    have shorter := advance_shrinks cursor _ c (advance_cons cursor c rest source)
    by_cases blank : isBlank c = true
    · rw [if_pos blank]
      split
      · rename_i d later taken
        rw [advance_cons cursor c rest source] at taken
        cases taken
        have tail : (cursor.advance 1).rest = rest := by simp [rest_advance, source]
        rw [skip_gap (cursor.advance 1), advance_advance, tail, source, gapLength, if_pos blank, Nat.add_comm 1]
      · rename_i failed
        rw [advance_cons cursor c rest source] at failed
        cases failed
    · rw [if_neg blank]
      by_cases mark : c = commentMark
      · rw [dif_pos mark]
        split
        · rename_i line later skipped
          have rest_shorter := skipped_line cursor later line (by rw [peek_front, front, mark]) skipped
          rw [skip_gap later]
          rw [advance_while] at skipped
          cases skipped
          subst mark
          -- The line goes with its mark, and the gap goes on behind it.
          have line : (commentMark :: rest).takeWhile (fun c => decide (c ≠ '\n')) =
              commentMark :: rest.takeWhile fun c => decide (c ≠ '\n') := List.takeWhile_cons_of_pos (by decide)
          rw [advance_advance, rest_advance, source, gap_length_mark, gap_length_comment, line, List.length_cons,
            List.drop_succ_cons, drop_take_while, Nat.add_right_comm]
        · rename_i failed
          rw [advance_while] at failed
          cases failed
      · rw [dif_neg mark, source, gapLength, if_neg blank, if_neg mark]
        rfl
termination_by cursor.rest.length

theorem peek_second (cursor : Cursor) (c : Char) (rest : List Char) (source : cursor.rest = c :: rest) :
    cursor.peek? 1 = rest.head? := by
  rw [← Nat.cast_one, peek_rest, source, List.head?_eq_getElem?, List.getElem?_cons_succ]

def sign : Walk (List Char) := do
  if (← ahead 0) = some '-' then return [← advance] else return []

def fraction : Walk (List Char) := do
  if (← ahead 0) = some '.' ∧ (← ahead 1).any Char.isDigit then advanceWhile Char.isDigit [← advance]
  else return []

def number : Walk Token := do
  let start ← place
  let whole ← advanceWhile Char.isDigit (← sign)
  let fraction ← fraction
  let category := if fraction.isEmpty then .integerLiteral else .fractionalLiteral
  return ⟨category, String.ofList (whole ++ fraction), start⟩

@[simp] theorem sign_walk (cursor : Cursor) :
    sign cursor = .ok (Lexeme.sign cursor.rest) (cursor.advance (Lexeme.sign cursor.rest).length) := by
  cases source : cursor.rest with
  | nil => simp [sign, source, Lexeme.sign]
  | cons c rest =>
      by_cases minus : c = '-'
      · subst minus
        simp [sign, source, Lexeme.sign, advance_cons cursor _ rest]
      · simp [sign, source, Lexeme.sign, minus]

@[simp] theorem fraction_walk (cursor : Cursor) :
    fraction cursor = .ok (Lexeme.fraction cursor.rest) (cursor.advance (Lexeme.fraction cursor.rest).length) := by
  cases source : cursor.rest with
  | nil => simp [fraction, source, Lexeme.fraction]
  | cons c rest =>
      have second := peek_second cursor c rest source
      by_cases point : c = '.'
      · subst point
        have taken := advance_cons cursor '.' rest source
        by_cases digit : rest.head?.any Char.isDigit = true
        · have walked : fraction cursor = (advance >>= fun point => advanceWhile Char.isDigit [point]) cursor := by
            simp [fraction, source, second, digit]
          refine walked.trans ((bind_of_ok advance _ cursor _ '.' taken).trans ?_)
          simp [advance_while, source, digit, Lexeme.fraction, Nat.add_comm 1]
        · simp [fraction, source, second, digit, Lexeme.fraction]
      · simp [fraction, source, point, Lexeme.fraction]

theorem number_walk (cursor : Cursor) : number cursor = .ok cursor.number.1 cursor.number.2 := by
  -- An empty fraction is none, and then the literal is an integer.
  have whole := advance_while Char.isDigit (Lexeme.sign cursor.rest) (cursor.advance (Lexeme.sign cursor.rest).length)
  rw [rest_advance, advance_advance] at whole
  rw [number, bind_of_ok _ _ _ _ _ (place_walk cursor), bind_of_ok _ _ _ _ _ (sign_walk cursor),
    bind_of_ok _ _ _ _ _ whole, bind_of_ok _ _ _ _ _ (fraction_walk _)]
  simp only [rest_advance, advance_advance, pure_walk, Cursor.number, Lexeme.numberIn, Lexeme.token, Lexeme.category,
    Lexeme.value, Lexeme.text, List.length_append]
  cases Lexeme.fraction (cursor.rest.drop _) <;> rfl

def frontToken : Walk (Option Token) := do
  match ← ahead 0 with
  | none => return none
  | some c =>
      let start ← place
      if isWordStart c then return some ((Lexeme.word (← advanceWhile isWordPart [])).token start)
      else if c.isDigit || (c == '-' && (← ahead 1).any Char.isDigit) then return some (← number)
      else if c ∈ Vocabulary.separators then return some ((Lexeme.separator (← advance)).token start)
      else throw (.violation ⟨.validCharacter, start, String.singleton c⟩)

def nextToken : Walk (Option Token) := do
  skipGap
  frontToken

theorem front_token_end (cursor : Cursor) (ended : cursor.rest = []) : frontToken cursor = .ok none cursor := by
  have seen : ahead 0 cursor = .ok none cursor := by simp [ended]
  rw [frontToken, bind_of_ok _ _ _ _ _ seen]
  rfl

theorem front_token_walk (cursor : Cursor) (c : Char) (rest : List Char) (source : cursor.rest = c :: rest) :
    frontToken cursor = match Lexeme.front? (c :: rest) with
      | some lexeme => .ok (some (lexeme.token cursor.position)) (cursor.advance lexeme.text.length)
      | none => .error (.violation ⟨.validCharacter, cursor.position, String.singleton c⟩) cursor := by
  have first : ahead 0 cursor = .ok (some c) cursor := by simp [source]
  have second : ahead 1 cursor = .ok rest.head? cursor := by simp [peek_second cursor c rest source]
  rw [frontToken, bind_of_ok _ _ _ _ _ first]
  dsimp only
  -- From here on the walk and the reading of the front ask the same questions in the same order.
  rw [bind_of_ok _ _ _ _ _ (place_walk cursor), Lexeme.front?, Lexeme.starts_number_cons]
  by_cases word : isWordStart c = true
  · rw [if_pos word, if_pos word, bind_of_ok _ _ _ _ _ (advance_while isWordPart [] cursor), source]
    rfl
  · rw [if_neg word, if_neg word, bind_of_ok _ _ _ _ _ second]
    by_cases digit : (c.isDigit || (c == '-' && rest.head?.any Char.isDigit)) = true
    · rw [if_pos digit, if_pos digit, bind_of_ok _ _ _ _ _ (number_walk cursor), Cursor.number, source]
      rfl
    · rw [if_neg digit, if_neg digit]
      by_cases mark : c ∈ Vocabulary.separators
      · rw [if_pos mark, if_pos mark, bind_of_ok _ _ _ _ _ (advance_cons cursor c rest source)]
        rfl
      · rw [if_neg mark, if_neg mark]
        rfl

theorem next_token_walk (cursor : Cursor) : nextToken cursor = answered cursor.nextToken := by
  have behind := rest_advance cursor (gapLength false cursor.rest)
  rw [nextToken, bind_of_ok _ _ _ _ _ (skip_gap cursor), Cursor.nextToken, front]
  cases source : cursor.rest.drop (gapLength false cursor.rest) with
  | nil =>
      rw [front_token_end _ (behind.trans source)]
      rfl
  | cons c rest =>
      rw [front_token_walk _ c rest (behind.trans source)]
      cases read : Lexeme.front? (c :: rest) with
      | none =>
          simp only [read]
          rfl
      | some lexeme =>
          simp only [read, advance_advance]
          rfl

theorem token_shrinks (cursor later : Cursor) (token : Token) (read : nextToken cursor = .ok (some token) later) :
    later.rest.length < cursor.rest.length := by
  rw [next_token_walk, Cursor.nextToken] at read
  cases found : front cursor.rest with
  | finish gap =>
      rw [found] at read
      cases read
  | invalid gap c =>
      rw [found] at read
      cases read
  | lexeme gap lexeme =>
      rw [found] at read
      cases read
      rw [rest_advance]
      exact front_shrinks _ gap lexeme found

def tokens (cursor : Cursor) : EStateM.Result Halt Cursor (List Token) :=
  match _read : nextToken cursor with
  | .ok none later => .ok [] later
  | .ok (some token) later =>
      match tokens later with
      | .ok rest last => .ok (token :: rest) last
      | .error halt last => .error halt last
  | .error halt later => .error halt later
termination_by cursor.rest.length
decreasing_by exact token_shrinks cursor later token _read

theorem tokens_walk (cursor : Cursor) : tokens cursor = answered cursor.tokens := by
  -- Walk and scan take the same token first, and then both go on behind it.
  have token := next_token_walk cursor
  rw [Cursor.nextToken] at token
  rw [tokens, Cursor.tokens]
  cases found : front cursor.rest with
  | finish gap =>
      rw [found] at token
      rw [scan_finish _ _ _ found]
      split <;> rename_i read <;> rw [token] at read <;> cases read
      rfl
  | invalid gap c =>
      rw [found] at token
      rw [scan_invalid _ _ _ _ found]
      split <;> rename_i read <;> rw [token] at read <;> cases read
      rfl
  | lexeme gap lexeme =>
      rw [found] at token
      rw [scan_lexeme _ _ _ _ found]
      split <;> rename_i read <;> rw [token] at read <;> cases read
      have shorter := token_shrinks cursor _ _ token
      rw [tokens_walk (cursor.advance (gap + lexeme.text.length)), Cursor.tokens, rest_advance, prepend]
      have position : (cursor.advance (gap + lexeme.text.length)).position =
          cursor.position + (gap + lexeme.text.length) := rfl
      rw [position]
      cases scan (cursor.position + (gap + lexeme.text.length)) (cursor.rest.drop (gap + lexeme.text.length)) with
      | mk rest stop => cases rest <;> rfl
termination_by cursor.rest.length
decreasing_by exact shorter

end Walk

theorem tokenize_walked (source : String) : (∃ tokens later, Walk.tokens ⟨source.toList, 0⟩ = .ok tokens later ∧
      tokenize source = .ok tokens) ∨
    ∃ error later, Walk.tokens ⟨source.toList, 0⟩ = .error (.violation error) later ∧ tokenize source = .error error := by
  have walked := Walk.tokens_walk ⟨source.toList, 0⟩
  have whole : (Cursor.mk source.toList 0).rest = source.toList := rfl
  rw [Cursor.tokens, whole] at walked
  rw [tokenize, walked]
  cases scan 0 source.toList with
  | mk found stop =>
      cases found with
      | ok tokens => exact .inl ⟨tokens, _, rfl, rfl⟩
      | error error => exact .inr ⟨error, _, rfl, rfl⟩

end Straightedge
