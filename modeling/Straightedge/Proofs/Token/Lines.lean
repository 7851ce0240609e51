import Straightedge.Proofs.Token.Split

namespace Straightedge

open Text

def Token.raised (distance : Nat) (token : Token) : Token := { token with offset := distance + token.offset }

def SyntaxError.raised (distance : Nat) (error : SyntaxError) : SyntaxError :=
  { error with offset := distance + error.offset }

def raise (distance : Nat) (result : Except SyntaxError (List Token) × Nat) : Except SyntaxError (List Token) × Nat :=
  ((result.1.map (List.map (Token.raised distance))).mapError (SyntaxError.raised distance), distance + result.2)

theorem prepend_raised (distance : Nat) (tokens : List Token) (result : Except SyntaxError (List Token) × Nat) :
    prepend (tokens.map (Token.raised distance)) (raise distance result) = raise distance (prepend tokens result) := by
  obtain ⟨found, stop⟩ := result
  cases found with
  | error error => rfl
  | ok rest => simp [prepend, raise, Except.map, Except.mapError]

theorem lexeme_raised (lexeme : Lexeme) (distance offset : Nat) :
    lexeme.token (distance + offset) = (lexeme.token offset).raised distance := by
  simp [Lexeme.token, Token.raised]

theorem scan_raised (distance offset : Nat) (source : List Char) :
    scan (distance + offset) source = raise distance (scan offset source) := by
  cases found : front source with
  | finish gap =>
      rw [scan_finish _ _ _ found, scan_finish _ _ _ found, Nat.add_assoc]
      rfl
  | invalid gap c =>
      rw [scan_invalid _ _ _ _ found, scan_invalid _ _ _ _ found, Nat.add_assoc]
      simp [raise, Except.map, Except.mapError, SyntaxError.raised]
  | lexeme gap lexeme =>
      have shorter := front_shrinks source gap lexeme found
      have tail := scan_raised distance (offset + (gap + lexeme.text.length)) (source.drop (gap + lexeme.text.length))
      rw [scan_lexeme _ _ _ _ found, scan_lexeme _ _ _ _ found, Nat.add_assoc, Nat.add_assoc, tail, lexeme_raised,
        ← prepend_raised]
      rfl
termination_by source.length
decreasing_by exact shorter

theorem head_of_line (P : Char → Prop) (ends : P '\n') (text more : List Char) (first : ∀ c ∈ text.head?, P c) :
    ∀ c ∈ (text ++ '\n' :: more).head?, P c := by
  cases text with
  | nil =>
      rintro c ⟨⟩
      exact ends
  | cons c rest => exact first

theorem gap_in_line (gap rest more : List Char) (isGap : Gap gap rest) : Gap gap (rest ++ '\n' :: more) := by
  induction isGap with
  | empty rest => exact .empty _
  | blank c gap rest blank _ ih => exact .blank c gap _ blank ih
  | comment body gap rest inLine ends _ ih =>
      -- A comment that went on to the end of the text now goes on to the line end.
      refine .comment body gap _ inLine ?_ ih
      rw [← List.append_assoc]
      exact head_of_line (· = '\n') rfl _ more ends

theorem stands_in_line (text rest more : List Char) (category : Category) (value : String)
    (stands : Stands text rest category value) : Stands text (rest ++ '\n' :: more) category value := by
  cases stands with
  | reserved _ _ _ isWord ends known =>
      exact .reserved text _ category isWord (head_of_line (isWordPart · = false) (by decide) rest more ends) known
  | name _ _ isWord ends free =>
      exact .name text _ isWord (head_of_line (isWordPart · = false) (by decide) rest more ends) free
  | integer _ _ form ends noFraction =>
      refine .integer text _ form (head_of_line (Char.isDigit · = false) (by decide) rest more ends) fun c tail same => ?_
      -- Behind a point at the end of the line stands the line end, which is no digit.
      match rest with
      | [] => cases same
      | [_] =>
          cases same
          decide
      | _ :: _ :: later =>
          cases same
          exact noFraction c later rfl
  | fractional _ _ form ends =>
      exact .fractional text _ form (head_of_line (Char.isDigit · = false) (by decide) rest more ends)
  | separator c _ mark => exact .separator c _ mark

theorem splits_in_line (offset : Nat) (text rest more : List Char) (tokens : List Token)
    (splits : Splits offset text rest tokens) : Splits offset text (rest ++ '\n' :: more) tokens := by
  induction splits with
  | finish offset gap rest isGap => exact .finish offset gap _ (gap_in_line gap rest more isGap)
  | lexeme offset gap text later rest category value tokens isGap stands _ ih =>
      have isGap := gap_in_line _ _ more isGap
      have stands := stands_in_line _ _ more _ _ stands
      rw [List.append_assoc] at stands
      rw [List.append_assoc, List.append_assoc] at isGap
      exact .lexeme offset gap text later _ category value tokens isGap stands ih

theorem front_in_line (c : Char) (rest more : List Char) (unread : Lexeme.front? (c :: rest) = none) :
    Lexeme.front? (c :: (rest ++ '\n' :: more)) = none := by
  have number : Lexeme.startsNumber (c :: (rest ++ '\n' :: more)) = Lexeme.startsNumber (c :: rest) := by
    rw [Lexeme.starts_number_cons, Lexeme.starts_number_cons]
    cases rest <;> rfl
  rw [Lexeme.front?] at unread ⊢
  rw [number]
  by_cases word : isWordStart c = true
  · rw [if_pos word] at unread
    cases unread
  · rw [if_neg word] at unread ⊢
    by_cases digit : Lexeme.startsNumber (c :: rest) = true
    · rw [if_pos digit] at unread
      cases unread
    · rwa [if_neg digit] at unread ⊢

theorem stuck_in_line (c : Char) (rest more : List Char) (stuck : Stuck c rest) : Stuck c (rest ++ '\n' :: more) := by
  have noGap : gapLength false (c :: (rest ++ '\n' :: more)) = 0 := gap_length_none c _ stuck.noBlank stuck.noComment
  exact stuck_of_front c _ noGap (front_in_line c rest more (stuck_unread c rest stuck))

theorem scan_behind_line (offset : Nat) (more : List Char) :
    scan offset ('\n' :: more) = raise (offset + 1) (scan 0 more) := by
  rw [← scan_raised]
  exact scan_gap offset ['\n'] more (.blank '\n' [] more is_blank_newline (.empty more))

/-- A source is split line by line, whatever its lines end with. -/
theorem tokenize_line_by_line (first second : String) : tokenize (first ++ "\n" ++ second) =
    match tokenize first, tokenize second with
    | .error error, _ => .error error
    | .ok _, .error error => .error (error.raised (first.length + 1))
    | .ok before, .ok after => .ok (before ++ after.map (Token.raised (first.length + 1))) := by
  have whole : (first ++ "\n" ++ second).toList = first.toList ++ '\n' :: second.toList := by simp
  rcases splits_or_stuck 0 first.toList with ⟨tokens, splits⟩ | ⟨before, c, after, tokens, split, splits, stuck⟩
  · have alone := splits_accepted first tokens splits
    have scanned := splits_scan 0 _ _ _ (splits_in_line 0 _ _ second.toList _ splits)
    rw [List.nil_append, scan_behind_line, Nat.zero_add, String.length_toList, ← whole] at scanned
    rw [tokenize, scanned, alone, tokenize]
    cases scan 0 second.toList with
    | mk found stop => cases found <;> rfl
  · have alone := stuck_refused first before c after tokens split splits stuck
    rw [split, List.append_assoc, List.cons_append] at whole
    rw [alone]
    exact stuck_refused _ before c _ tokens whole (splits_in_line 0 _ _ second.toList _ splits)
      (stuck_in_line c after second.toList stuck)

-- Without the line end this would be one number.
example : tokenize ("1." ++ "\n" ++ "5") = .ok [⟨.integerLiteral, "1", 0⟩, ⟨.separator, ".", 1⟩, ⟨.integerLiteral, "5", 3⟩] := by
  decide +kernel

end Straightedge
