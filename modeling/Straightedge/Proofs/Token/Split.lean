import Straightedge.Proofs.Token.Gap
import Straightedge.Proofs.Token.Name
import Straightedge.Token.Cursor

namespace Straightedge

open Text

-- A lexeme in front of a text, with the category and the value of its token. Separators start neither a
-- word nor a number.
inductive Stands : List Char → List Char → Category → String → Prop where
  | reserved (word rest : List Char) (category : Category) (isWord : Lexeme.IsWord word)
      (ends : ∀ c ∈ rest.head?, isWordPart c = false)
      (known : Vocabulary.reserved? (String.ofList (capitals word)) = some category) :
      Stands word rest category (String.ofList (capitals word))
  | name (word rest : List Char) (isWord : Lexeme.IsWord word) (ends : ∀ c ∈ rest.head?, isWordPart c = false)
      (free : Vocabulary.reserved? (String.ofList (capitals word)) = none) :
      Stands word rest .identifier (String.ofList word)
  | integer (text rest : List Char) (form : NumberForm text false) (ends : ∀ c ∈ rest.head?, c.isDigit = false)
      (noFraction : ∀ c tail, rest = '.' :: c :: tail → c.isDigit = false) :
      Stands text rest .integerLiteral (String.ofList text)
  | fractional (text rest : List Char) (form : NumberForm text true) (ends : ∀ c ∈ rest.head?, c.isDigit = false) :
      Stands text rest .fractionalLiteral (String.ofList text)
  | separator (c : Char) (rest : List Char) (mark : c ∈ Vocabulary.separators) :
      Stands [c] rest .separator (String.singleton c)

-- A text from an offset on, what stands behind it, and its tokens.
inductive Splits : Nat → List Char → List Char → List Token → Prop where
  | finish (offset : Nat) (gap rest : List Char) (isGap : Gap gap rest) : Splits offset gap rest []
  | lexeme (offset : Nat) (gap text later rest : List Char) (category : Category) (value : String)
      (tokens : List Token) (isGap : Gap gap (text ++ (later ++ rest))) (stands : Stands text (later ++ rest) category value)
      (tail : Splits (offset + (gap.length + text.length)) later rest tokens) :
      Splits offset (gap ++ (text ++ later)) rest (⟨category, value, (offset + gap.length : Nat)⟩ :: tokens)

-- Neither a gap nor a lexeme begins with the character.
structure Stuck (c : Char) (rest : List Char) : Prop where
  noBlank : isBlank c = false
  noComment : c ≠ commentMark
  noLexeme : ∀ text later category value, c :: rest = text ++ later → ¬Stands text later category value

theorem fraction_none (rest : List Char) (noFraction : ∀ c tail, rest = '.' :: c :: tail → c.isDigit = false) :
    Lexeme.fraction rest = [] := by
  rw [Lexeme.fraction.eq_def]
  split
  · rename_i tail
    cases tail with
    | nil => rfl
    | cons c tail =>
        have noDigit := noFraction c tail rfl
        simp [noDigit]
  · rfl

theorem stands_front (text rest : List Char) (category : Category) (value : String)
    (stands : Stands text rest category value) : ∃ lexeme, Lexeme.front? (text ++ rest) = some lexeme ∧
      lexeme.text = text ∧ ∀ offset, lexeme.token offset = ⟨category, value, offset⟩ := by
  cases stands with
  | reserved _ _ _ isWord ends known =>
      refine ⟨.word text, Lexeme.front_word text rest isWord ends, rfl, fun offset => ?_⟩
      simp [Lexeme.token, Lexeme.category, Lexeme.value, Lexeme.reserved?, known]
  | name _ _ isWord ends free =>
      refine ⟨.word text, Lexeme.front_word text rest isWord ends, rfl, fun offset => ?_⟩
      simp [Lexeme.token, Lexeme.category, Lexeme.value, Lexeme.reserved?, free]
  | integer _ _ form ends noFraction =>
      exact ⟨.number text false, Lexeme.front_number text rest false form ends fun _ => fraction_none rest noFraction,
        rfl, fun _ => rfl⟩
  | fractional _ _ form ends =>
      exact ⟨.number text true, Lexeme.front_number text rest true form ends fun impossible => (by cases impossible),
        rfl, fun _ => rfl⟩
  | separator c _ mark => exact ⟨.separator c, Lexeme.front_separator c rest mark, rfl, fun _ => rfl⟩

theorem next_token_stands (cursor : Cursor) (gap text later : List Char) (category : Category) (value : String)
    (ahead : cursor.rest = gap ++ (text ++ later)) (isGap : Gap gap (text ++ later))
    (stands : Stands text later category value) : cursor.nextToken =
      (.ok (some ⟨category, value, (cursor.position + gap.length : Nat)⟩), cursor.advance (gap ++ text).length) := by
  obtain ⟨lexeme, found, rfl, token⟩ := stands_front text later category value stands
  rw [Cursor.nextToken, ahead, front_gap _ _ isGap, front_of_lexeme _ lexeme found]
  dsimp only
  rw [token, Nat.add_zero, List.length_append]

theorem take_while_stops (test : Char → Bool) (source : List Char) :
    ∀ c ∈ (source.dropWhile test).head?, test c = false := by
  intro c head
  have stops := List.head?_dropWhile_not test source
  rw [Option.mem_def.mp head] at stops
  simpa using stops

theorem word_stands (c : Char) (rest : List Char) (starts : isWordStart c = true) :
    let word := (c :: rest).takeWhile isWordPart
    Stands word ((c :: rest).dropWhile isWordPart) (Lexeme.word word).category (Lexeme.word word).value := by
  intro word
  have read : Lexeme.front? (c :: rest) = some (.word word) := by rw [Lexeme.front?, if_pos starts]
  have isWord := word_of_front _ _ read
  have ends := take_while_stops isWordPart (c :: rest)
  cases known : Lexeme.reserved? word with
  | some category =>
      simp only [Lexeme.category, Lexeme.value, known, Option.getD_some, Option.isSome_some, if_true]
      exact .reserved word _ category isWord ends known
  | none =>
      simp only [Lexeme.category, Lexeme.value, known, Option.getD_none, Option.isSome_none, Bool.false_eq_true, if_false]
      exact .name word _ isWord ends known

theorem digits_split (c : Char) (rest : List Char) (digit : c.isDigit = true) : ∃ digits later,
    c :: rest = digits ++ later ∧ Numeral.Digits digits ∧ digits ≠ [] ∧ ∀ d ∈ later.head?, d.isDigit = false := by
  refine ⟨(c :: rest).takeWhile Char.isDigit, (c :: rest).dropWhile Char.isDigit,
    List.takeWhile_append_dropWhile.symm, fun d inside => List.mem_takeWhile_imp inside, ?_, take_while_stops _ _⟩
  rw [List.takeWhile_cons_of_pos digit]
  exact List.cons_ne_nil _ _

theorem number_split (source : List Char) (starts : Lexeme.startsNumber source = true) :
    ∃ negative digits later, source = Layout.signed negative digits ++ later ∧ Numeral.Digits digits ∧ digits ≠ [] ∧
      ∀ d ∈ later.head?, d.isDigit = false := by
  match source with
  | [] => cases starts
  | c :: rest =>
      by_cases minus : c = '-'
      · subst minus
        cases rest with
        | nil => cases starts
        | cons d rest =>
            have digit : d.isDigit = true := by simpa [Lexeme.startsNumber] using starts
            obtain ⟨digits, later, split, all, filled, ends⟩ := digits_split d rest digit
            exact ⟨true, digits, later, congrArg ('-' :: ·) split, all, filled, ends⟩
      · have digit : c.isDigit = true := by simpa [Lexeme.startsNumber, minus] using starts
        obtain ⟨digits, later, split, all, filled, ends⟩ := digits_split c rest digit
        exact ⟨false, digits, later, split, all, filled, ends⟩

theorem fraction_split (rest : List Char) : (∀ c tail, rest = '.' :: c :: tail → c.isDigit = false) ∨
    ∃ digits later, rest = '.' :: (digits ++ later) ∧ Numeral.Digits digits ∧ digits ≠ [] ∧
      ∀ d ∈ later.head?, d.isDigit = false := by
  by_cases begins : ∃ c tail, rest = '.' :: c :: tail ∧ c.isDigit = true
  · obtain ⟨c, tail, rfl, digit⟩ := begins
    obtain ⟨digits, later, split, all, filled, ends⟩ := digits_split c tail digit
    exact .inr ⟨digits, later, congrArg ('.' :: ·) split, all, filled, ends⟩
  · -- Without a digit behind it the point is left over, to be read as a separator.
    refine .inl fun c tail same => ?_
    by_contra digit
    exact begins ⟨c, tail, same, by simpa using digit⟩

theorem number_stands (source : List Char) (starts : Lexeme.startsNumber source = true) : ∃ later,
    source = (Lexeme.numberIn source).text ++ later ∧
      Stands (Lexeme.numberIn source).text later (Lexeme.numberIn source).category (Lexeme.numberIn source).value := by
  obtain ⟨negative, whole, rest, rfl, all, filled, ends⟩ := number_split source starts
  have read := Lexeme.number_in_signed negative whole rest all filled ends
  -- The whole part is read. What stands behind it says which of the two literals this is.
  rcases fraction_split rest with noFraction | ⟨digits, later, rfl, fractionDigits, fractionFilled, fractionEnds⟩
  · rw [fraction_none rest noFraction, List.append_nil] at read
    rw [read]
    exact ⟨rest, rfl, .integer _ rest (.integer negative whole all filled) ends noFraction⟩
  · rw [Lexeme.fraction_digits digits later fractionDigits fractionFilled fractionEnds] at read
    have shape : Layout.signed negative whole ++ '.' :: digits = Layout.signed negative (whole ++ '.' :: digits) := by
      cases negative <;> rfl
    rw [read, shape]
    refine ⟨later, ?_, .fractional _ later (.fractional negative whole digits all filled fractionDigits fractionFilled)
      fractionEnds⟩
    show _ = Layout.signed negative (whole ++ '.' :: digits) ++ later
    rw [← shape, List.append_assoc]
    rfl

theorem front_stands (source : List Char) (lexeme : Lexeme) (read : Lexeme.front? source = some lexeme) :
    ∃ later, source = lexeme.text ++ later ∧ Stands lexeme.text later lexeme.category lexeme.value := by
  cases source with
  | nil => cases read
  | cons c rest =>
      rw [Lexeme.front?] at read
      split at read
      · rename_i starts
        cases read
        exact ⟨(c :: rest).dropWhile isWordPart, List.takeWhile_append_dropWhile.symm, word_stands c rest starts⟩
      · split at read
        · rename_i starts
          cases read
          exact number_stands (c :: rest) starts
        · split at read
          · rename_i mark
            cases read
            exact ⟨rest, rfl, .separator c rest mark⟩
          · cases read

-- The scan follows the grammar, and the grammar covers every source up to a character that is stuck.

theorem splits_scan (offset : Nat) (text rest : List Char) (tokens : List Token)
    (splits : Splits offset text rest tokens) :
    scan offset (text ++ rest) = prepend tokens (scan (offset + text.length) rest) := by
  induction splits with
  | finish offset gap rest isGap => rw [prepend_nil, scan_gap offset gap rest isGap]
  | lexeme offset gap text later rest category value tokens isGap stands _ ih =>
      -- The gap is passed over, the lexeme is read, and the scan goes on behind it.
      obtain ⟨lexeme, read, rfl, token⟩ := stands_front text (later ++ rest) category value stands
      have first := scan_lexeme (offset + gap.length) 0 _ lexeme (front_of_lexeme _ _ read)
      rw [Nat.add_zero, Nat.zero_add, List.drop_left, Nat.add_assoc, ih, prepend_append, token] at first
      rw [List.append_assoc, List.append_assoc, scan_gap offset gap _ isGap, first]
      simp only [List.length_append, Nat.add_assoc, List.singleton_append]

theorem stuck_unread (c : Char) (rest : List Char) (stuck : Stuck c rest) : Lexeme.front? (c :: rest) = none := by
  -- Anything that was read here would be a lexeme that stands in front.
  cases read : Lexeme.front? (c :: rest) with
  | none => rfl
  | some lexeme =>
      obtain ⟨later, split, stands⟩ := front_stands _ lexeme read
      exact absurd stands (stuck.noLexeme _ _ _ _ split)

theorem stuck_no_gap (c : Char) (rest : List Char) (stuck : Stuck c rest) : gapLength false (c :: rest) = 0 :=
  gap_length_none c rest stuck.noBlank stuck.noComment

theorem front_stuck (c : Char) (rest : List Char) (stuck : Stuck c rest) : front (c :: rest) = .invalid 0 c := by
  simp only [front, stuck_no_gap c rest stuck, List.drop_zero, stuck_unread c rest stuck]

theorem scan_stuck (offset : Nat) (c : Char) (rest : List Char) (stuck : Stuck c rest) :
    scan offset (c :: rest) = (.error ⟨.validCharacter, offset, String.singleton c⟩, offset) := by
  rw [scan_invalid _ _ _ _ (front_stuck c rest stuck), Nat.add_zero]

theorem gap_length_behind (source : List Char) (c : Char) (rest : List Char)
    (behind : source.drop (gapLength false source) = c :: rest) : gapLength false (c :: rest) = 0 := by
  -- The source is measured as the gap in front and the gap behind it, and the first is already all of it.
  have measured := gap_length_gap _ _ (gap_of_length source)
  have inside := congrArg List.length behind
  rw [List.take_append_drop, behind, List.length_take] at measured
  rw [List.length_drop, List.length_cons] at inside
  omega

theorem stuck_of_front (c : Char) (rest : List Char) (noGap : gapLength false (c :: rest) = 0)
    (unread : Lexeme.front? (c :: rest) = none) : Stuck c rest := by
  rw [gapLength] at noGap
  split at noGap
  · cases noGap
  · rename_i noBlank
    split at noGap
    · cases noGap
    · rename_i noComment
      refine ⟨by simpa using noBlank, noComment, fun text later category value split stands => ?_⟩
      obtain ⟨lexeme, read, _⟩ := stands_front text later category value stands
      rw [← split, unread] at read
      cases read

theorem splits_or_stuck (offset : Nat) (source : List Char) : (∃ tokens, Splits offset source [] tokens) ∨
    ∃ before c after tokens, source = before ++ c :: after ∧ Splits offset before (c :: after) tokens ∧ Stuck c after := by
  -- The longest gap is taken off, then the source is at its end, is stuck, or begins with a lexeme.
  have isGap := gap_of_length source
  have whole : source.take (gapLength false source) ++ source.drop (gapLength false source) = source :=
    List.take_append_drop _ _
  cases behind : source.drop (gapLength false source) with
  | nil =>
      rw [behind, List.append_nil] at whole
      rw [whole, behind] at isGap
      exact .inl ⟨[], .finish offset source [] isGap⟩
  | cons c rest =>
      rw [behind] at isGap whole
      generalize source.take (gapLength false source) = gap at isGap whole
      cases read : Lexeme.front? (c :: rest) with
      | none =>
          exact .inr ⟨gap, c, rest, [], whole.symm, .finish offset gap (c :: rest) isGap,
            stuck_of_front c rest (gap_length_behind source c rest behind) read⟩
      | some lexeme =>
          obtain ⟨later, split, stands⟩ := front_stands _ lexeme read
          -- A lexeme is never empty, so a shorter source is left for the induction.
          have filled := List.length_pos_iff.mpr (Lexeme.front_ne_nil _ lexeme read)
          have shorter : later.length < source.length := by
            rw [← whole, split, List.length_append, List.length_append]
            omega
          rw [split] at isGap whole
          rcases splits_or_stuck (offset + (gap.length + lexeme.text.length)) later with
            ⟨tokens, tail⟩ | ⟨before, d, after, tokens, laterSplit, tail, stuck⟩
          · have first := Splits.lexeme offset gap lexeme.text later [] _ _ tokens
              (by rwa [List.append_nil]) (by rwa [List.append_nil]) tail
            rw [whole] at first
            exact .inl ⟨_, first⟩
          · rw [laterSplit] at isGap stands whole
            refine .inr ⟨gap ++ (lexeme.text ++ before), d, after, _, ?_, .lexeme offset gap lexeme.text before _ _ _ tokens
              isGap stands tail, stuck⟩
            rw [← whole, List.append_assoc, List.append_assoc]
termination_by source.length

theorem splits_accepted (source : String) (tokens : List Token) (splits : Splits 0 source.toList [] tokens) :
    tokenize source = .ok tokens := by
  have scanned := splits_scan 0 source.toList [] tokens splits
  rw [List.append_nil, scan_finish _ 0 [] rfl] at scanned
  rw [tokenize, scanned]
  exact congrArg Except.ok (List.append_nil tokens)

theorem stuck_refused (source : String) (before : List Char) (c : Char) (after : List Char) (tokens : List Token)
    (split : source.toList = before ++ c :: after) (splits : Splits 0 before (c :: after) tokens) (stuck : Stuck c after) :
    tokenize source = .error ⟨.validCharacter, before.length, String.singleton c⟩ := by
  rw [tokenize, split, splits_scan 0 before _ tokens splits, scan_stuck _ c after stuck, Nat.zero_add]
  rfl

-- Every source falls under one of the two, and the answer tells which.
theorem split_found (source : String) (tokens : List Token) (found : tokenize source = .ok tokens) :
    Splits 0 source.toList [] tokens := by
  rcases splits_or_stuck 0 source.toList with ⟨others, splits⟩ | ⟨before, c, after, others, split, splits, stuck⟩
  · rw [splits_accepted source others splits] at found
    cases found
    exact splits
  · rw [stuck_refused source before c after others split splits stuck] at found
    cases found

theorem stuck_found (source : String) (error : SyntaxError) (found : tokenize source = .error error) :
    ∃ before c after tokens, source.toList = before ++ c :: after ∧ Splits 0 before (c :: after) tokens ∧ Stuck c after ∧
      error = ⟨.validCharacter, before.length, String.singleton c⟩ := by
  rcases splits_or_stuck 0 source.toList with ⟨others, splits⟩ | ⟨before, c, after, others, split, splits, stuck⟩
  · rw [splits_accepted source others splits] at found
    cases found
  · rw [stuck_refused source before c after others split splits stuck] at found
    cases found
    exact ⟨before, c, after, others, split, splits, stuck, rfl⟩

/-- A source is split into tokens exactly if it is a row of gaps and lexemes with these tokens. Otherwise
the error shows the first character behind such a row that begins neither of them. -/
theorem tokenize_iff_splits (source : String) :
    (∀ tokens, tokenize source = .ok tokens ↔ Splits 0 source.toList [] tokens) ∧
      ∀ error, tokenize source = .error error ↔ ∃ before c after tokens,
        source.toList = before ++ c :: after ∧ Splits 0 before (c :: after) tokens ∧ Stuck c after ∧
          error = ⟨.validCharacter, before.length, String.singleton c⟩ := by
  constructor
  · intro tokens
    exact ⟨split_found source tokens, splits_accepted source tokens⟩
  · intro error
    constructor
    · exact stuck_found source error
    · rintro ⟨before, c, after, tokens, split, splits, stuck, rfl⟩
      exact stuck_refused source before c after tokens split splits stuck

end Straightedge
