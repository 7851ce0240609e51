import Mathlib.Algebra.Order.Field.Rat
import Mathlib.Data.Rat.Cast.Order
import Mathlib.Tactic.FieldSimp
import Mathlib.Tactic.Positivity
import Straightedge.Proofs.Parse.Point
import Straightedge.Proofs.Token.Split

namespace Straightedge

namespace Literal

def signedBy (negative : Bool) (magnitude : ℚ) : ℚ := if negative then -magnitude else magnitude

-- A literal of a source with the number that it denotes before anything is rounded.
inductive Exact : Category → String → ℚ → Prop where
  | integer (negative : Bool) (digits : List Char) (all : Numeral.Digits digits) (filled : digits ≠ []) :
      Exact .integerLiteral (String.ofList (Layout.signed negative digits)) (signedBy negative (Numeral.value digits))
  | fractional (negative : Bool) (whole fraction : List Char) (wholeDigits : Numeral.Digits whole)
      (wholeFilled : whole ≠ []) (fractionDigits : Numeral.Digits fraction) (fractionFilled : fraction ≠ []) :
      Exact .fractionalLiteral (String.ofList (Layout.signed negative (whole ++ '.' :: fraction)))
        (signedBy negative (Numeral.value whole + Numeral.value fraction / 10 ^ fraction.length))

-- An integer literal yields the integer that it denotes, a fractional one a real number.
inductive Yields : Category → ℚ → Number → Prop where
  | integer (n : Int) : Yields .integerLiteral n (.integer n)
  | real (q : ℚ) (value : Binary64) (finite : value.isFinite = true) : Yields .fractionalLiteral q (.real value)

theorem abs_signed_by (negative : Bool) (magnitude : ℚ) (positive : 0 ≤ magnitude) :
    |signedBy negative magnitude| = magnitude := by
  cases negative with
  | true => rw [signedBy, if_pos rfl, abs_neg, abs_of_nonneg positive]
  | false => rw [signedBy, if_neg Bool.false_ne_true, abs_of_nonneg positive]

theorem signed_by_cast (negative : Bool) (n : Nat) :
    signedBy negative n = ((if negative then -(n : Int) else n : Int) : ℚ) := by
  cases negative <;> simp [signedBy]

theorem range_end_cast : (Binary64.rangeEnd : ℚ) = 2 ^ 1024 - 2 ^ 970 := by
  rw [Binary64.rangeEnd, Nat.cast_sub (Nat.pow_le_pow_right (by decide) (by decide))]
  simp only [Nat.cast_pow, Nat.cast_ofNat]

theorem count_digits (negative : Bool) (digits : List Char) (all : Numeral.Digits digits) :
    (Layout.signed negative digits).countP Char.isDigit = digits.length := by
  have every : digits.countP Char.isDigit = digits.length := List.countP_eq_length.mpr all
  cases negative with
  | true => exact (List.countP_cons_of_neg (by decide)).trans every
  | false => exact every

theorem exact_form (category : Category) (text : String) (q : ℚ) (exact : Exact category text q) :
    ∃ fractional, NumberForm text.toList fractional ∧
      category = if fractional then Category.fractionalLiteral else .integerLiteral := by
  cases exact with
  | integer negative digits all filled =>
      rw [String.toList_ofList]
      exact ⟨false, .integer negative digits all filled, rfl⟩
  | fractional negative whole fraction wholeDigits wholeFilled fractionDigits fractionFilled =>
      rw [String.toList_ofList]
      exact ⟨true, .fractional negative whole fraction wholeDigits wholeFilled fractionDigits fractionFilled, rfl⟩

theorem form_exact (text : List Char) (fractional : Bool) (form : NumberForm text fractional) :
    ∃ q, Exact (if fractional then .fractionalLiteral else .integerLiteral) (String.ofList text) q := by
  cases form with
  | integer negative digits all filled => exact ⟨_, .integer negative digits all filled⟩
  | fractional negative whole fraction wholeDigits wholeFilled fractionDigits fractionFilled =>
      exact ⟨_, .fractional negative whole fraction wholeDigits wholeFilled fractionDigits fractionFilled⟩

theorem stands_exact (text later : List Char) (category : Category) (value : String)
    (stands : Stands text later category value)
    (numeric : category = .integerLiteral ∨ category = .fractionalLiteral) : ∃ q, Exact category value q := by
  cases stands with
  | reserved _ _ _ _ _ known =>
      -- a reserved word is a keyword or an operator
      rw [Vocabulary.reserved?] at known
      split at known
      · cases known
        simp at numeric
      · split at known <;> cases known
        simp at numeric
  | name => simp at numeric
  | integer _ _ form => exact form_exact text false form
  | fractional _ _ form => exact form_exact text true form
  | separator => simp at numeric

theorem lexed_exact (source : String) (tokens : List Token) (lexed : tokenize source = .ok tokens) (token : Token)
    (member : token ∈ tokens) (numeric : token.category = .integerLiteral ∨ token.category = .fractionalLiteral) :
    ∃ q, Exact token.category token.value q := by
  refine scan_tokens (fun token => token.category = .integerLiteral ∨ token.category = .fractionalLiteral →
    ∃ q, Exact token.category token.value q) ?_ 0 source.toList tokens lexed token member numeric
  intro source lexeme offset read
  obtain ⟨later, _, stands⟩ := front_stands source lexeme read
  exact stands_exact lexeme.text later lexeme.category lexeme.value stands

theorem exact_lexed (category : Category) (text : String) (q : ℚ) (exact : Exact category text q) :
    tokenize text = .ok [⟨category, text, 0⟩] := by
  obtain ⟨fractional, form, rfl⟩ := exact_form category text q exact
  have read := Lexeme.front_number text.toList [] fractional form (fun c none => by cases none) fun _ => rfl
  rw [List.append_nil] at read
  have whole : text.toList.drop (0 + (Lexeme.number text.toList fractional).text.length) = [] := by
    rw [Nat.zero_add]
    exact List.drop_length
  rw [tokenize, scan_lexeme 0 0 _ _ (front_of_lexeme _ _ read), whole, scan_finish _ 0 [] rfl]
  simp [prepend, Except.map, Lexeme.token, Lexeme.category, Lexeme.value, Lexeme.text]

end Literal

open Literal

theorem integer_token (negative : Bool) (digits : List Char) (all : Numeral.Digits digits) (filled : digits ≠ [])
    (offset : Int) :
    (⟨.integerLiteral, String.ofList (Layout.signed negative digits), offset⟩ : Token).number? =
      if Numeral.value digits < Binary64.rangeEnd ∧ digits.length ≤ Numeral.longest then
        some (.integer (if negative then -(Numeral.value digits : Int) else Numeral.value digits)) else none := by
  have magnitude : (if negative then -(Numeral.value digits : Int) else Numeral.value digits).natAbs =
      Numeral.value digits := by
    cases negative <;> simp
  rw [Token.number_filtered]
  dsimp only
  rw [integer_of_digits negative digits all filled]
  generalize (if negative then -(Numeral.value digits : Int) else Numeral.value digits) = n at magnitude ⊢
  have range := Number.integer_finite n
  rw [magnitude] at range
  by_cases short : digits.length ≤ Numeral.longest
  · by_cases inside : Numeral.value digits < Binary64.rangeEnd
    · rw [if_pos short, if_pos ⟨inside, short⟩, Option.map_some, Option.filter_some, if_pos (range.mpr inside)]
    · rw [if_pos short, if_neg (fun both => inside both.1), Option.map_some, Option.filter_some,
        if_neg (fun finite => inside (range.mp finite))]
  · rw [if_neg short, if_neg (fun both => short both.2)]
    rfl

theorem fractional_token (negative : Bool) (whole fraction : List Char) (wholeDigits : Numeral.Digits whole)
    (wholeFilled : whole ≠ []) (fractionDigits : Numeral.Digits fraction) (offset : Int) :
    ∃ value, (⟨.fractionalLiteral, String.ofList (Layout.signed negative (whole ++ '.' :: fraction)), offset⟩ :
        Token).number? = (some (Number.real value)).filter Number.isFinite ∧
      (value.isFinite = true ↔ Numeral.value (whole ++ fraction) < 10 ^ fraction.length * Binary64.rangeEnd) := by
  refine ⟨Binary64.ofDecimal negative (Numeral.value (whole ++ fraction)) (0 - fraction.length), ?_, ?_⟩
  · rw [Token.number_filtered]
    dsimp only
    rw [real_reads negative whole fraction wholeDigits fractionDigits wholeFilled]
    rfl
  · have undivided : (0 - (fraction.length : Int)).toNat = 0 := by omega
    have divided : (-(0 - (fraction.length : Int))).toNat = fraction.length := by omega
    rw [Binary64.of_decimal_nearest, undivided, divided, Nat.pow_zero, Nat.mul_one,
      Binary64.nearest_finite negative _ _ (Nat.pow_pos (by decide)), ← Nat.mul_assoc]
    exact Nat.mul_lt_mul_right (Nat.two_pow_pos 1074)

theorem fraction_value (whole fraction : List Char) :
    (Numeral.value whole + Numeral.value fraction / 10 ^ fraction.length : ℚ) < Binary64.rangeEnd ↔
      Numeral.value (whole ++ fraction) < 10 ^ fraction.length * Binary64.rangeEnd := by
  have positive : (0 : ℚ) < 10 ^ fraction.length := by positivity
  rw [Numeral.value_append]
  generalize Binary64.rangeEnd = limit
  rw [← Nat.cast_lt (α := ℚ)]
  simp only [Nat.cast_add, Nat.cast_mul, Nat.cast_pow, Nat.cast_ofNat]
  rw [← mul_lt_mul_iff_of_pos_left positive, mul_add, mul_div_cancel₀ _ positive.ne', mul_comm (Numeral.value whole : ℚ)]

theorem exact_token (token : Token) (q : ℚ) (exact : Exact token.category token.value q) :
    ((∃ value, token.number? = some value) ↔ |q| < 2 ^ 1024 - 2 ^ 970 ∧
        (token.category = .integerLiteral → token.value.toList.countP Char.isDigit ≤ 4300)) ∧
      ∀ value, token.number? = some value → Yields token.category q value := by
  obtain ⟨category, text, offset⟩ := token
  dsimp only at exact
  rw [← range_end_cast]
  cases exact with
  | integer negative digits all filled =>
      rw [integer_token negative digits all filled offset, String.toList_ofList, count_digits negative digits all,
        abs_signed_by _ _ (Nat.cast_nonneg _), Nat.cast_lt]
      split
      · rename_i both
        refine ⟨⟨fun _ => ⟨both.1, fun _ => both.2⟩, fun _ => ⟨_, rfl⟩⟩, ?_⟩
        rintro value ⟨⟩
        rw [signed_by_cast]
        exact .integer _
      · rename_i beyond
        exact ⟨⟨fun ⟨_, impossible⟩ => (by cases impossible), fun both => absurd ⟨both.1, both.2 rfl⟩ beyond⟩,
          fun _ impossible => (by cases impossible)⟩
  | fractional negative whole fraction wholeDigits wholeFilled fractionDigits fractionFilled =>
      obtain ⟨real, reads, range⟩ := fractional_token negative whole fraction wholeDigits wholeFilled fractionDigits offset
      rw [reads, abs_signed_by _ _ (by positivity), fraction_value, ← range, Option.filter_some]
      by_cases finite : real.isFinite = true
      · rw [if_pos (show Number.isFinite (.real real) = true from finite)]
        refine ⟨⟨fun _ => ⟨finite, fun impossible => (by cases impossible)⟩, fun _ => ⟨_, rfl⟩⟩, ?_⟩
        rintro value ⟨⟩
        exact .real _ real finite
      · rw [if_neg (show ¬Number.isFinite (.real real) = true from finite)]
        exact ⟨⟨fun ⟨_, impossible⟩ => (by cases impossible), fun both => absurd both.1 finite⟩,
          fun _ impossible => (by cases impossible)⟩

theorem number_of_front (session : Session) (token : Token) (rest : List Token)
    (front : session.reader.remaining = token :: rest) :
    Rule.number session = match token.number? with
      | some value => .ok value { session with reader := ⟨token :: session.reader.consumed, rest⟩ }
      | none => .error (.violation (.unmet .number token.snapshot))
          { session with reader := ⟨token :: session.reader.consumed, rest⟩ } := by
  have taken := Rule.take_cons none none session token rest front
  rw [Rule.number, Rule.bind_passed _ _ _ _ _ taken]
  cases token.number? <;> rfl

/-- A literal is read as a number exactly up to the boundary. The token is consumed in any case, and nothing
else of the session changes. -/
theorem literals_read_to_the_boundary (session : Session) (token : Token) (rest : List Token) (q : ℚ)
    (front : session.reader.remaining = token :: rest) (exact : Exact token.category token.value q) :
    ((∃ value later, Rule.number session = .ok value later) ↔ |q| < 2 ^ 1024 - 2 ^ 970 ∧
        (token.category = .integerLiteral → token.value.toList.countP Char.isDigit ≤ 4300)) ∧
      (∀ value later, Rule.number session = .ok value later → Yields token.category q value ∧
        later = { session with reader := ⟨token :: session.reader.consumed, rest⟩ }) ∧
      ∀ fault later, Rule.number session = .error fault later →
        later = { session with reader := ⟨token :: session.reader.consumed, rest⟩ } ∧
        ∃ error, fault = .violation error ∧ error.expected.text = "any number" ∧ error.offset = token.offset ∧
          error.actual = token.value := by
  obtain ⟨accepted, yields⟩ := exact_token token q exact
  rw [number_of_front session token rest front]
  rw [← accepted]
  cases found : token.number? with
  | some value =>
      refine ⟨iff_of_true ⟨value, _, rfl⟩ ⟨value, rfl⟩, ?_, ?_⟩
      · rintro _ _ ⟨⟩
        exact ⟨yields value found, rfl⟩
      · rintro _ _ ⟨⟩
  | none =>
      refine ⟨iff_of_false (fun ⟨_, _, impossible⟩ => by cases impossible) (fun ⟨_, impossible⟩ => by cases impossible), ?_, ?_⟩
      · rintro _ _ ⟨⟩
      · rintro _ _ ⟨⟩
        exact ⟨rfl, _, rfl, rfl, rfl, rfl⟩

-- The integer half way to `2 ^ 1024` is the first one that is refused.
theorem half_way_refused :
    (¬∃ value later, Rule.number ⟨.ofTokens [⟨.integerLiteral, String.ofList (Numeral.digits Binary64.rangeEnd), 0⟩],
        [], [], []⟩ = .ok value later) ∧
      ∃ value later, Rule.number ⟨.ofTokens [⟨.integerLiteral, String.ofList (Numeral.digits (Binary64.rangeEnd - 1)), 0⟩],
        [], [], []⟩ = .ok value later := by
  have literal (n : Nat) := Exact.integer false (Numeral.digits n) (Numeral.digits_digits n) (Numeral.digits_ne_nil n)
  have magnitude (n : Nat) : |signedBy false (Numeral.value (Numeral.digits n))| = n := by
    rw [Numeral.value_digits, abs_signed_by _ _ (Nat.cast_nonneg n)]
  have positive : 0 < Binary64.rangeEnd := by decide +kernel
  constructor
  · rw [(literals_read_to_the_boundary _ _ [] _ rfl (literal Binary64.rangeEnd)).1, magnitude, ← range_end_cast]
    exact fun both => lt_irrefl _ both.1
  · rw [(literals_read_to_the_boundary _ _ [] _ rfl (literal (Binary64.rangeEnd - 1))).1, magnitude, ← range_end_cast,
      Nat.cast_lt, String.toList_ofList]
    refine ⟨Nat.sub_lt positive (by decide), fun _ => ?_⟩
    refine (count_digits false _ (Numeral.digits_digits _)).trans_le ?_
    exact Nat.le_trans (Numeral.digits_length_le _ 308 (by decide +kernel)) (by decide)

end Straightedge
