import Mathlib.Algebra.Field.Rat
import Mathlib.Tactic.NormNum
import Straightedge.Proofs.Number.Reread
import Straightedge.Proofs.Token.Split

namespace Straightedge

namespace Literal

-- The sign stands beside the magnitude, since zero has one too.
def denotation? (text : List Char) : Option (Bool × ℚ) :=
  let (negative, magnitude) := splitSign text
  (parts? magnitude).map fun parts => (negative, parts.1 * 10 ^ parts.2)

theorem denotation_signed (negative : Bool) (c : Char) (rest : List Char) (digit : c.isDigit = true) (parts : Nat × Int)
    (found : parts? (c :: rest) = some parts) :
    denotation? (Layout.signed negative (c :: rest)) = some (negative, (parts.1 : ℚ) * 10 ^ parts.2) := by
  rw [denotation?, split_sign_signed negative c rest digit]
  dsimp only
  rw [found, Option.map_some]

theorem scaled_back (digits zeros : Nat) (exponent : Int) :
    ((digits * 10 ^ zeros : Nat) : ℚ) * 10 ^ (exponent - zeros) = digits * 10 ^ exponent := by
  have places : (zeros : Int) + (exponent - zeros) = exponent := by omega
  rw [Nat.cast_mul, Nat.cast_pow, Nat.cast_ofNat, mul_assoc, ← zpow_natCast, ← zpow_add₀ (by norm_num), places]

-- No layout changes the number, only how it is spelled.
theorem denotation_real (layout : Layout) (negative : Bool) (rank : Fin Binary64.ranks) :
    let shortest := Binary64.shortest rank
    denotation? (layout.real (.finite negative rank)) =
      some (negative, (Numeral.value shortest.digits : ℚ) * 10 ^ (shortest.lead + 1 - shortest.digits.length)) := by
  intro shortest
  obtain ⟨_, c, rest, shape, digit, _⟩ := magnitude_written layout rank
  obtain ⟨zeros, parts⟩ := parts_magnitude layout rank
  rw [shape] at parts
  rw [Layout.real, shape, denotation_signed negative c rest digit _ parts, scaled_back]

theorem parts_whole (digits : List Char) (all : Numeral.Digits digits) (filled : digits ≠ []) :
    parts? digits = some (Numeral.value digits, 0) := by
  have front := span_digits digits [] all (by simp)
  rw [List.append_nil] at front
  have some : digits.isEmpty = false := List.isEmpty_eq_false_iff.mpr filled
  simp only [parts?, front, splitFraction, List.append_nil, some, Bool.not_false, guard_true, exponent?]
  rfl

theorem denotation_integer (n : Int) : denotation? (Numeral.integer n) = some (decide (n < 0), (n.natAbs : ℚ)) := by
  have all := Numeral.digits_digits n.natAbs
  have parts := parts_whole _ all (Numeral.digits_ne_nil n.natAbs)
  obtain ⟨c, rest, shape⟩ := List.exists_cons_of_ne_nil (Numeral.digits_ne_nil n.natAbs)
  rw [Numeral.value_digits, shape] at parts
  rw [shape] at all
  rw [← integer_text, shape, denotation_signed _ c rest (all c List.mem_cons_self) _ parts, zpow_zero, mul_one]

end Literal

def ReadAlone (text more : List Char) (category : Category) : Prop :=
  ∀ cursor : Cursor, cursor.rest = text ++ more → cursor.nextToken =
    (.ok (some ⟨category, String.ofList text, cursor.position⟩), cursor.advance text.length)

theorem stands_read_alone (text more : List Char) (category : Category)
    (stands : Stands text more category (String.ofList text)) : ReadAlone text more category := by
  intro cursor ahead
  exact next_token_stands cursor [] text more category _ ahead (.empty _) stands

theorem integer_form (n : Int) : NumberForm (Numeral.integer n) false := by
  rw [← integer_text]
  exact .integer _ _ (Numeral.digits_digits n.natAbs) (Numeral.digits_ne_nil n.natAbs)

/-- Every finite number is written in digits, as exactly the number that its usual text denotes, with the sign of zero
too. In a source it is read as one literal, for that number, if nothing stands behind that would prolong it. -/
theorem numbers_written_exactly :
    (∀ (negative : Bool) (rank : Fin Binary64.ranks),
      let value := Binary64.finite negative rank
      let text := Layout.plain.real value
      (Number.real value).write = .ok (String.ofList text) ∧ NumberForm text true ∧
        (∃ magnitude, Literal.denotation? text = some (negative, magnitude) ∧
          Literal.denotation? (Layout.short.real value) = some (negative, magnitude)) ∧
        (∀ more : List Char, (∀ c ∈ more.head?, c.isDigit = false) → ReadAlone text more .fractionalLiteral) ∧
        ∀ offset : Nat, Token.number? ⟨.fractionalLiteral, String.ofList text, offset⟩ = some (.real value)) ∧
    ∀ n : Int, n.natAbs < 10 ^ Numeral.longest →
      let text := Numeral.integer n
      (Number.integer n).write = .ok (String.ofList text) ∧ NumberForm text false ∧
        Literal.denotation? text = some (decide (n < 0), (n.natAbs : ℚ)) ∧
        Literal.integer? (String.ofList text) = some n ∧
        ∀ more : List Char, (∀ c ∈ more.head?, c.isDigit = false) →
          (∀ c rest, more = '.' :: c :: rest → c.isDigit = false) → ReadAlone text more .integerLiteral := by
  constructor
  · intro negative rank value text
    obtain ⟨_, rfl, form, reads⟩ := real_written negative rank
    refine ⟨rfl, form, ⟨_, Literal.denotation_real _ negative rank, Literal.denotation_real _ negative rank⟩, ?_, reads⟩
    exact fun more ends => stands_read_alone text more _ (.fractional text more form ends)
  · intro n bound text
    have short := (Numeral.short_iff n).mpr bound
    have form := integer_form n
    refine ⟨short_written n short, form, Literal.denotation_integer n, integer_reads_back n short, ?_⟩
    exact fun more ends noFraction => stands_read_alone text more _ (.integer text more form ends noFraction)

theorem minus_zero_and_seven_written :
    Layout.plain.real (.finite true ⟨0, by decide⟩) = "-0.0".toList ∧
      ReadAlone "-0.0".toList ")".toList .fractionalLiteral ∧
      (-7 : Int).natAbs < 10 ^ Numeral.longest ∧ Literal.integer? "-7" = some (-7) ∧
      (⟨"-7.".toList, 0⟩ : Cursor).nextToken = (.ok (some ⟨.integerLiteral, "-7", 0⟩), ⟨"-7.".toList, 2⟩) := by
  have zero : Layout.plain.real (.finite true ⟨0, by decide⟩) = "-0.0".toList := by decide
  have seven : Numeral.integer (-7) = "-7".toList := by decide +kernel
  have small : (-7 : Int).natAbs < 10 ^ Numeral.longest :=
    Nat.lt_of_lt_of_le (by decide : 7 < 10 ^ 1) (Nat.pow_le_pow_right (by decide) (by decide))
  obtain ⟨reals, integers⟩ := numbers_written_exactly
  obtain ⟨_, _, _, realAlone, _⟩ := reals true ⟨0, by decide⟩
  obtain ⟨_, _, _, reads, integerAlone⟩ := integers (-7) small
  rw [zero] at realAlone
  rw [seven] at reads integerAlone
  have closed : ∀ c ∈ ")".toList.head?, c.isDigit = false := by
    rintro _ ⟨⟩
    decide
  have ended : ∀ c ∈ ".".toList.head?, c.isDigit = false := by
    rintro _ ⟨⟩
    decide
  have alone := integerAlone _ ended (by rintro c rest ⟨⟩)
  exact ⟨zero, realAlone _ closed, small, reads, alone ⟨"-7.".toList, 0⟩ rfl⟩

end Straightedge
