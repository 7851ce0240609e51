import Straightedge.Proofs.Number.Written

namespace Straightedge

namespace Literal

theorem signed_exponent_reads (negative : Bool) (digits : List Char) (all : Numeral.Digits digits) (filled : digits ≠ []) :
    exponent? ('e' :: (if negative then '-' else '+') :: digits) =
      some (if negative then -(Numeral.value digits : Int) else Numeral.value digits) := by
  have every : digits.all Char.isDigit = true := List.all_eq_true.mpr all
  have some : digits.isEmpty = false := List.isEmpty_eq_false_iff.mpr filled
  cases negative with
  | true => simp [exponent?, splitSign, every, some]
  | false => simp [exponent?, splitSign, every, some]

theorem exponent_reads (lead : Int) : exponent? (Layout.exponentText lead) = some lead := by
  have all := Numeral.digits_append _ _ (Numeral.digits_replicate_zero (2 - (Numeral.digits lead.natAbs).length))
    (Numeral.digits_digits lead.natAbs)
  have filled := List.append_ne_nil_of_right_ne_nil
    (List.replicate (2 - (Numeral.digits lead.natAbs).length) '0') (Numeral.digits_ne_nil lead.natAbs)
  have reads := signed_exponent_reads (decide (lead < 0)) _ all filled
  rw [Numeral.value_zeros_append, Numeral.value_digits, signed_magnitude] at reads
  simpa [Layout.exponentText] using reads

theorem exponent_not_digit (lead : Int) : ∀ c ∈ (Layout.exponentText lead).head?, c.isDigit = false := by
  rintro c ⟨⟩
  decide

theorem split_fraction_text (fraction : List Char) (lead : Int) (all : Numeral.Digits fraction) :
    splitFraction ((if fraction.isEmpty then [] else '.' :: fraction) ++ Layout.exponentText lead) =
      (fraction, Layout.exponentText lead) := by
  cases fraction with
  | nil => rfl
  | cons c rest => exact span_digits (c :: rest) _ all (exponent_not_digit lead)

theorem parts_scientific (digits : List Char) (lead : Int) (all : Numeral.Digits digits) (filled : digits ≠ []) :
    parts? (Layout.scientificText digits lead) = some (Numeral.value digits, lead + 1 - digits.length) := by
  obtain ⟨c, rest, rfl⟩ := List.exists_cons_of_ne_nil filled
  -- The whole part is the first digit alone: a point or the mark of the exponent stands behind it.
  have stop : ∀ d ∈ ((if rest.isEmpty then [] else '.' :: rest) ++ Layout.exponentText lead).head?, d.isDigit = false := by
    cases rest with
    | nil => exact exponent_not_digit lead
    | cons d rest =>
        rintro _ ⟨⟩
        decide
  have restDigits : Numeral.Digits rest := fun d member => all d (List.mem_cons_of_mem c member)
  have front := span_digits [c] _ (fun d member => all d (List.mem_singleton.mp member ▸ List.mem_cons_self)) stop
  have places : lead - (rest.length : Int) = lead + 1 - ((c :: rest).length : Int) := by
    rw [List.length_cons]
    omega
  have shape : Layout.scientificText (c :: rest) lead =
      [c] ++ ((if rest.isEmpty then [] else '.' :: rest) ++ Layout.exponentText lead) := List.append_assoc [c] _ _
  rw [shape, ← places]
  simp only [parts?, front, split_fraction_text rest lead restDigits, exponent_reads]
  rfl

-- Wherever the layout puts the point, the digits are the shortest ones of the value, with zeros at most behind them.
theorem parts_magnitude (layout : Layout) (rank : Fin Binary64.ranks) :
    let shortest := Binary64.shortest rank
    ∃ zeros : Nat, parts? (layout.magnitude rank) = some (Numeral.value shortest.digits * 10 ^ zeros,
      shortest.lead + 1 - shortest.digits.length - zeros) := by
  obtain ⟨all, filled, _⟩ := Binary64.shortest_reads_back false rank
  intro shortest
  rw [Layout.magnitude]
  split
  rename_i digits lead shape
  rw [shape] at all filled
  simp only [shortest, shape]
  by_cases positional : layout.positional lead = true
  · obtain ⟨whole, fraction, text, wholeDigits, wholeFilled, fractionDigits, _, zeros, scaled, places⟩ :=
      positional_form digits lead all filled
    rw [if_pos positional, text, parts_point whole fraction wholeDigits fractionDigits wholeFilled, scaled, places]
    exact ⟨zeros, rfl⟩
  · rw [if_neg positional, parts_scientific digits lead all filled]
    exact ⟨0, by simp⟩

theorem magnitude_reads (layout : Layout) (negative : Bool) (rank : Fin Binary64.ranks) :
    decimal? negative (layout.magnitude rank) = some (.finite negative rank) := by
  obtain ⟨_, _, exact⟩ := Binary64.shortest_reads_back negative rank
  obtain ⟨zeros, parts⟩ := parts_magnitude layout rank
  rw [decimal_parts, parts, Option.map_some, Binary64.of_decimal_shift, Int.sub_add_cancel, exact]

-- The signs that a document puts into a number beside its digits, the minus and the point.
def signs : List Char := "+eInfityNa".toList

def Written (c : Char) : Prop := Plain c ∨ c ∈ signs

theorem written_kept (c : Char) (written : Written c) : Kept c := by
  have each : signs.all (fun c => decide (isPadding c = false ∧ plainDigit c = c ∧ c ≠ '_')) = true := by decide
  rcases written with plain | sign
  · exact plain_kept c plain
  · obtain ⟨solid, same, single⟩ := of_decide_eq_true (List.all_eq_true.mp each c sign)
    exact ⟨solid, same, single⟩

theorem digits_written (digits : List Char) (all : Numeral.Digits digits) : ∀ c ∈ digits, Written c :=
  fun c member => .inl (.inl (all c member))

theorem exponent_written (lead : Int) : ∀ c ∈ Layout.exponentText lead, Written c := by
  have sign : Written (if lead < 0 then '-' else '+') := by
    by_cases negative : lead < 0
    · rw [if_pos negative]
      exact .inl (.inr (.inl rfl))
    · rw [if_neg negative]
      exact .inr (by decide)
  have padded := Numeral.digits_append _ _ (Numeral.digits_replicate_zero (2 - (Numeral.digits lead.natAbs).length))
    (Numeral.digits_digits lead.natAbs)
  rw [Layout.exponentText]
  exact List.forall_mem_cons.mpr ⟨.inr (by decide), List.forall_mem_cons.mpr ⟨sign, digits_written _ padded⟩⟩

theorem magnitude_written (layout : Layout) (rank : Fin Binary64.ranks) :
    (∀ c ∈ layout.magnitude rank, Written c) ∧ ∃ c rest, layout.magnitude rank = c :: rest ∧ c.isDigit = true ∧
      ∃ mark ∈ rest, mark = '.' ∨ mark = 'e' := by
  obtain ⟨all, filled, _⟩ := Binary64.shortest_reads_back false rank
  have point : Written '.' := .inl (.inr (.inr rfl))
  rw [Layout.magnitude]
  split
  rename_i digits lead shape
  rw [shape] at all filled
  by_cases positional : layout.positional lead = true
  · rw [if_pos positional]
    obtain ⟨whole, fraction, text, wholeDigits, wholeFilled, fractionDigits, _⟩ := positional_form digits lead all filled
    obtain ⟨c, rest, rfl⟩ := List.exists_cons_of_ne_nil wholeFilled
    rw [text]
    refine ⟨List.forall_mem_append.mpr ⟨digits_written _ wholeDigits, List.forall_mem_cons.mpr
      ⟨point, digits_written _ fractionDigits⟩⟩, c, rest ++ '.' :: fraction, rfl, wholeDigits c List.mem_cons_self, '.', ?_, .inl rfl⟩
    simp
  · rw [if_neg positional]
    obtain ⟨c, rest, rfl⟩ := List.exists_cons_of_ne_nil filled
    have fraction : ∀ d ∈ (if rest.isEmpty then [] else '.' :: rest), Written d := by
      cases rest with
      | nil => exact fun _ none => (List.not_mem_nil none).elim
      | cons d rest =>
          exact List.forall_mem_cons.mpr ⟨point, digits_written _ fun d member => all d (List.mem_cons_of_mem c member)⟩
    have shape : Layout.scientificText (c :: rest) lead =
        c :: ((if rest.isEmpty then [] else '.' :: rest) ++ Layout.exponentText lead) := rfl
    rw [shape]
    refine ⟨List.forall_mem_cons.mpr ⟨.inl (.inl (all c List.mem_cons_self)), List.forall_mem_append.mpr
      ⟨fraction, exponent_written lead⟩⟩, c, _, rfl, all c List.mem_cons_self, 'e', ?_, .inr rfl⟩
    exact List.mem_append_right _ List.mem_cons_self

theorem signed_written (negative : Bool) (text : List Char) (written : ∀ c ∈ text, Written c) :
    ∀ c ∈ Layout.signed negative text, Written c := by
  cases negative with
  | false => exact written
  | true => exact List.forall_mem_cons.mpr ⟨.inl (.inr (.inl rfl)), written⟩

theorem document_written (value : Binary64) : ∀ c ∈ Layout.document.real value, Written c := by
  have each : "InfinityNaN".toList.all (fun c => decide (c ∈ signs)) = true := by decide
  have names := fun c member => of_decide_eq_true (List.all_eq_true.mp each c member)
  cases value with
  | finite negative rank => exact signed_written negative _ (magnitude_written _ rank).1
  | infinite negative => exact signed_written negative _ fun c member => .inr (names c (List.mem_append_left "NaN".toList member))
  | nan => exact fun c member => .inr (names c (List.mem_append_right "Infinity".toList member))

-- No integer has such a character in its text.
theorem document_real_marked (value : Binary64) : ∃ c ∈ Layout.document.real value, c.isDigit = false ∧ c ≠ '-' := by
  cases value with
  | finite negative rank =>
      obtain ⟨_, c, rest, shape, _, mark, inside, known⟩ := magnitude_written Layout.document rank
      refine ⟨mark, ?_, by rcases known with rfl | rfl <;> decide⟩
      rw [Layout.real, shape, Layout.signed]
      cases negative with
      | false => exact List.mem_cons_of_mem c inside
      | true => exact List.mem_cons_of_mem '-' (List.mem_cons_of_mem c inside)
  | infinite negative => cases negative <;> exact ⟨'I', by decide, by decide⟩
  | nan => exact ⟨'N', by decide, by decide⟩

theorem document_real_reads (value : Binary64) : real? (String.ofList (Layout.document.real value)) = some value := by
  have text := plain_text_kept _ fun c member => written_kept c (document_written value c member)
  rw [real?, text, Option.bind_eq_bind, Option.bind_some]
  cases value with
  | nan => rfl
  | infinite negative => cases negative <;> rfl
  | finite negative rank =>
      obtain ⟨_, c, rest, shape, digit, _⟩ := magnitude_written Layout.document rank
      have reads := magnitude_reads Layout.document negative rank
      rw [Layout.real, shape, split_sign_signed negative c rest digit]
      rw [shape] at reads
      dsimp only
      rw [if_neg (name_apart c rest digit).1, if_neg (name_apart c rest digit).2, reads]

end Literal

theorem integer_characters (n : Int) : ∀ c ∈ Numeral.integer n, c.isDigit = true ∨ c = '-' := by
  intro c member
  have all := Numeral.digits_digits n.natAbs
  rw [← integer_text] at member
  cases sign : decide (n < 0) with
  | false =>
      rw [sign] at member
      exact .inl (all c member)
  | true =>
      rw [sign] at member
      rcases List.mem_cons.mp member with rfl | inside
      · exact .inr rfl
      · exact .inl (all c inside)

theorem integer_injective (m n : Int) (same : Numeral.integer m = Numeral.integer n) : m = n := by
  have split : ∀ k : Int, Literal.splitSign (Numeral.integer k) = (decide (k < 0), Numeral.digits k.natAbs) := by
    intro k
    obtain ⟨c, rest, shape⟩ := List.exists_cons_of_ne_nil (Numeral.digits_ne_nil k.natAbs)
    have digit := Numeral.digits_digits k.natAbs c (shape ▸ List.mem_cons_self)
    rw [← integer_text, shape, Literal.split_sign_signed _ c rest digit]
  have both := congrArg Literal.splitSign same
  rw [split, split, Prod.mk.injEq] at both
  have magnitudes := Numeral.digits_injective _ _ both.2
  rw [← signed_magnitude m, ← signed_magnitude n, both.1, magnitudes]

theorem number_text_written (value : Number) : ∀ c ∈ (value.text Layout.document).toList, Literal.Written c := by
  cases value with
  | integer n =>
      rw [Number.text, String.toList_ofList]
      intro c member
      rcases integer_characters n c member with digit | rfl
      · exact .inl (.inl digit)
      · exact .inl (.inr (.inl rfl))
  | real value =>
      rw [Number.text, String.toList_ofList]
      exact Literal.document_written value

theorem integer_not_real (n : Int) (value : Binary64) : Numeral.integer n ≠ Layout.document.real value := by
  intro same
  obtain ⟨c, member, noDigit, noMinus⟩ := Literal.document_real_marked value
  rw [← same] at member
  rcases integer_characters n c member with digit | minus
  · rw [noDigit] at digit
    cases digit
  · exact noMinus minus

theorem number_text_injective (first second : Number)
    (same : first.text Layout.document = second.text Layout.document) : first = second := by
  have texts := congrArg String.toList same
  cases first with
  | integer m =>
      cases second with
      | integer n =>
          simp only [Number.text, String.toList_ofList] at texts
          rw [integer_injective m n texts]
      | real b =>
          simp only [Number.text, String.toList_ofList] at texts
          exact absurd texts (integer_not_real m b)
  | real a =>
      cases second with
      | integer n =>
          simp only [Number.text, String.toList_ofList] at texts
          exact absurd texts.symm (integer_not_real n a)
      | real b =>
          have reads := congrArg Literal.real? same
          rw [Number.text, Number.text, Literal.document_real_reads, Literal.document_real_reads] at reads
          rw [Option.some.inj reads]

end Straightedge
