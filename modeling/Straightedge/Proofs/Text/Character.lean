import Mathlib.Tactic.IntervalCases
import Straightedge.Text.Blank
import Straightedge.Text.Digit
import Straightedge.Text.Letter

namespace Straightedge.Text

theorem digit_of_code (c : Char) (digit : c.isDigit = true) : 48 ≤ c.toNat ∧ c.toNat ≤ 57 := by
  simp only [Char.isDigit, Bool.and_eq_true, decide_eq_true_eq] at digit
  exact digit

-- What holds of the ten digits one by one holds of every digit.
theorem digit_cases (P : Char → Prop) (each : ∀ n < 10, P (Nat.digitChar n)) (c : Char)
    (digit : c.isDigit = true) : P c := by
  obtain ⟨low, high⟩ := digit_of_code c digit
  have value : c = Nat.digitChar (c.toNat - 48) := by
    rw [← Char.ofNat_toNat c]
    generalize c.toNat = code at low high
    interval_cases code <;> rfl
  rw [value]
  exact each _ (by omega)

theorem digit_not_blank (c : Char) (digit : c.isDigit = true) : isBlank c = false :=
  digit_cases (fun c => isBlank c = false) (by decide) c digit

theorem digit_not_word_start (c : Char) (digit : c.isDigit = true) : isWordStart c = false :=
  digit_cases (fun c => isWordStart c = false) (by decide) c digit

def Ranges.codes (ranges : Ranges) : List Nat :=
  ranges.flatMap fun (first, last) => List.range' first (last + 1 - first)

theorem covers_codes (ranges : Ranges) (code : Nat) (covered : ranges.covers code = true) :
    code ∈ ranges.codes := by
  induction ranges with
  | nil => cases covered
  | cons range rest ih =>
      obtain ⟨first, last⟩ := range
      rw [Ranges.covers] at covered
      rw [Ranges.codes, List.flatMap_cons, List.mem_append, List.mem_range'_1]
      split at covered
      · cases covered
      · rename_i started
        rcases (Bool.or_eq_true _ _).mp covered with within | later
        · have last := of_decide_eq_true within
          exact .inl (by omega)
        · exact .inr (ih later)

theorem blank_not_word_start (c : Char) (blank : isBlank c = true) : isWordStart c = false := by
  have letter : ∀ code ∈ blanks.codes, letters.covers code = false := by decide +kernel
  have mark : ∀ code ∈ blanks.codes, code ≠ '_'.toNat := by decide
  have code := covers_codes blanks c.toNat blank
  have different : c ≠ '_' := fun same => mark c.toNat code (congrArg Char.toNat same)
  simp [isWordStart, isLetter, letter c.toNat code, different]

theorem word_start_not_blank (c : Char) (starts : isWordStart c = true) : isBlank c = false := by
  cases blank : isBlank c with
  | false => rfl
  | true =>
      have refused := blank_not_word_start c blank
      rw [starts] at refused
      contradiction

theorem taken_whole (test : Char → Bool) (body rest : List Char) (passes : ∀ c ∈ body, test c = true)
    (stops : ∀ c ∈ rest.head?, test c = false) :
    (body ++ rest).takeWhile test = body ∧ (body ++ rest).dropWhile test = rest := by
  rw [List.takeWhile_append_of_pos passes, List.dropWhile_append_of_pos passes]
  cases rest with
  | nil => simp
  | cons c rest => simp [stops c rfl]

theorem separated_characters (separator first : String) (rest : List String) :
    (separator.intercalate (first :: rest)).toList =
      first.toList ++ rest.flatMap fun text => separator.toList ++ text.toList := by
  rw [String.toList_intercalate]
  induction rest generalizing first with
  | nil => simp
  | cons second rest ih =>
      rw [List.map_cons, List.map_cons, List.intercalate_cons_cons, ← List.map_cons, ih second, List.flatMap_cons]
      simp only [List.append_assoc]

end Straightedge.Text
