namespace Straightedge.Numeral

def digitsOnto (n : Nat) (rest : List Char) : List Char :=
  if n < 10 then Nat.digitChar n :: rest
  else digitsOnto (n / 10) (Nat.digitChar (n % 10) :: rest)
termination_by n
decreasing_by omega

def digits (n : Nat) : List Char := digitsOnto n []

def value (text : List Char) : Nat := text.foldl (fun n c => 10 * n + (c.toNat - 48)) 0

def integer (n : Int) : List Char :=
  if n < 0 then '-' :: digits n.natAbs else digits n.natAbs

-- Longer numerals are neither read as integers nor written for them.
def longest : Nat := 4300

inductive Overlong where
  | reading (digits : Nat)
  | writing
deriving DecidableEq

def Overlong.message (overlong : Overlong) : String :=
  let found := match overlong with
    | .reading digits => ": value has " ++ toString digits ++ " digits"
    | .writing => ""
  "Exceeds the limit (" ++ toString longest ++ " digits) for integer string conversion" ++ found ++
    "; use sys.set_int_max_str_digits() to increase the limit"

def Short (n : Int) : Prop := (digits n.natAbs).length ≤ longest

instance (n : Int) : Decidable (Short n) := inferInstanceAs (Decidable (_ ≤ _))

def written (n : Int) : Except Overlong (List Char) :=
  if Short n then .ok (integer n) else .error .writing

theorem digits_onto_small (n : Nat) (rest : List Char) (h : n < 10) :
    digitsOnto n rest = Nat.digitChar n :: rest := by
  rw [digitsOnto, if_pos h]

theorem digits_onto_large (n : Nat) (rest : List Char) (h : 10 ≤ n) :
    digitsOnto n rest = digitsOnto (n / 10) (Nat.digitChar (n % 10) :: rest) := by
  rw [digitsOnto, if_neg (by omega)]

theorem digits_onto_eq (n : Nat) (rest : List Char) : digitsOnto n rest = digits n ++ rest := by
  unfold digits
  induction n using Nat.strongRecOn generalizing rest with
  | ind n ih =>
    by_cases h : n < 10
    · simp [digits_onto_small n _ h]
    · rw [digits_onto_large n rest (by omega), digits_onto_large n [] (by omega),
        ih (n / 10) (by omega), ih (n / 10) (by omega) [Nat.digitChar (n % 10)]]
      simp

theorem digits_of_lt (n : Nat) (h : n < 10) : digits n = [Nat.digitChar n] := by
  exact digits_onto_small n [] h

theorem digits_step (n : Nat) (h : 10 ≤ n) :
    digits n = digits (n / 10) ++ [Nat.digitChar (n % 10)] := by
  rw [digits, digits_onto_large n [] h, digits_onto_eq]

theorem value_append_digit (text : List Char) (c : Char) :
    value (text ++ [c]) = 10 * value text + (c.toNat - 48) := by
  simp [value, List.foldl_append]

@[simp] theorem digits_ne_nil (n : Nat) : digits n ≠ [] := by
  by_cases h : n < 10
  · rw [digits_of_lt n h]; simp
  · rw [digits_step n (by omega)]; simp

@[simp] theorem value_digits (n : Nat) : value (digits n) = n := by
  induction n using Nat.strongRecOn with
  | ind n ih =>
    by_cases h : n < 10
    · rw [digits_of_lt n h]
      simp [value, Nat.toNat_digitChar_of_lt_ten h]
    · rw [digits_step n (by omega), value_append_digit, ih (n / 10) (by omega),
        Nat.toNat_digitChar_of_lt_ten (Nat.mod_lt n (by decide))]
      omega

theorem digits_injective (m n : Nat) (h : digits m = digits n) : m = n := by
  have same := congrArg value h
  simpa only [value_digits] using same

end Straightedge.Numeral
