import Mathlib.Tactic.IntervalCases
import Straightedge.Document

namespace Straightedge

namespace Text

def hexDigit (c : Char) : Nat := if c.isDigit then c.toNat - 48 else c.toNat - 87

def hexValue (text : List Char) : Nat := text.foldl (fun n c => 16 * n + hexDigit c) 0

theorem hex_digit (n : Nat) (small : n < 16) : hexDigit (Nat.digitChar n) = n := by
  interval_cases n <;> rfl

theorem hex_length (width n : Nat) : (hex width n).length = width := by
  induction width generalizing n with
  | zero => rfl
  | succ width ih => rw [hex, List.length_append, ih, List.length_singleton]

theorem hex_value (width n : Nat) (bound : n < 16 ^ width) : hexValue (hex width n) = n := by
  induction width generalizing n with
  | zero =>
      rw [Nat.pow_zero] at bound
      rw [Nat.lt_one_iff.mp bound]
      rfl
  | succ width ih =>
      have front := ih (n / 16) (by rw [Nat.pow_succ] at bound; omega)
      have last := hex_digit (n % 16) (Nat.mod_lt n (by decide))
      rw [hexValue] at front
      rw [hex, hexValue, List.foldl_append, front, List.foldl_cons, List.foldl_nil, last]
      omega

end Text

namespace Document

def named : Char → Char
  | 'n' => '\n'
  | 'r' => '\r'
  | 't' => '\t'
  | 'b' => Char.ofNat 0x08
  | 'f' => Char.ofNat 0x0C
  | c => c

-- The character that four digits stand for, or eight of them if the first four are half of a pair.
def unescapeDigits (text : List Char) : Char × List Char :=
  let code := Text.hexValue (text.take 4)
  let later := text.drop 4
  if code < 0xD800 ∨ 0xDC00 ≤ code then (Char.ofNat code, later)
  else (Char.ofNat (0x10000 + (code - 0xD800) * 0x400 + (Text.hexValue ((later.drop 2).take 4) - 0xDC00)), later.drop 6)

-- The character in front of an escaped text, and the text behind it.
def unescape? : List Char → Option (Char × List Char)
  | '\x5c' :: 'u' :: rest => some (unescapeDigits rest)
  | '\x5c' :: c :: rest => some (named c, rest)
  | c :: rest => some (c, rest)
  | [] => none

theorem unescape_digits (text : List Char) : unescape? (['\x5c', 'u'] ++ text) = some (unescapeDigits text) := rfl

theorem unescape_plain (c : Char) (rest : List Char) (noBackslash : c ≠ '\x5c') : unescape? (c :: rest) = some (c, rest) := by
  rw [unescape?.eq_def]
  split
  · rename_i same
    exact absurd (List.cons.inj same).1 noBackslash
  · rename_i same
    exact absurd (List.cons.inj same).1 noBackslash
  · rename_i same
    cases same
    rfl
  · rename_i same
    cases same

theorem unescape_unit (code : Nat) (bound : code < 0x10000) (whole : code < 0xD800 ∨ 0xDC00 ≤ code) (rest : List Char) :
    unescapeDigits (Text.hex 4 code ++ rest) = (Char.ofNat code, rest) := by
  have front : (Text.hex 4 code ++ rest).take 4 = Text.hex 4 code := List.take_left' (Text.hex_length 4 code)
  have back : (Text.hex 4 code ++ rest).drop 4 = rest := List.drop_left' (Text.hex_length 4 code)
  rw [unescapeDigits, front, back, Text.hex_value 4 code bound]
  exact if_pos whole

theorem unescape_pair (high low : Nat) (first : 0xD800 ≤ high ∧ high < 0xDC00) (bound : low < 0x10000) (rest : List Char) :
    unescapeDigits (Text.hex 4 high ++ (['\x5c', 'u'] ++ (Text.hex 4 low ++ rest))) =
      (Char.ofNat (0x10000 + (high - 0xD800) * 0x400 + (low - 0xDC00)), rest) := by
  have front : (Text.hex 4 high ++ (['\x5c', 'u'] ++ (Text.hex 4 low ++ rest))).take 4 = Text.hex 4 high :=
    List.take_left' (Text.hex_length 4 high)
  have middle : (Text.hex 4 high ++ (['\x5c', 'u'] ++ (Text.hex 4 low ++ rest))).drop 4 = ['\x5c', 'u'] ++ (Text.hex 4 low ++ rest) :=
    List.drop_left' (Text.hex_length 4 high)
  have second : (['\x5c', 'u'] ++ (Text.hex 4 low ++ rest)).drop 2 = Text.hex 4 low ++ rest := rfl
  have digits : (Text.hex 4 low ++ rest).take 4 = Text.hex 4 low := List.take_left' (Text.hex_length 4 low)
  have back : (['\x5c', 'u'] ++ (Text.hex 4 low ++ rest)).drop 6 = rest := by
    rw [show 6 = 2 + 4 from rfl, ← List.drop_drop, second, List.drop_left' (Text.hex_length 4 low)]
  rw [unescapeDigits, front, middle, second, digits, back, Text.hex_value 4 high (by omega), Text.hex_value 4 low bound]
  exact if_neg (by omega)

theorem code_of (c : Char) (code : Nat) (same : c.toNat = code) : c = Char.ofNat code := by
  rw [← same, Char.ofNat_toNat]

theorem unescape_escape (c : Char) (rest : List Char) : unescape? (escape c ++ rest) = some (c, rest) := by
  -- A character is no half of a pair, so four digits that are one start a pair.
  have valid : c.toNat < 0xD800 ∨ 0xDFFF < c.toNat ∧ c.toNat < 0x110000 := c.valid
  rw [escape]
  split
  · rename_i marked
    rcases marked with rfl | rfl <;> rfl
  split
  · rename_i marked
    rw [marked]
    rfl
  split
  · rename_i marked
    rw [marked]
    rfl
  split
  · rename_i marked
    rw [marked]
    rfl
  split
  · rename_i code
    rw [code_of c _ code]
    rfl
  split
  · rename_i code
    rw [code_of c _ code]
    rfl
  split
  · rename_i noMark _ _ _ _ _ _
    exact unescape_plain c rest fun backslash => noMark (.inr backslash)
  split
  · rename_i unit
    have digits := unescape_unit c.toNat unit (by omega) rest
    rw [List.append_assoc, unescape_digits, digits, Char.ofNat_toNat]
  · have digits := unescape_pair (0xD800 + (c.toNat - 0x10000) / 0x400) (0xDC00 + (c.toNat - 0x10000) % 0x400)
      (by omega) (by omega) rest
    have sum : 0x10000 + (0xD800 + (c.toNat - 0x10000) / 0x400 - 0xD800) * 0x400 +
        (0xDC00 + (c.toNat - 0x10000) % 0x400 - 0xDC00) = c.toNat := by omega
    rw [List.append_assoc, List.append_assoc, List.append_assoc, unescape_digits, digits, sum, Char.ofNat_toNat]

theorem escape_no_quote (c : Char) (rest later : List Char) : escape c ++ rest ≠ '\x22' :: later := by
  intro same
  -- Then the quote would be the character itself, but a quote is escaped.
  have read := congrArg unescape? same
  rw [unescape_escape, unescape_plain _ _ (by decide)] at read
  cases read
  cases same

theorem escaped_unique (text other rest later : List Char)
    (same : text.flatMap escape ++ '\x22' :: rest = other.flatMap escape ++ '\x22' :: later) : text = other ∧ rest = later := by
  induction text generalizing other with
  | nil =>
      cases other with
      | nil => exact ⟨rfl, (List.cons.inj same).2⟩
      | cons c others =>
          rw [List.flatMap_cons, List.append_assoc] at same
          exact absurd same.symm (escape_no_quote c _ rest)
  | cons c text ih =>
      rw [List.flatMap_cons, List.append_assoc] at same
      cases other with
      | nil => exact absurd same (escape_no_quote c _ later)
      | cons d others =>
          rw [List.flatMap_cons, List.append_assoc] at same
          have read := congrArg unescape? same
          rw [unescape_escape, unescape_escape, Option.some.injEq, Prod.mk.injEq] at read
          obtain ⟨texts, rests⟩ := ih others read.2
          exact ⟨by rw [read.1, texts], rests⟩

theorem quote_unique (value other : String) (rest later : List Char)
    (same : (quote value).toList ++ rest = (quote other).toList ++ later) : value = other ∧ rest = later := by
  have opened : ∀ (text : String) (behind : List Char),
      (quote text).toList ++ behind = '\x22' :: (text.toList.flatMap escape ++ '\x22' :: behind) := by
    intro text behind
    rw [quote, String.toList_ofList, List.cons_append, List.cons_append, List.append_assoc]
    rfl
  rw [opened, opened] at same
  obtain ⟨texts, rests⟩ := escaped_unique _ _ _ _ (List.cons.inj same).2
  exact ⟨String.toList_injective texts, rests⟩

end Document

end Straightedge
