import Mathlib.Data.List.Infix
import Straightedge.Proofs.Parse.Violation
import Straightedge.Proofs.Token.Respaced

namespace Straightedge

open Text

-- A text up to the first place at which the marker stands, and what is behind the marker there.
def cutAt? (marker : List Char) : List Char → Option (List Char × List Char)
  | [] => none
  | c :: rest =>
      if marker.isPrefixOf (c :: rest) then some ([], (c :: rest).drop marker.length)
      else (cutAt? marker rest).map fun (front, behind) => (c :: front, behind)

theorem cut_at_marker (marker front behind : List Char) (mark : Char) (starts : marker.head? = some mark)
    (absent : mark ∉ front) : cutAt? marker (front ++ (marker ++ behind)) = some (front, behind) := by
  obtain ⟨more, rfl⟩ := List.head?_eq_some_iff.mp starts
  induction front with
  | nil =>
      have here : (mark :: more).isPrefixOf (mark :: (more ++ behind)) = true :=
        List.isPrefixOf_iff_prefix.mpr (List.prefix_append (mark :: more) behind)
      rw [List.nil_append, List.cons_append, cutAt?, if_pos here, List.length_cons, List.drop_succ_cons, List.drop_left]
  | cons c front ih =>
      have other : mark ≠ c := fun same => absent (same ▸ List.mem_cons_self)
      have notHere : ¬(mark :: more).isPrefixOf (c :: (front ++ (mark :: more ++ behind))) = true := fun here =>
        other (List.cons_prefix_cons.mp (List.isPrefixOf_iff_prefix.mp here)).1
      rw [List.cons_append, cutAt?, if_neg notHere, ih fun inside => absent (List.mem_cons_of_mem c inside)]
      rfl

structure Snapshot.Legible (found : Snapshot) : Prop where
  offset : ∃ count : Nat, found.offset = count
  value : ' ' ∉ found.value.toList

namespace SyntaxError

-- The expected text, the offset and the text that was found instead, as a message tells them.
def scrape? (message : String) : Option (String × Int × String) := do
  let (digits, shown) ← cutAt? ": ...".toList message.toList
  let (actual, expected) ← cutAt? " -> Expected token <".toList shown
  some (String.ofList (expected.take (expected.length - 2)), Numeral.value digits, String.ofList actual)

theorem scrape_unmet (expected : Expectation) (found : Snapshot) (legible : found.Legible) :
    scrape? (unmet expected found).message = some (expected.text, found.offset, found.value) := by
  obtain ⟨offset, actual⟩ := found
  obtain ⟨⟨count, rfl⟩, noBlank⟩ := legible
  let tail := expected.text.toList ++ ['>', '.']
  let shown := actual.toList ++ (" -> Expected token <".toList ++ tail)
  have digits : (toString (count : Int)).toList = Nat.toDigits 10 count := Nat.toList_repr
  have noColon : ':' ∉ Nat.toDigits 10 count := fun inside =>
    absurd (Nat.isDigit_of_mem_toDigits (by decide) (by decide) inside) (by decide)
  have written : (unmet expected ⟨count, actual⟩).message.toList = Nat.toDigits 10 count ++ (": ...".toList ++ shown) := by
    simp only [message, unmet, String.toList_append, digits, List.append_assoc]
    rfl
  have first := cut_at_marker ": ...".toList (Nat.toDigits 10 count) shown ':' (by decide) noColon
  have second : cutAt? " -> Expected token <".toList shown = some (actual.toList, tail) :=
    cut_at_marker _ actual.toList tail ' ' (by decide) noBlank
  have ending : tail.take (tail.length - 2) = expected.text.toList := by
    rw [List.length_append]
    exact List.take_left
  have value : Numeral.value (Nat.toDigits 10 count) = count := Nat.ofDigitChars_ten_toDigits
  simp only [scrape?, written, first, second, Option.bind_eq_bind, Option.bind_some, ending, value, String.ofList_toList]

def Raised (error : SyntaxError) : Prop :=
  ∃ jitter source, (Reading.ofSource jitter source).result = .error (.violation error)

end SyntaxError

-- What an error can show: a token, a character that begins none, or nothing at all.

theorem word_legible (text : List Char) (isWord : Lexeme.IsWord text) : ' ' ∉ text := fun inside =>
  absurd (isWord.2.2 ' ' inside) (by decide)

theorem number_legible (text : List Char) (fractional : Bool) (form : NumberForm text fractional) : ' ' ∉ text := by
  have noDigit (digits : List Char) (all : Numeral.Digits digits) : ' ' ∉ digits := fun inside =>
    absurd (all ' ' inside) (by decide)
  cases form with
  | integer negative digits all _ => cases negative <;> simp [Layout.signed, noDigit digits all]
  | fractional negative whole fraction wholeDigits _ fractionDigits _ =>
      cases negative <;> simp [Layout.signed, noDigit whole wholeDigits, noDigit fraction fractionDigits]

theorem stands_legible (text rest : List Char) (category : Category) (value : String)
    (stands : Stands text rest category value) : ' ' ∉ value.toList := by
  cases stands with
  | reserved _ _ _ _ _ known => exact word_legible _ (reserved_in_capitals _ category known).1
  | name _ _ isWord _ _ =>
      rw [String.toList_ofList]
      exact word_legible text isWord
  | integer _ _ form _ _ =>
      rw [String.toList_ofList]
      exact number_legible text _ form
  | fractional _ _ form _ =>
      rw [String.toList_ofList]
      exact number_legible text _ form
  | separator c _ mark =>
      have noBlank := separator_cases (fun c => ' ' ≠ c) (by decide) c mark
      simpa using noBlank

theorem tokenize_legible (source : String) (tokens : List Token) (found : tokenize source = .ok tokens) :
    ∀ token ∈ tokens, token.snapshot.Legible := by
  refine scan_tokens (·.snapshot.Legible) (fun source lexeme offset read => ?_) 0 _ tokens found
  obtain ⟨later, _, stands⟩ := front_stands source lexeme read
  exact ⟨⟨offset, rfl⟩, stands_legible _ later _ _ stands⟩

theorem raised_legible (error : SyntaxError) (raised : error.Raised) :
    ∃ found : Snapshot, found.Legible ∧ error = .unmet error.expected found := by
  obtain ⟨jitter, source, ended⟩ := raised
  rw [Reading.ofSource] at ended
  cases split : tokenize source with
  | error invalid =>
      rw [split] at ended
      cases ended
      obtain ⟨before, c, after, _, _, _, stuck, rfl⟩ := stuck_found source error split
      -- A blank is read as a gap, so it is not what the scan got stuck at.
      have noBlank : ' ' ≠ c := fun same => absurd stuck.noBlank (same ▸ by decide)
      exact ⟨⟨before.length, String.singleton c⟩, ⟨⟨_, rfl⟩, by simpa using noBlank⟩, rfl⟩
  | ok tokens =>
      rw [split] at ended
      by_cases filled : tokens = []
      · subst filled
        cases ended
        exact ⟨⟨0, ""⟩, ⟨⟨0, rfl⟩, List.not_mem_nil⟩, rfl⟩
      · dsimp only at ended
        rw [of_tokens_drawing jitter tokens filled] at ended
        cases read : Rule.drawing jitter ⟨.ofTokens tokens, [], [], []⟩ with
        | ok drawing later =>
            rw [read] at ended
            cases ended
        | error fault later =>
            rw [read] at ended
            cases ended
            have stopped := (of_tokens_stopped jitter tokens filled _ later).mpr read
            obtain ⟨token, inside, shown⟩ := stopped_shows jitter tokens error later stopped
            exact ⟨token.snapshot, tokenize_legible source tokens split token inside, shown⟩

/-- The message of an error that is raised tells all of it: one way of cutting messages apart reads back every
error, and errors with equal messages are equal in what they tell. -/
theorem raised_messages_scraped :
    (∀ error : SyntaxError, error.Raised →
      SyntaxError.scrape? error.message = some (error.expected.text, error.offset, error.actual)) ∧
    ∀ first second : SyntaxError, first.Raised → second.Raised → first.message = second.message →
      first.expected.text = second.expected.text ∧ first.offset = second.offset ∧ first.actual = second.actual := by
  have scraped (error : SyntaxError) (raised : error.Raised) :
      SyntaxError.scrape? error.message = some (error.expected.text, error.offset, error.actual) := by
    obtain ⟨found, legible, shown⟩ := raised_legible error raised
    rw [shown]
    exact SyntaxError.scrape_unmet error.expected found legible
  refine ⟨scraped, fun first second firstRaised secondRaised same => ?_⟩
  have told := scraped first firstRaised
  rw [same, scraped second secondRaised, Option.some.injEq, Prod.mk.injEq, Prod.mk.injEq] at told
  exact ⟨told.1.symm, told.2.1.symm, told.2.2.symm⟩

-- The character that is shown is one that messages are themselves written with.
theorem stray_mark_scraped : ∃ first second : SyntaxError,
    tokenize "DRAW >" = .error first ∧ tokenize "draw > A" = .error second ∧ first.message = second.message ∧
      first.message = "5: ...> -> Expected token <valid character>." ∧
      SyntaxError.scrape? first.message = some ("valid character", 5, ">") ∧ first.offset = second.offset := by
  have stray : tokenize "DRAW >" = .error ⟨.validCharacter, 5, ">"⟩ := by decide +kernel
  have longer : tokenize "draw > A" = .error ⟨.validCharacter, 5, ">"⟩ := by decide +kernel
  have raised : SyntaxError.Raised ⟨.validCharacter, 5, ">"⟩ := ⟨.cycle [3, 4], "DRAW >", by rw [Reading.ofSource, stray]; rfl⟩
  have again : SyntaxError.Raised ⟨.validCharacter, 5, ">"⟩ := ⟨.cycle [3, 4], "draw > A", by rw [Reading.ofSource, longer]; rfl⟩
  obtain ⟨scraped, apart⟩ := raised_messages_scraped
  exact ⟨_, _, stray, longer, rfl, by decide +kernel, scraped _ raised, (apart _ _ raised again rfl).2.1⟩

end Straightedge
