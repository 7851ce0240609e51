import Straightedge.Proofs.Number.Written
import Straightedge.Tool.Options

namespace Straightedge.Tool

theorem classify_plain (word : String) (noDash : word.toList.head? ≠ some '-') : classify word = .ok .plain := by
  rw [classify, if_pos noDash]

-- A negative numeral has a dash in front, but the letter of no option behind it.

theorem spelling_no_digit : ∀ entry ∈ Flag.spellings, entry.1.toList.tail.head?.all (fun c => !c.isDigit) = true := by
  decide

theorem negative_no_spelling (c : Char) (rest : List Char) (digit : c.isDigit = true) :
    ∀ entry ∈ Flag.spellings, entry.1.toList ≠ '-' :: c :: rest := by
  intro entry inside same
  have second := spelling_no_digit entry inside
  simp [same, digit] at second

theorem negative_no_flag (c : Char) (rest : List Char) (digit : c.isDigit = true) :
    Flag.ofSpelling? (String.ofList ('-' :: c :: rest)) = none := by
  refine List.lookup_eq_none_iff.mpr fun entry inside => ?_
  refine bne_iff_ne.mpr fun same => negative_no_spelling c rest digit entry inside ?_
  rw [← same, String.toList_ofList]

theorem negative_no_candidates (c : Char) (rest : List Char) (digit : c.isDigit = true) :
    candidates ('-' :: c :: rest) = [] := by
  have noDash : c ≠ '-' := Text.digit_cases (fun c => c ≠ '-') (by decide) c digit
  rw [candidates]
  · refine List.map_eq_nil_iff.mpr (List.filter_eq_nil_iff.mpr fun entry inside same => ?_)
    refine negative_no_spelling c [] digit entry inside ?_
    rw [beq_iff_eq.mp same, String.toList_ofList]
  · exact noDash

theorem digits_all_spanned (digits : List Char) (all : Numeral.Digits digits) :
    digits.span isDigit = (digits, []) := by
  have each : ∀ c ∈ digits, isDigit c = true := fun c inside =>
    Text.digit_cases (fun c => isDigit c = true) (by decide) c (all c inside)
  rw [List.span_eq_takeWhile_dropWhile, List.takeWhile_eq_self_iff.mpr each, List.dropWhile_eq_nil_iff.mpr each]

theorem negative_looks_so (digits : List Char) (all : Numeral.Digits digits) (filled : digits ≠ []) :
    looksNegative ('-' :: digits) = true := by
  have noBreak : ('-' :: digits).getLast? ≠ some '\n' := by
    intro last
    rcases List.mem_cons.mp (List.mem_of_getLast? last) with impossible | inside
    · cases impossible
    · cases all _ inside
  rw [looksNegative, if_neg noBreak]
  simp only [digits_all_spanned digits all]
  simp [filled]

theorem negative_no_equals (digits : List Char) (all : Numeral.Digits digits) :
    (splitEquals ('-' :: digits)).2 = none := by
  have each : ∀ c ∈ '-' :: digits, decide (c ≠ '=') = true := by
    refine List.forall_mem_cons.mpr ⟨rfl, fun c inside => ?_⟩
    exact Text.digit_cases (fun c => decide (c ≠ '=') = true) (by decide) c (all c inside)
  rw [splitEquals, List.span_eq_takeWhile_dropWhile, List.dropWhile_eq_nil_iff.mpr each]

theorem classify_negative (digits : List Char) (all : Numeral.Digits digits) (filled : digits ≠ []) :
    classify (String.ofList ('-' :: digits)) = .ok .plain := by
  obtain ⟨c, rest, rfl⟩ := List.exists_cons_of_ne_nil filled
  have digit := all c List.mem_cons_self
  have noEquals := negative_no_equals (c :: rest) all
  have abbreviated : classifyAbbreviated (String.ofList ('-' :: c :: rest)) = .ok .plain := by
    rw [classifyAbbreviated, String.toList_ofList, negative_no_candidates c rest digit]
    simp [negative_looks_so (c :: rest) all filled]
  have dash : ¬(String.ofList ('-' :: c :: rest)).toList.head? ≠ some '-' := by simp
  have noMark : String.ofList ('-' :: c :: rest) ≠ "-" := by
    intro same
    have size := congrArg (fun word => word.toList.length) same
    simp at size
  rw [classify, if_neg dash, negative_no_flag c rest digit]
  dsimp only
  rw [if_neg noMark, String.toList_ofList]
  generalize splitEquals ('-' :: c :: rest) = parts at noEquals
  obtain ⟨name, attached⟩ := parts
  cases noEquals
  exact abbreviated

theorem classify_numeral (n : Int) : classify (String.ofList (Numeral.integer n)) = .ok .plain := by
  have all := Numeral.digits_digits n.natAbs
  have filled := Numeral.digits_ne_nil n.natAbs
  rw [Numeral.integer]
  split
  · exact classify_negative _ all filled
  · refine classify_plain _ ?_
    obtain ⟨c, rest, front⟩ := List.exists_cons_of_ne_nil filled
    have digit := all c (by rw [front]; exact List.mem_cons_self)
    rw [String.toList_ofList, front]
    exact Text.digit_cases (fun c => some c ≠ some '-') (by decide) c digit

-- A source that does not begin with a dash is read as a text, and written as a source again.
theorem parse_literal_words (source seed : String) (n : Int) (noDash : source.toList.head? ≠ some '-')
    (plain : classify seed = .ok .plain) (reads : Literal.integer? seed = some n) :
    parseArguments ["-s", source, "-f", "source", "--seed", seed] =
      .ok (⟨source, true, some "source", none, .fixed n⟩, false) := by
  have sourceNoMark : source ≠ "--" := by
    rintro rfl
    exact noDash rfl
  have seedNoMark : seed ≠ "--" := by
    rintro rfl
    cases plain
  have words : ["-s", source, "-f", "source", "--seed", seed].span (· ≠ "--") =
      (["-s", source, "-f", "source", "--seed", seed], []) := by
    rw [List.span_eq_takeWhile_dropWhile]
    simp [sourceNoMark, seedNoMark]
  have literal : classify "-s" = .ok (.option .literal false none) := rfl
  have format : classify "-f" = .ok (.option .format false none) := rfl
  have name : classify "source" = .ok .plain := rfl
  have seeded : classify "--seed" = .ok (.option .seed true none) := rfl
  have classified : classifyAll ["-s", source, "-f", "source", "--seed", seed] =
      .ok [("-s", .option .literal false none), (source, .plain), ("-f", .option .format false none),
        ("source", .plain), ("--seed", .option .seed true none), (seed, .plain)] := by
    simp only [classifyAll, literal, classify_plain source noDash, format, name, seeded, plain]
  rw [parseArguments, words]
  dsimp only
  rw [classified]
  have known : Format.ofName? "source" = some .source := rfl
  simp [choose, expand, Flag.takesValue, nextPlain?, Choices.setAll, Choices.set, known, reads, Choices.addPlain,
    Choices.initial, Choices.finish]

end Straightedge.Tool
