import Straightedge.Proofs.Document.Escape
import Straightedge.Proofs.Number.Reread

namespace Straightedge

def Delimited (rest : List Char) : Prop := ∀ c ∈ rest.head?, c = ',' ∨ c = '\n'

def Tells {α : Type} (text : α → String) (value : α) : Prop :=
  ∀ other rest later, Delimited rest → Delimited later → (text value).toList ++ rest = (text other).toList ++ later →
    value = other ∧ rest = later

namespace Document

def wordEnds : List Char := ['\x22', '[', '\x7b', ',', '\n']

def Bare (word : List Char) : Prop := ∀ c ∈ word, c ∉ wordEnds

instance (word : List Char) : Decidable (Bare word) :=
  decidable_of_iff (word.all (fun c => decide (c ∉ wordEnds)) = true) (by simp [Bare])

theorem bare_unique (word other rest later : List Char) (wordBare : Bare word) (otherBare : Bare other)
    (restEnds : Delimited rest) (laterEnds : Delimited later) (same : word ++ rest = other ++ later) :
    word = other ∧ rest = later := by
  have cut : ∀ word rest : List Char, Bare word → Delimited rest → (word ++ rest).takeWhile (· ∉ wordEnds) = word := by
    intro word rest bare ends
    have stops : ∀ c ∈ rest.head?, decide (c ∉ wordEnds) = false := by
      intro c head
      rcases ends c head with rfl | rfl <;> decide
    exact (Text.taken_whole _ word rest (fun c member => decide_eq_true (bare c member)) stops).1
  have words := congrArg (List.takeWhile (· ∉ wordEnds)) same
  rw [cut word rest wordBare restEnds, cut other later otherBare laterEnds] at words
  subst words
  exact ⟨rfl, List.append_cancel_left same⟩

instance (c : Char) : Decidable (Literal.Written c) :=
  inferInstanceAs (Decidable ((c.isDigit = true ∨ c = '-' ∨ c = '.') ∨ c ∈ Literal.signs))

theorem written_bare (word : List Char) (written : ∀ c ∈ word, Literal.Written c) : Bare word := by
  have apart : wordEnds.all (fun c => decide (¬Literal.Written c)) = true := by decide
  exact fun c member ends => of_decide_eq_true (List.all_eq_true.mp apart c ends) (written c member)

theorem word_not_number (word : String) (c : Char) (inside : c ∈ word.toList) (unwritten : ¬Literal.Written c)
    (value : Number) : value.text Layout.document ≠ word := by
  intro same
  exact unwritten (number_text_written value c (same ▸ inside))

-- What the text of a document starts with, where it is no bare word.

def openings : List Char := ['\x22', '[', '\x7b']

def opening? : Document → Option Char
  | .scalar (.text _) => some '\x22'
  | .scalar _ => none
  | .list _ => some '['
  | .record _ => some '\x7b'

theorem bare_not_opened (word rest : List Char) (bare : Bare word) (ends : Delimited rest) :
    (word ++ rest).head?.filter (· ∈ openings) = none := by
  cases word with
  | nil =>
      cases rest with
      | nil => rfl
      | cons c rest => rcases ends c rfl with rfl | rfl <;> rfl
  | cons c word =>
      have within : openings.all (fun c => decide (c ∈ wordEnds)) = true := by decide
      rw [List.cons_append, List.head?_cons, Option.filter_some, if_neg]
      simpa using fun inside => bare c List.mem_cons_self (of_decide_eq_true (List.all_eq_true.mp within c inside))

theorem scalar_bare (value : Scalar) (noText : ∀ text, value ≠ .text text) : Bare (scalarText value).toList := by
  cases value with
  | number value => exact written_bare _ (number_text_written value)
  | text value => exact absurd rfl (noText value)
  | truth value => cases value <;> decide
  | absent => decide

theorem bracket_opening (opening closing : String) (c : Char) (opens : opening.toList = [c]) (inside : c ∈ openings)
    (level : Nat) (parts : List String) (rest : List Char) :
    ((bracket opening closing level parts).toList ++ rest).head?.filter (· ∈ openings) = some c := by
  have head : ((bracket opening closing level parts).toList ++ rest).head? = some c := by
    rw [bracket]
    split <;> simp only [String.toList_append, opens] <;> rfl
  rw [head, Option.filter_some, if_pos]
  exact decide_eq_true inside

theorem print_opening (level : Nat) (document : Document) (rest : List Char) (ends : Delimited rest) :
    ((print level document).toList ++ rest).head?.filter (· ∈ openings) = opening? document := by
  cases document with
  | scalar value =>
      rw [print]
      cases value with
      | number value => exact bare_not_opened _ rest (scalar_bare (.number value) fun _ same => by cases same) ends
      | text value =>
          rw [scalarText, quote, String.toList_ofList]
          rfl
      | truth value => exact bare_not_opened _ rest (scalar_bare (.truth value) fun _ same => by cases same) ends
      | absent => exact bare_not_opened _ rest (scalar_bare .absent fun _ same => by cases same) ends
  | list items =>
      rw [print]
      exact bracket_opening "[" "]" '[' rfl (by decide) level _ rest
  | record fields =>
      rw [print]
      exact bracket_opening "\x7b" "\x7d" '\x7b' rfl (by decide) level _ rest

theorem word_injective (value other : Scalar) (noText : ∀ text, value ≠ .text text) (otherNoText : ∀ text, other ≠ .text text)
    (same : scalarText value = scalarText other) : value = other := by
  have yes := word_not_number "true" 'r' (by decide) (by decide)
  have no := word_not_number "false" 's' (by decide) (by decide)
  have null := word_not_number "null" 'u' (by decide) (by decide)
  -- Three words are no numbers, and they differ from each other.
  cases value with
  | number value =>
      cases other with
      | number other => rw [number_text_injective value other same]
      | text other => exact absurd rfl (otherNoText other)
      | truth other =>
          cases other with
          | true => exact absurd same (yes value)
          | false => exact absurd same (no value)
      | absent => exact absurd same (null value)
  | text value => exact absurd rfl (noText value)
  | truth value =>
      cases other with
      | number other =>
          cases value with
          | true => exact absurd same.symm (yes other)
          | false => exact absurd same.symm (no other)
      | text other => exact absurd rfl (otherNoText other)
      | truth other => cases value <;> cases other <;> first | rfl | exact absurd same (by decide)
      | absent => cases value <;> exact absurd same (by decide)
  | absent =>
      cases other with
      | number other => exact absurd same.symm (null other)
      | text other => exact absurd rfl (otherNoText other)
      | truth other => cases other <;> exact absurd same (by decide)
      | absent => rfl

theorem opening_same (level : Nat) (document other : Document) (rest later : List Char) (restEnds : Delimited rest)
    (laterEnds : Delimited later) (same : (print level document).toList ++ rest = (print level other).toList ++ later) :
    opening? other = opening? document := by
  rw [← print_opening level document rest restEnds, ← print_opening level other later laterEnds, same]

theorem word_tells (level : Nat) (value : Scalar) (noText : ∀ text, value ≠ .text text) : Tells (print level) (.scalar value) := by
  intro other rest later restEnds laterEnds same
  have closed : opening? (.scalar value) = none := by
    cases value with
    | text text => exact absurd rfl (noText text)
    | number _ => rfl
    | truth _ => rfl
    | absent => rfl
  have kinds := (opening_same level _ other rest later restEnds laterEnds same).trans closed
  cases other with
  | scalar other =>
      have otherNoText : ∀ text, other ≠ .text text := by
        rintro text rfl
        cases kinds
      rw [print, print] at same
      obtain ⟨words, rests⟩ := bare_unique _ _ rest later (scalar_bare value noText) (scalar_bare other otherNoText)
        restEnds laterEnds same
      exact ⟨by rw [word_injective value other noText otherNoText (String.toList_injective words)], rests⟩
  | list items => cases kinds
  | record fields => cases kinds

theorem text_tells (level : Nat) (text : String) : Tells (print level) (.scalar (.text text)) := by
  intro other rest later restEnds laterEnds same
  have kinds := opening_same level _ other rest later restEnds laterEnds same
  cases other with
  | scalar other =>
      cases other with
      | text other =>
          rw [print, print] at same
          obtain ⟨texts, rests⟩ := quote_unique text other rest later same
          exact ⟨by rw [texts], rests⟩
      | number _ => cases kinds
      | truth _ => cases kinds
      | absent => cases kinds
  | list items => cases kinds
  | record fields => cases kinds

-- Brackets. Behind every part there is a comma or the end of a line.

def partsText {α : Type} (text : α → String) (level : Nat) (closing : String) : List α → List Char
  | [] => (newLine level).toList ++ closing.toList
  | value :: rest => ',' :: ((newLine (level + 1)).toList ++ ((text value).toList ++ partsText text level closing rest))

theorem new_line_characters (level : Nat) : (newLine level).toList = '\n' :: List.replicate (2 * level) ' ' := by
  rw [newLine, String.toList_append, String.toList_ofList, String.toList_ofList]
  rfl

theorem parts_delimited {α : Type} (text : α → String) (level : Nat) (closing : String) (values : List α) (rest : List Char) :
    Delimited (partsText text level closing values ++ rest) := by
  cases values with
  | nil =>
      rw [partsText, new_line_characters]
      rintro c ⟨⟩
      exact .inr rfl
  | cons value values =>
      rintro c ⟨⟩
      exact .inl rfl

theorem bracket_characters {α : Type} (text : α → String) (opening closing : String) (level : Nat) (value : α) (rest : List α) :
    (bracket opening closing level ((value :: rest).map text)).toList =
      opening.toList ++ ((newLine (level + 1)).toList ++ ((text value).toList ++ partsText text level closing rest)) := by
  have parts : ∀ values : List α, (values.map text).flatMap (fun part => ("," ++ newLine (level + 1)).toList ++ part.toList) ++
      ((newLine level).toList ++ closing.toList) = partsText text level closing values := by
    intro values
    induction values with
    | nil => rfl
    | cons value values ih =>
        rw [List.map_cons, List.flatMap_cons, List.append_assoc, ih, partsText, String.toList_append, List.append_assoc,
          List.append_assoc]
        rfl
  rw [← parts, bracket, if_neg (by simp), List.map_cons]
  simp only [String.toList_append, Text.separated_characters, List.append_assoc]

theorem parts_unique {α : Type} (text : α → String) (level : Nat) (closing : String) (values others : List α)
    (each : ∀ value ∈ values, Tells text value) (rest later : List Char)
    (same : partsText text level closing values ++ rest = partsText text level closing others ++ later) :
    values = others ∧ rest = later := by
  induction values generalizing others with
  | nil =>
      cases others with
      | nil => exact ⟨rfl, List.append_cancel_left same⟩
      | cons other others =>
          rw [partsText, partsText, new_line_characters level] at same
          exact absurd (List.cons.inj same).1 (by decide)
  | cons value values ih =>
      obtain ⟨first, behind⟩ := List.forall_mem_cons.mp each
      cases others with
      | nil =>
          rw [partsText, partsText, new_line_characters level] at same
          exact absurd (List.cons.inj same).1 (by decide)
      | cons other others =>
          rw [partsText, partsText, List.cons_append, List.cons_append] at same
          have opened := (List.cons.inj same).2
          rw [List.append_assoc, List.append_assoc, List.append_assoc, List.append_assoc] at opened
          obtain ⟨heads, tails⟩ := first other _ _ (parts_delimited text level closing values rest)
            (parts_delimited text level closing others later) (List.append_cancel_left opened)
          obtain ⟨values, rests⟩ := ih others behind tails
          exact ⟨by rw [heads, values], rests⟩

theorem bracket_unique {α : Type} (text : α → String) (opening closing : String) (c : Char) (closes : closing.toList = [c])
    (noLine : c ≠ '\n') (level : Nat) (values others : List α) (each : ∀ value ∈ values, Tells text value)
    (rest later : List Char) (same : (bracket opening closing level (values.map text)).toList ++ rest =
      (bracket opening closing level (others.map text)).toList ++ later) : values = others ∧ rest = later := by
  have none : (bracket opening closing level []).toList = opening.toList ++ [c] := by
    rw [← closes]
    exact String.toList_append
  cases values with
  | nil =>
      cases others with
      | nil => exact ⟨rfl, List.append_cancel_left same⟩
      | cons other others =>
          rw [List.map_nil, none, bracket_characters, new_line_characters] at same
          simp only [List.append_assoc] at same
          exact absurd (List.cons.inj (List.append_cancel_left same)).1 noLine
  | cons value values =>
      cases others with
      | nil =>
          rw [List.map_nil, none, bracket_characters, new_line_characters] at same
          simp only [List.append_assoc] at same
          exact absurd (List.cons.inj (List.append_cancel_left same)).1.symm noLine
      | cons other others =>
          obtain ⟨first, behind⟩ := List.forall_mem_cons.mp each
          rw [bracket_characters, bracket_characters] at same
          simp only [List.append_assoc] at same
          -- Behind the first part stands a comma or a line end, so it ends at the same place in both texts.
          have inner := List.append_cancel_left (List.append_cancel_left same)
          obtain ⟨heads, tails⟩ := first other _ _ (parts_delimited text level closing values rest)
            (parts_delimited text level closing others later) inner
          obtain ⟨values, rests⟩ := parts_unique text level closing values others behind rest later tails
          exact ⟨by rw [heads, values], rests⟩

def fieldText (level : Nat) (field : String × Document) : String := quote field.1 ++ ": " ++ print level field.2

theorem print_items (level : Nat) (items : List Document) : printItems level items = items.map (print level) := by
  induction items with
  | nil => rfl
  | cons item rest ih => rw [printItems, ih, List.map_cons]

theorem print_fields (level : Nat) (fields : List (String × Document)) :
    printFields level fields = fields.map (fieldText level) := by
  induction fields with
  | nil => rfl
  | cons field rest ih =>
      rw [printFields, ih, List.map_cons]
      rfl

theorem field_tells (level : Nat) (field : String × Document) (value : Tells (print level) field.2) :
    Tells (fieldText level) field := by
  intro other rest later restEnds laterEnds same
  simp only [fieldText, String.toList_append, List.append_assoc] at same
  obtain ⟨names, behind⟩ := quote_unique _ _ _ _ same
  obtain ⟨values, rests⟩ := value other.2 rest later restEnds laterEnds (List.append_cancel_left behind)
  exact ⟨Prod.ext names values, rests⟩

mutual

-- The first character tells which kind of document it is, so that only documents of one kind are compared.
theorem print_tells (level : Nat) : (document : Document) → Tells (print level) document
  | .scalar (.text text) => text_tells level text
  | .scalar (.number value) => word_tells level (.number value) fun _ same => by cases same
  | .scalar (.truth value) => word_tells level (.truth value) fun _ same => by cases same
  | .scalar .absent => word_tells level .absent fun _ same => by cases same
  | .list items => by
      intro other rest later restEnds laterEnds same
      have kinds := opening_same level _ other rest later restEnds laterEnds same
      cases other with
      | list others =>
          rw [print, print, print_items, print_items] at same
          obtain ⟨parts, rests⟩ := bracket_unique (print (level + 1)) "[" "]" ']' rfl (by decide) level items others
            (items_tell (level + 1) items) rest later same
          exact ⟨by rw [parts], rests⟩
      | scalar other => cases other <;> cases kinds
      | record fields => cases kinds
  | .record fields => by
      intro other rest later restEnds laterEnds same
      have kinds := opening_same level _ other rest later restEnds laterEnds same
      cases other with
      | record others =>
          rw [print, print, print_fields, print_fields] at same
          obtain ⟨parts, rests⟩ := bracket_unique (fieldText (level + 1)) "\x7b" "\x7d" '\x7d' rfl (by decide) level fields others
            (fields_tell (level + 1) fields) rest later same
          exact ⟨by rw [parts], rests⟩
      | scalar other => cases other <;> cases kinds
      | list items => cases kinds

theorem items_tell (level : Nat) : (items : List Document) → ∀ item ∈ items, Tells (print level) item
  | [] => fun _ none => (List.not_mem_nil none).elim
  | item :: rest => List.forall_mem_cons.mpr ⟨print_tells level item, items_tell level rest⟩

theorem fields_tell (level : Nat) : (fields : List (String × Document)) → ∀ field ∈ fields, Tells (fieldText level) field
  | [] => fun _ none => (List.not_mem_nil none).elim
  | (name, value) :: rest =>
      List.forall_mem_cons.mpr ⟨field_tells level (name, value) (print_tells level value), fields_tell level rest⟩

end

theorem print_injective (level : Nat) (document other : Document) (same : print level document = print level other) :
    document = other := by
  have alone : Delimited [] := fun _ none => by cases none
  exact (print_tells level document other [] [] alone alone (by rw [same])).1

end Document

end Straightedge
