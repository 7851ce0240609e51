namespace Straightedge

def Category.standardNames : List String :=
  ["Identifier", "IntegerLiteral", "FractionalLiteral", "KeyWord", "Operator", "Separator"]

-- A token that was not read from a source may have a category of its own.
inductive Category where
  | identifier
  | integerLiteral
  | fractionalLiteral
  | keyword
  | operator
  | separator
  | other (name : String) (own : name ∉ Category.standardNames)
deriving DecidableEq

namespace Category

def name : Category → String
  | .identifier => "Identifier"
  | .integerLiteral => "IntegerLiteral"
  | .fractionalLiteral => "FractionalLiteral"
  | .keyword => "KeyWord"
  | .operator => "Operator"
  | .separator => "Separator"
  | .other name _ => name

def standard : List Category :=
  [.identifier, .integerLiteral, .fractionalLiteral, .keyword, .operator, .separator]

theorem standard_named : standard.map name = standardNames := rfl

theorem own_name (name : String) (unknown : standard.find? (fun category => category.name == name) = none) :
    name ∉ standardNames := by
  rw [← standard_named]
  simpa using unknown

def ofName (name : String) : Category :=
  match unknown : standard.find? fun category => category.name == name with
  | some category => category
  | none => .other name (own_name name unknown)

@[simp] theorem of_name_name (category : Category) : ofName category.name = category := by
  cases category with
  | other name own =>
      have unknown : standard.find? (fun category => category.name == name) = none := by
        rw [← standard_named] at own
        simpa using own
      rw [ofName]
      split
      · rename_i found
        cases unknown.symm.trans found
      · rfl
  | _ => rfl

theorem name_injective (first second : Category) (same : first.name = second.name) : first = second := by
  rw [← of_name_name first, same, of_name_name]

end Category

inductive Keyword where
  | point
  | line
  | segment
  | perpendicular
  | triangle
deriving DecidableEq

namespace Keyword

def spelling : Keyword → String
  | .point => "POINT"
  | .line => "LINE"
  | .segment => "SEGMENT"
  | .perpendicular => "PERPENDICULAR"
  | .triangle => "TRIANGLE"

def all : List Keyword := [.point, .line, .segment, .perpendicular, .triangle]

def ofSpelling? (word : String) : Option Keyword :=
  all.find? fun keyword => keyword.spelling == word

@[simp] theorem mem_all (keyword : Keyword) : keyword ∈ all := by
  cases keyword <;> decide

@[simp] theorem of_spelling_spelling (keyword : Keyword) :
    ofSpelling? keyword.spelling = some keyword := by
  cases keyword <;> decide

theorem spelling_of_of_spelling (word : String) (keyword : Keyword)
    (found : ofSpelling? word = some keyword) : keyword.spelling = word := by
  simpa using List.find?_some found

end Keyword

namespace Vocabulary

def operators : List String := ["BUILD", "CONSTRUCT", "DRAW", "MARK"]

def separators : List Char := ['(', ')', ',', '.']

def opening : String := "("

def closing : String := ")"

def comma : String := ","

def terminator : String := "."

def reserved? (word : String) : Option Category :=
  if (Keyword.ofSpelling? word).isSome then some .keyword
  else if word ∈ operators then some .operator
  else none

def reservedWords : List String :=
  (Keyword.all.map Keyword.spelling ++ operators).mergeSort fun a b => decide (a ≤ b)

end Vocabulary

end Straightedge
