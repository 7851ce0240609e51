import Straightedge.Item
import Straightedge.Proofs.Place.History

namespace Straightedge

def Scalar.Short : Scalar → Prop
  | .number (.integer n) => Numeral.Short n
  | _ => True

mutual

-- No integer in the item has more digits than can be written.
def Item.Short : Item → Prop
  | .scalar value => value.Short
  | .coords pair => pair.x.Short ∧ pair.y.Short
  | .point _ place => place.Short
  | .line _ start stop => start.Short ∧ stop.Short
  | .perpendicular base apex => base.Short ∧ apex.Short
  | .triangle first second third => first.Short ∧ second.Short ∧ third.Short
  | .command _ object => object.Short
  | .task commands => Item.AllShort commands
  | .token value => Numeral.Short value.offset

def Item.AllShort : List Item → Prop
  | [] => True
  | item :: rest => item.Short ∧ Item.AllShort rest

end

section

variable {α β γ δ ε : Type}

theorem described_one (first : Except ε α) (put : α → δ) :
    (∃ whole, (do return put (← first)) = .ok whole) ↔ ∃ part, first = .ok part := by
  constructor
  · rintro ⟨_, done⟩
    obtain ⟨part, found, _⟩ := (except_bind_ok _ _ _).mp done
    exact ⟨part, found⟩
  · rintro ⟨part, rfl⟩
    exact ⟨put part, rfl⟩

theorem described_more (first : Except ε α) (next : α → Except ε δ) (condition : Prop)
    (rest : ∀ part, (∃ whole, next part = .ok whole) ↔ condition) :
    (∃ whole, (first >>= next) = .ok whole) ↔ (∃ part, first = .ok part) ∧ condition := by
  constructor
  · rintro ⟨whole, done⟩
    obtain ⟨part, found, later⟩ := (except_bind_ok _ _ _).mp done
    exact ⟨⟨part, found⟩, (rest part).mp ⟨whole, later⟩⟩
  · rintro ⟨⟨part, rfl⟩, holds⟩
    exact (rest part).mpr holds

theorem described_both (first : Except ε α) (second : Except ε β) (put : α → β → δ) :
    (∃ whole, (do return put (← first) (← second)) = .ok whole) ↔
      (∃ part, first = .ok part) ∧ ∃ part, second = .ok part :=
  described_more _ _ _ fun _ => described_one _ _

end

theorem numeral_written (n : Int) : (∃ text, Numeral.written n = .ok text) ↔ Numeral.Short n := by
  rw [Numeral.written]
  split
  · rename_i short
    exact iff_of_true ⟨_, rfl⟩ short
  · rename_i long
    exact iff_of_false nofun long

theorem scalar_described (value : Scalar) : (∃ text, value.describe = .ok text) ↔ value.Short := by
  cases value with
  | number number =>
      cases number with
      | integer n => exact (described_one _ _).trans (numeral_written n)
      | real value => exact iff_of_true ⟨_, rfl⟩ trivial
  | text value => exact iff_of_true ⟨_, rfl⟩ trivial
  | truth value => exact iff_of_true ⟨_, rfl⟩ trivial
  | absent => exact iff_of_true ⟨_, rfl⟩ trivial

mutual

theorem item_described (item : Item) : (∃ text, item.describe = .ok text) ↔ item.Short := by
  cases item with
  | scalar value => exact scalar_described value
  | coords pair =>
      exact (described_both _ _ _).trans (and_congr (scalar_described pair.x) (scalar_described pair.y))
  | point name place => exact (described_one _ _).trans (item_described place)
  | line extent start stop =>
      exact (described_both _ _ _).trans (and_congr (item_described start) (item_described stop))
  | perpendicular base apex =>
      exact (described_both _ _ _).trans (and_congr (item_described base) (item_described apex))
  | triangle first second third =>
      exact (described_more _ _ _ fun _ => described_both _ _ _).trans
        (and_congr (item_described first) (and_congr (item_described second) (item_described third)))
  | command operator object => exact (described_one _ _).trans (item_described object)
  | task commands => exact (described_one _ _).trans (items_described commands)
  | token token => exact (described_one _ _).trans (numeral_written token.offset)

theorem items_described (items : List Item) : (∃ texts, Item.describeAll items = .ok texts) ↔ Item.AllShort items := by
  cases items with
  | nil => exact iff_of_true ⟨_, rfl⟩ trivial
  | cons item rest =>
      exact (described_both _ _ _).trans (and_congr (item_described item) (items_described rest))

end

end Straightedge
