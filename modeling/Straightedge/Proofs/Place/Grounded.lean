import Straightedge.Proofs.Place.Steady

namespace Straightedge

-- The latest occurrence of a name in front of an index.
structure Latest (occurrences : List Occurrence) (name : String) (i j : Nat) : Prop where
  before : j < i
  named : occurrences[j]?.map Occurrence.name = some name
  last : ∀ k, j < k → k < i → occurrences[k]?.map Occurrence.name ≠ some name

inductive Grounded (occurrences : List Occurrence) : Nat → Prop where
  | written (i : Nat) (name : String) (coords : Coords Number) (found : occurrences[i]? = some ⟨name, some coords⟩) :
      Grounded occurrences i
  | reused (i j : Nat) (name : String) (found : occurrences[i]? = some ⟨name, none⟩)
      (latest : Latest occurrences name i j) (source : Grounded occurrences j) : Grounded occurrences i

theorem latest_exists (occurrences : List Occurrence) (name : String) (i j : Nat) (before : j < i)
    (named : occurrences[j]?.map Occurrence.name = some name) : ∃ latest, Latest occurrences name i latest := by
  induction i with
  | zero => exact absurd before (Nat.not_lt_zero j)
  | succ i ih =>
      by_cases here : occurrences[i]?.map Occurrence.name = some name
      · exact ⟨i, Nat.lt_succ_self i, here, fun k above below => by omega⟩
      · have earlier : j < i := Nat.lt_of_le_of_ne (Nat.lt_succ_iff.mp before) fun same => here (same ▸ named)
        obtain ⟨latest, there, same, last⟩ := ih earlier
        refine ⟨latest, Nat.lt_succ_of_lt there, same, fun k above below => ?_⟩
        rcases Nat.lt_succ_iff_lt_or_eq.mp below with below | rfl
        · exact last k above below
        · exact here

-- An occurrence has coordinates behind it, or its name is new, or it goes back to the latest one of its name.
theorem occurrence_induction (occurrences : List Occurrence) (P : Nat → Prop)
    (written : ∀ i name coords, occurrences[i]? = some ⟨name, some coords⟩ → P i)
    (new : ∀ i name, occurrences[i]? = some ⟨name, none⟩ →
      (∀ k < i, occurrences[k]?.map Occurrence.name ≠ some name) → P i)
    (reused : ∀ i j name, occurrences[i]? = some ⟨name, none⟩ → Latest occurrences name i j → P j → P i)
    (i : Nat) (inside : i < occurrences.length) : P i := by
  induction i using Nat.strong_induction_on with
  | _ i ih =>
      rcases here : occurrences[i] with ⟨name, written?⟩
      have found : occurrences[i]? = some ⟨name, written?⟩ := by rw [List.getElem?_eq_getElem inside, here]
      cases written? with
      | some coords => exact written i name coords found
      | none =>
          by_cases first : ∀ k < i, occurrences[k]?.map Occurrence.name ≠ some name
          · exact new i name found first
          · push Not at first
            obtain ⟨k, before, named⟩ := first
            obtain ⟨j, latest⟩ := latest_exists occurrences name i k before named
            exact reused i j name found latest (ih j latest.before (Nat.lt_trans latest.before inside))

section

variable {jitter : Jitter} {occurrences : List Occurrence} {points : List (Point Number)}

theorem run_named (run : Run jitter occurrences points) (i : Nat) :
    points[i]?.map Point.name = occurrences[i]?.map Occurrence.name := by
  rw [← List.getElem?_map, ← List.getElem?_map, run.names]

theorem run_point (run : Run jitter occurrences points) (i : Nat) (occurrence : Occurrence)
    (found : occurrences[i]? = some occurrence) : ∃ coords, points[i]? = some ⟨occurrence.name, coords⟩ ∧
      PlacedBy jitter (2 * newAmong occurrences i) (points.take i) occurrence coords := by
  have named := run_named run i
  rw [found, Option.map_some] at named
  obtain ⟨⟨_, coords⟩, foundPoint, rfl⟩ := Option.map_eq_some_iff.mp named
  exact ⟨coords, foundPoint, run.placed i occurrence _ found foundPoint⟩

-- The points behind the latest occurrence have other names, so they are passed over one by one.
theorem latest_point (run : Run jitter occurrences points) (name : String) (i j : Nat) (latest : Latest occurrences name i j)
    (coords : Coords Number) (source : points[j]? = some ⟨name, coords⟩) : latest? name (points.take i) = some coords := by
  obtain ⟨before, _, last⟩ := latest
  induction i, before using Nat.le_induction with
  | base => rw [List.take_add_one, source, Option.toList_some, latest_append, if_pos rfl]
  | succ i above ih =>
      have other := last i above (Nat.lt_succ_self i)
      rw [← run_named run] at other
      have earlier := ih fun k after below => last k after (Nat.lt_succ_of_lt below)
      rw [List.take_add_one]
      cases found : points[i]? with
      | none => rwa [Option.toList_none, List.append_nil]
      | some point =>
          rw [found, Option.map_some, ne_eq, Option.some_inj] at other
          rwa [Option.toList_some, latest_append, if_neg other]

theorem run_written (run : Run jitter occurrences points) (i : Nat) (name : String) (coords : Coords Number)
    (found : occurrences[i]? = some ⟨name, some coords⟩) : points[i]? = some ⟨name, coords⟩ := by
  obtain ⟨place, foundPoint, placed⟩ := run_point run i _ found
  cases placed
  exact foundPoint

theorem run_reused (run : Run jitter occurrences points) (name : String) (i j : Nat)
    (found : occurrences[i]? = some ⟨name, none⟩) (latest : Latest occurrences name i j) (coords : Coords Number)
    (source : points[j]? = some ⟨name, coords⟩) : points[i]? = some ⟨name, coords⟩ := by
  have known := latest_point run name i j latest coords source
  obtain ⟨place, foundPoint, placed⟩ := run_point run i _ found
  cases placed with
  | known _ _ same =>
      rw [known] at same
      cases same
      exact foundPoint
  | inferred _ _ new =>
      rw [known] at new
      cases new

end

theorem grounded_same (first second : Jitter) (occurrences : List Occurrence) (points points' : List (Point Number))
    (run : Run first occurrences points) (run' : Run second occurrences points') (i : Nat)
    (grounded : Grounded occurrences i) : ∃ point, points[i]? = some point ∧ points'[i]? = some point := by
  induction grounded with
  | written i name coords found => exact ⟨_, run_written run i name coords found, run_written run' i name coords found⟩
  | reused i j name found latest _ ih =>
      obtain ⟨⟨other, coords⟩, source, source'⟩ := ih
      have named := run_named run j
      rw [source, latest.named] at named
      obtain rfl : name = other := (Option.some.inj named).symm
      exact ⟨_, run_reused run name i j found latest coords source, run_reused run' name i j found latest coords source'⟩

theorem first_written (occurrences : List Occurrence) (none : bareNames occurrences = []) (name : String)
    (among : name ∈ occurrences.map Occurrence.name) : ∃ (j : Nat) (coords : Coords Number),
      occurrences[j]? = some ⟨name, some coords⟩ ∧ ∀ k < j, occurrences[k]?.map Occurrence.name ≠ some name := by
  have written := List.filter_eq_nil_iff.mp none name (List.mem_eraseDups.mpr among)
  obtain ⟨occurrence, inside, same⟩ := List.mem_map.mp among
  cases found : occurrences.find? fun other => other.name == name with
  | none => exact absurd (beq_iff_eq.mpr same) (List.find?_eq_none.mp found occurrence inside)
  | some first =>
      obtain ⟨named, j, below, here, before⟩ := List.find?_eq_some_iff_getElem.mp found
      obtain ⟨other, written?⟩ := first
      obtain rfl : name = other := (beq_iff_eq.mp named).symm
      rw [found, Option.any_some] at written
      cases written? with
      | none => exact absurd rfl written
      | some coords =>
          refine ⟨j, coords, List.getElem?_eq_some_iff.mpr ⟨below, here⟩, fun k earlier => ?_⟩
          have other := before k earlier
          rw [List.getElem?_eq_getElem (Nat.lt_trans earlier below), Option.map_some, ne_eq, Option.some_inj]
          simpa using other

theorem all_grounded (occurrences : List Occurrence) (none : bareNames occurrences = []) (i : Nat)
    (inside : i < occurrences.length) : Grounded occurrences i := by
  refine occurrence_induction occurrences (Grounded occurrences) .written (fun i name found first => ?_) .reused i inside
  -- There is no such occurrence: where its name comes up first there are coordinates behind it.
  obtain ⟨j, coords, written, before⟩ := first_written occurrences none name
    (List.mem_map.mpr ⟨_, List.mem_of_getElem? found, rfl⟩)
  rcases Nat.lt_trichotomy i j with below | rfl | above
  · exact absurd (by rw [found, Option.map_some]) (before i below)
  · cases found.symm.trans written
  · exact absurd (by rw [written, Option.map_some]) (first j above)

end Straightedge
