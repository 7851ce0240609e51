import Mathlib.Data.List.Basic
import Mathlib.Data.List.Induction
import Straightedge.Proofs.Place.Memory

namespace Straightedge

def latest? (name : String) (earlier : List (Point Number)) : Option (Coords Number) :=
  (earlier.reverse.find? fun point => point.name == name).map Point.coords

-- Every name at the place where it came up first, with its latest coordinates.
def digest (earlier : List (Point Number)) : Table :=
  (earlier.map Point.name).eraseDups.filterMap fun name => (latest? name earlier).map (name, ·)

def runningAverage (count : Nat) (average : Number) : List Number → Except Overflow Number
  | [] => .ok average
  | value :: rest => do runningAverage (count + 1) (← (← average.add value).dividedBy (count + 1)) rest

def Inferred (values : List Number) (offset : Int) (result : Number) : Prop :=
  (do (← runningAverage 0 (.integer 0) values).add (.integer offset)) = .ok result

inductive PlacedBy (jitter : Jitter) (draws : Nat) (earlier : List (Point Number)) :
    Occurrence → Coords Number → Prop where
  | written (name : String) (coords : Coords Number) : PlacedBy jitter draws earlier ⟨name, some coords⟩ coords
  | known (name : String) (coords : Coords Number) (found : latest? name earlier = some coords) :
      PlacedBy jitter draws earlier ⟨name, none⟩ coords
  | inferred (name : String) (coords : Coords Number) (new : latest? name earlier = none)
      (x : Inferred ((digest earlier).map fun entry => entry.2.x) (jitter.draw draws Jitter.bounds) coords.x)
      (y : Inferred ((digest earlier).map fun entry => entry.2.y) (jitter.draw (draws + 1) Jitter.bounds) coords.y) :
      PlacedBy jitter draws earlier ⟨name, none⟩ coords

def Occurrence.isNew (occurrence : Occurrence) (earlier : List Occurrence) : Bool :=
  occurrence.written?.isNone && !(earlier.any fun other => other.name == occurrence.name)

def newAmong (occurrences : List Occurrence) (count : Nat) : Nat :=
  (List.range count).countP fun i => occurrences[i]?.any fun occurrence => occurrence.isNew (occurrences.take i)

def bareNames (occurrences : List Occurrence) : List String :=
  (occurrences.map Occurrence.name).eraseDups.filter fun name =>
    (occurrences.find? fun occurrence => occurrence.name == name).any fun occurrence => occurrence.written?.isNone

-- The table is the digest of the points that were recorded.

theorem names_cons (key : String) (coords : Coords Number) (rest : Table) :
    Table.names ((key, coords) :: rest) = key :: rest.names := rfl

theorem names_record (table : Table) (name : String) (coords : Coords Number) :
    (table.record name coords).names = if name ∈ table.names then table.names else table.names ++ [name] := by
  induction table with
  | nil => rfl
  | cons entry rest ih =>
      obtain ⟨key, old⟩ := entry
      by_cases same : key = name
      · rw [Table.record, if_pos same, names_cons, names_cons, if_pos (List.mem_cons.mpr (.inl same.symm))]
      · rw [Table.record, if_neg same, names_cons, names_cons, ih]
        have other : name ≠ key := fun reversed => same reversed.symm
        by_cases known : name ∈ Table.names rest
        · rw [if_pos known, if_pos (List.mem_cons_of_mem _ known)]
        · have absent : name ∉ key :: Table.names rest := fun inside =>
            known ((List.mem_cons.mp inside).resolve_left other)
          rw [if_neg known, if_neg absent]
          rfl

theorem first_names_append (names : List String) (name : String) :
    (names ++ [name]).eraseDups = if name ∈ names then names.eraseDups else names.eraseDups ++ [name] := by
  rw [List.eraseDups_append]
  by_cases known : name ∈ names
  · have removed : [name].removeAll names = [] := by simp [List.removeAll, known]
    rw [removed, if_pos known, List.eraseDups_nil, List.append_nil]
  · have kept : [name].removeAll names = [name] := by simp [List.removeAll, known]
    rw [kept, if_neg known]
    rfl

theorem table_from_names (table : Table) (distinct : table.names.Nodup) :
    table = table.names.filterMap fun name => (table.find? name).map (name, ·) := by
  induction table with
  | nil => rfl
  | cons entry rest ih =>
      obtain ⟨key, coords⟩ := entry
      obtain ⟨absent, restDistinct⟩ := List.nodup_cons.mp distinct
      have found : Table.find? key ((key, coords) :: rest) = some coords := by simp [Table.find?]
      have others : (Table.names rest).filterMap (fun name => (Table.find? name ((key, coords) :: rest)).map (name, ·)) =
          (Table.names rest).filterMap fun name => (Table.find? name rest).map (name, ·) := by
        apply List.filterMap_congr
        intro name inside
        have different : key ≠ name := fun same => absent (same ▸ inside)
        rw [Table.find?, if_neg different]
      rw [names_cons, List.filterMap_cons, found,
        others, ← ih restDistinct]
      rfl

structure Records (earlier : List (Point Number)) (table : Table) : Prop where
  names : table.names = (earlier.map Point.name).eraseDups
  latest : ∀ name, table.find? name = latest? name earlier
  distinct : table.names.Nodup

theorem records_empty : Records [] [] := ⟨rfl, fun _ => rfl, List.nodup_nil⟩

theorem records_digest (earlier : List (Point Number)) (table : Table) (records : Records earlier table) :
    table = digest earlier := by
  rw [table_from_names table records.distinct, digest, records.names]
  simp only [records.latest]

theorem latest_append (name : String) (earlier : List (Point Number)) (point : Point Number) :
    latest? name (earlier ++ [point]) = if point.name = name then some point.coords else latest? name earlier := by
  rw [latest?, List.reverse_append, List.reverse_singleton, List.singleton_append, List.find?_cons]
  by_cases same : point.name = name
  · simp [same]
  · have other : (point.name == name) = false := beq_false_of_ne same
    simp [other, same, latest?]

theorem records_append (earlier : List (Point Number)) (table : Table) (point : Point Number)
    (records : Records earlier table) : Records (earlier ++ [point]) (table.record point.name point.coords) := by
  have inside : point.name ∈ table.names ↔ point.name ∈ earlier.map Point.name := by
    rw [records.names, List.mem_eraseDups]
  constructor
  · rw [names_record, List.map_append, List.map_singleton, first_names_append, ← records.names]
    simp only [inside]
  · intro name
    rw [latest_append]
    by_cases same : point.name = name
    · rw [if_pos same, ← same, Table.find_record_same]
    · rw [if_neg same, ← records.latest, Table.find_record_other _ _ _ _ (Ne.symm same)]
  · rw [names_record]
    by_cases known : point.name ∈ table.names
    · rw [if_pos known]
      exact records.distinct
    · rw [if_neg known]
      exact List.nodup_append.mpr ⟨records.distinct, by simp, by
        intro a inTable b single same
        rw [List.mem_singleton.mp single] at same
        exact known (same ▸ inTable)⟩

theorem except_bind_ok {α β ε : Type} (first : Except ε α) (next : α → Except ε β) (result : β) :
    (first >>= next) = .ok result ↔ ∃ value, first = .ok value ∧ next value = .ok result := by
  cases first with
  | error error =>
      constructor
      · intro done
        cases done
      · rintro ⟨_, impossible, _⟩
        cases impossible
  | ok value =>
      constructor
      · intro done
        exact ⟨value, rfl, done⟩
      · rintro ⟨_, same, done⟩
        cases same
        exact done

theorem average_from_axes (count : Nat) (average near : Coords Number) (table : Table) :
    Table.averageFrom count average table = .ok near ↔
      runningAverage count average.x (table.map fun entry => entry.2.x) = .ok near.x ∧
        runningAverage count average.y (table.map fun entry => entry.2.y) = .ok near.y := by
  induction table generalizing count average with
  | nil =>
      obtain ⟨x, y⟩ := average
      obtain ⟨x', y'⟩ := near
      simp [Table.averageFrom, runningAverage]
  | cons entry rest ih =>
      simp only [Table.averageFrom, List.map_cons, runningAverage, except_bind_ok, ih]
      constructor
      · rintro ⟨xSum, xAdded, x, xDivided, ySum, yAdded, y, yDivided, xRest, yRest⟩
        exact ⟨⟨xSum, xAdded, x, xDivided, xRest⟩, ⟨ySum, yAdded, y, yDivided, yRest⟩⟩
      · rintro ⟨⟨xSum, xAdded, x, xDivided, xRest⟩, ⟨ySum, yAdded, y, yDivided, yRest⟩⟩
        exact ⟨xSum, xAdded, x, xDivided, ySum, yAdded, y, yDivided, xRest, yRest⟩

theorem moved_inferred (table : Table) (near coords : Coords Number) (xOffset yOffset : Int)
    (averaged : table.average = .ok near) (xMoved : near.x.add (.integer xOffset) = .ok coords.x)
    (yMoved : near.y.add (.integer yOffset) = .ok coords.y) :
    Inferred (table.map fun entry => entry.2.x) xOffset coords.x ∧
      Inferred (table.map fun entry => entry.2.y) yOffset coords.y := by
  obtain ⟨xAverage, yAverage⟩ := (average_from_axes _ _ _ _).mp averaged
  exact ⟨(except_bind_ok _ _ _).mpr ⟨near.x, xAverage, xMoved⟩, (except_bind_ok _ _ _).mpr ⟨near.y, yAverage, yMoved⟩⟩

theorem latest_none (name : String) (earlier : List (Point Number)) :
    latest? name earlier = none ↔ name ∉ earlier.map Point.name := by
  simp [latest?]

theorem is_new (name : String) (written? : Option (Coords Number)) (earlier : List Occurrence) :
    Occurrence.isNew ⟨name, written?⟩ earlier = (written?.isNone && !decide (name ∈ earlier.map Occurrence.name)) := by
  rw [Occurrence.isNew, List.any_eq]
  simp [List.mem_map]

theorem settles_by_history (jitter : Jitter) (memory : Memory) (earlier : List Occurrence)
    (points : List (Point Number)) (occurrence : Occurrence) (coords : Coords Number) (requests : List Bounds)
    (aligned : points.map Point.name = earlier.map Occurrence.name) (records : Records points memory.table)
    (settled : Memory.Settles jitter memory occurrence coords requests) :
    PlacedBy jitter memory.requests.length points occurrence coords ∧
      requests = memory.requests ++ if occurrence.isNew earlier then [Jitter.bounds, Jitter.bounds] else [] := by
  cases settled with
  | written name =>
      refine ⟨.written name coords, ?_⟩
      rw [is_new, Option.isNone_some, Bool.false_and, if_neg Bool.false_ne_true, List.append_nil]
  | known name _ found =>
      rw [records.latest] at found
      refine ⟨.known name coords found, ?_⟩
      have old : name ∈ earlier.map Occurrence.name := by
        rw [← aligned]
        by_contra absent
        rw [(latest_none name points).mpr absent] at found
        cases found
      rw [is_new, decide_eq_true old, Bool.not_true, Bool.and_false, if_neg Bool.false_ne_true, List.append_nil]
  | inferred name near _ new averaged xMoved yMoved =>
      rw [records.latest] at new
      obtain ⟨x, y⟩ := moved_inferred _ _ _ _ _ averaged xMoved yMoved
      rw [records_digest points memory.table records] at x y
      refine ⟨.inferred name coords new x y, ?_⟩
      have absent : name ∉ earlier.map Occurrence.name := by
        rw [← aligned]
        exact (latest_none name points).mp new
      rw [is_new, decide_eq_false absent, Bool.not_false, Bool.and_true, Option.isNone_none, if_pos rfl]

theorem places_step (jitter : Jitter) (memory later : Memory) (earlier : List Occurrence)
    (points : List (Point Number)) (occurrence : Occurrence) (point : Point Number)
    (aligned : points.map Point.name = earlier.map Occurrence.name) (records : Records points memory.table)
    (placed : Memory.Places jitter memory occurrence point later) :
    point.name = occurrence.name ∧ PlacedBy jitter memory.requests.length points occurrence point.coords ∧
      Records (points ++ [point]) later.table ∧
      later.requests = memory.requests ++
        if occurrence.isNew earlier then [Jitter.bounds, Jitter.bounds] else [] := by
  obtain ⟨named, settled, tableSame⟩ := placed
  obtain ⟨placedBy, requestsSame⟩ := settles_by_history jitter memory earlier points occurrence point.coords
    later.requests aligned records settled
  refine ⟨named, placedBy, ?_, requestsSame⟩
  rw [tableSame]
  exact records_append points memory.table point records

theorem new_among_succ (occurrences : List Occurrence) (count : Nat) (occurrence : Occurrence)
    (found : occurrences[count]? = some occurrence) :
    newAmong occurrences (count + 1) =
      newAmong occurrences count + if occurrence.isNew (occurrences.take count) then 1 else 0 := by
  rw [newAmong, List.range_succ, List.countP_append, List.countP_singleton, found, Option.any_some]
  rfl

theorem places_all_run (jitter : Jitter) (before after : List Occurrence) (earlier points : List (Point Number))
    (memory later : Memory) (aligned : earlier.map Point.name = before.map Occurrence.name)
    (records : Records earlier memory.table)
    (requests : memory.requests = List.replicate (2 * newAmong (before ++ after) before.length) Jitter.bounds)
    (placed : Memory.PlacesAll jitter memory after points later) :
    points.map Point.name = after.map Occurrence.name ∧ Records (earlier ++ points) later.table ∧
      later.requests = List.replicate (2 * newAmong (before ++ after) (before ++ after).length) Jitter.bounds ∧
      ∀ (i : Nat) occurrence point, after[i]? = some occurrence → points[i]? = some point →
        PlacedBy jitter (2 * newAmong (before ++ after) (before.length + i)) (earlier ++ points.take i) occurrence
          point.coords := by
  induction placed generalizing before earlier with
  | nil memory =>
      rw [List.append_nil] at requests ⊢
      rw [List.append_nil]
      exact ⟨rfl, records, requests, fun i occurrence point none => by cases none⟩
  | cons memory between later occurrence point after points first _ ih =>
      obtain ⟨named, placedBy, recorded, requested⟩ :=
        places_step jitter memory between before earlier occurrence point aligned records first
      have here : (before ++ occurrence :: after)[before.length]? = some occurrence := by simp
      have counted := new_among_succ (before ++ occurrence :: after) before.length occurrence here
      rw [List.take_left] at counted
      have moved : before ++ occurrence :: after = before ++ [occurrence] ++ after := by simp
      have alignedNext : (earlier ++ [point]).map Point.name = (before ++ [occurrence]).map Occurrence.name := by
        simp [aligned, named]
      have requestsNext : between.requests =
          List.replicate (2 * newAmong (before ++ [occurrence] ++ after) (before ++ [occurrence]).length)
            Jitter.bounds := by
        rw [← moved, List.length_append, List.length_singleton, counted, requested, requests]
        cases occurrence.isNew before with
        | false => simp
        | true => simp [Nat.mul_add, List.replicate_add]
      obtain ⟨names, tableLater, requestsLater, each⟩ := ih (before ++ [occurrence]) (earlier ++ [point])
        alignedNext recorded requestsNext
      have extended (rest : List (Point Number)) : earlier ++ [point] ++ rest = earlier ++ point :: rest := by simp
      rw [extended] at tableLater
      rw [← moved] at requestsLater
      refine ⟨by rw [List.map_cons, List.map_cons, named, names], tableLater, requestsLater, ?_⟩
      intro i other place found foundPlace
      cases i with
      | zero =>
          cases found
          cases foundPlace
          rw [requests, List.length_replicate] at placedBy
          rw [List.take_zero, List.append_nil]
          exact placedBy
      | succ i =>
          have later := each i other place found foundPlace
          rw [← moved, extended, List.length_append, List.length_singleton] at later
          rw [List.take_succ_cons, Nat.add_comm i 1, ← Nat.add_assoc]
          exact later

theorem new_among_append (occurrences more : List Occurrence) (count : Nat) (inside : count ≤ occurrences.length) :
    newAmong (occurrences ++ more) count = newAmong occurrences count := by
  apply List.countP_congr
  intro i below
  have lower : i < occurrences.length := Nat.lt_of_lt_of_le (List.mem_range.mp below) inside
  rw [List.getElem?_append_left lower, List.take_append_of_le_length (Nat.le_of_lt lower)]

theorem bare_names_append (occurrences : List Occurrence) (occurrence : Occurrence) :
    (bareNames (occurrences ++ [occurrence])).length =
      (bareNames occurrences).length + if occurrence.isNew occurrences then 1 else 0 := by
  have unchanged : (occurrences.map Occurrence.name).eraseDups.filter (fun name =>
      ((occurrences ++ [occurrence]).find? fun other => other.name == name).any fun other => other.written?.isNone) =
        bareNames occurrences := by
    apply List.filter_congr
    intro name inside
    obtain ⟨other, among, same⟩ := List.mem_map.mp (List.mem_eraseDups.mp inside)
    have first : (occurrences.find? fun other => other.name == name).isSome = true :=
      List.find?_isSome.mpr ⟨other, among, beq_iff_eq.mpr same⟩
    rw [List.find?_append, Option.or_of_isSome first]
  obtain ⟨name, written?⟩ := occurrence
  rw [is_new, bareNames, List.map_append, List.map_singleton, first_names_append]
  by_cases known : name ∈ occurrences.map Occurrence.name
  · rw [if_pos known, unchanged]
    simp [known]
  · have alone : (occurrences ++ [Occurrence.mk name written?]).find? (fun other => other.name == name) =
        some ⟨name, written?⟩ := by
      have none : occurrences.find? (fun other => other.name == name) = none := by
        rw [List.find?_eq_none]
        intro other among same
        exact known (List.mem_map.mpr ⟨other, among, beq_iff_eq.mp same⟩)
      rw [List.find?_append, none]
      simp
    rw [if_neg known, List.filter_append, unchanged, List.length_append, List.filter_singleton, alone]
    cases written? <;> simp [known]

theorem new_among_all (occurrences : List Occurrence) :
    newAmong occurrences occurrences.length = (bareNames occurrences).length := by
  induction occurrences using List.reverseRecOn with
  | nil => rfl
  | append_singleton occurrences occurrence ih =>
      have last : (occurrences ++ [occurrence])[occurrences.length]? = some occurrence := by simp
      rw [List.length_append, List.length_singleton, new_among_succ _ _ _ last, List.take_left,
        new_among_append _ _ _ (Nat.le_refl _), ih, bare_names_append]

theorem placed_from_start (jitter : Jitter) (occurrences : List Occurrence) (points : List (Point Number))
    (later : Memory) (placed : Memory.PlacesAll jitter Memory.empty occurrences points later) :
    points.map Point.name = occurrences.map Occurrence.name ∧
      (∀ (i : Nat) occurrence point, occurrences[i]? = some occurrence → points[i]? = some point →
        PlacedBy jitter (2 * newAmong occurrences i) (points.take i) occurrence point.coords) ∧
      later.requests = List.replicate (2 * (bareNames occurrences).length) Jitter.bounds ∧
      later.table = digest points := by
  obtain ⟨names, records, requests, each⟩ := places_all_run jitter [] occurrences [] points Memory.empty later rfl
    records_empty rfl placed
  rw [List.nil_append, new_among_all] at requests
  refine ⟨names, fun i occurrence point found foundPoint => ?_, requests, records_digest _ _ records⟩
  have placedBy := each i occurrence point found foundPoint
  rwa [List.nil_append, List.nil_append, List.length_nil, Nat.zero_add] at placedBy

end Straightedge
