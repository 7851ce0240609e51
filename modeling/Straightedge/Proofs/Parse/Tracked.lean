import Straightedge.Proofs.Parse.Hereditary
import Straightedge.Proofs.Parse.Located
import Straightedge.Proofs.Parse.Track

namespace Straightedge

-- What can be told of a reading once it is known of single points: what a rule adds to the memory when it passes,
-- and what it leaves there when it halts. A point that breaks off has changed nothing.
structure Carries (jitter : Jitter) (adds leaves : Memory → List Token → List Token → Memory → Prop) : Prop where
  silent : ∀ memory text ahead, Silent text → adds memory text ahead memory
  point : ∀ (tree : Grammar.Point) memory ahead place later, tree.Clear (ahead.head?.map Token.value) →
    Memory.Places jitter memory tree.occurrence place later → adds memory tree.tokens ahead later
  both : ∀ memory between later front back ahead, adds memory front (back ++ ahead) between →
    adds between back ahead later → adds memory (front ++ back) ahead later
  pending : ∀ memory text ahead, completed text.length (text ++ ahead) = [] → leaves memory text ahead memory
  behind : ∀ memory between later front text ahead, adds memory front (text ++ ahead) between →
    leaves between text ahead later → leaves memory (front ++ text) ahead later

theorem completed_unread (text ahead : List Token) (silent : Silent text) : completed text.length (text ++ ahead) = [] :=
  (completed_silent text ahead 0 silent).trans (completed_nothing ahead)

namespace Rule

variable {α β : Type}

structure Follows (adds leaves : Memory → List Token → List Token → Memory → Prop) (rule : Rule α) (session : Session) : Prop where
  passes : ∀ value later, rule session = .ok value later → ∃ text, Crosses rule session text value later ∧
    adds session.memory text later.reader.remaining later.memory
  halts : ∀ error later, rule session = .error (.violation error) later → ∃ text ahead,
    Halts rule session text ahead error ∧ leaves session.memory text ahead later.memory

section

variable (adds leaves : Memory → List Token → List Token → Memory → Prop)

theorem follows_congr (rule other : Rule α) (session : Session)
    (same : ∀ around : Session, around.reader.remaining.head? = session.reader.remaining.head? → rule around = other around)
    (odd : ∀ offset tail, Balks rule session [] offset tail) (follows : Follows adds leaves other session) :
    Follows adds leaves rule session := by
  have here := same session rfl
  constructor
  · intro value later done
    rw [here] at done
    obtain ⟨text, crosses, added⟩ := follows.passes value later done
    exact ⟨text, crosses_congr _ _ _ _ _ _ same odd crosses, added⟩
  · intro error later stopped
    rw [here] at stopped
    obtain ⟨text, ahead, halts, left⟩ := follows.halts error later stopped
    exact ⟨text, ahead, halts_congr _ _ _ _ _ _ same odd halts, left⟩

-- A token that is looked at and refused is not consumed.
theorem follows_refuse (expected : Expectation) (rule : Rule α) (session : Session)
    (refuses : ∀ around : Session, around.reader.remaining.head? = session.reader.remaining.head? →
      rule around = .error (.violation (.unmet expected around.reader.peekSnapshot)) around)
    (odd : ∀ offset tail, Balks rule session [] offset tail)
    (nothing : leaves session.memory [] session.reader.remaining session.memory) : Follows adds leaves rule session := by
  have here := refuses session rfl
  constructor
  · intro value later done
    rw [here] at done
    cases done
  · intro error later stopped
    rw [here] at stopped
    cases stopped
    have seen : ∀ token ∈ session.reader.remaining.head?, session.reader.peekSnapshot = token.snapshot := by
      intro token head
      obtain ⟨rest, ahead⟩ := List.head?_eq_some_iff.mp head
      rw [Reader.peekSnapshot, ahead]
    refine ⟨[], session.reader.remaining, ⟨rfl, fun token head => ?_, fun token head tail => ?_, odd,
      fun _ none => (List.not_mem_nil none).elim⟩, nothing⟩
    · exact congrArg (SyntaxError.unmet expected) (seen token head)
    · rw [seen token head]
      exact ⟨_, refuses (session.facing (token :: tail)) (Option.mem_def.mp head).symm⟩

end

-- Points. An odd token in front is refused, whatever rule comes to it.

theorem balks_take (category : Category) (value : Option String) (known : category ≠ oddCategory) (session : Session)
    (offset : Int) (tail : List Token) : Balks (take (some category) value) session [] offset tail := by
  have unfit : ¬((some category).all (· == (oddToken offset).category) && value.all (· == (oddToken offset).value)) = true :=
    fun met => known (((fits_iff _ _ _).mp met).1 category rfl)
  have refused := take_cons (some category) value (session.facing ([] ++ oddToken offset :: tail)) (oddToken offset) tail rfl
  rw [if_neg unfit] at refused
  exact ⟨_, _, refused⟩

theorem balks_coords (session : Session) (offset : Int) (tail : List Token) : Balks coords session [] offset tail :=
  balks_first _ _ _ _ _ _ (balks_take _ _ Category.noConfusion session offset tail)

variable (jitter : Jitter)

-- The odd token is spelled like an opening bracket.
theorem balks_resolve (name : String) (session : Session) (offset : Int) (tail : List Token) :
    Balks (resolve jitter name) session [] offset tail := by
  rw [Balks, resolve_opened jitter name _ rfl]
  exact balks_coords session offset tail

theorem pends_resolve (name : String) (session : Session) : Follows (fun _ _ _ _ => True)
    (fun memory text ahead later => later = memory ∧ text.length < 5 ∧ Silent text ∧
      (text ++ ahead).head?.map Token.value = some Vocabulary.opening) (resolve jitter name) session := by
  by_cases opened : session.reader.remaining.head?.map Token.value = some Vocabulary.opening
  · refine follows_congr _ _ _ _ _ (fun around same => resolve_opened jitter name around (same ▸ opened))
      (balks_resolve jitter name session) ⟨fun place later done => ?_, fun error later stopped => ?_⟩
    · obtain ⟨_, text, _, _, crosses⟩ := plain_coords.passes session place later done
      exact ⟨text, crosses, trivial⟩
    · obtain ⟨kept, text, ahead, short, silent, halts⟩ := plain_coords.halts session error later stopped
      exact ⟨text, ahead, halts, kept, short, silent, halts.front ▸ opened⟩
  · refine follows_congr _ _ _ _ _ (fun around same => resolve_closed jitter name around (same ▸ opened))
      (balks_resolve jitter name session) ⟨fun place later done => ?_, fun error later stopped => ?_⟩
    · exact ⟨[], crosses_aside _ (aside_unwritten jitter name) _ _ _ done, trivial⟩
    · exact absurd stopped ((aside_unwritten jitter name).calm session error later)

-- A point that breaks off is not complete, and has changed nothing.
def Pending (memory : Memory) (text ahead : List Token) (later : Memory) : Prop :=
  later = memory ∧ completed text.length (text ++ ahead) = []

def pointBehind : Rule (Point Number) := do
  let name ← pointName
  let place ← resolve jitter name
  record name place
  return ⟨name, place⟩

theorem aside_recorded (name : String) (place : Coords Number) :
    Aside (do record name place; return ⟨name, place⟩ : Rule (Point Number)) :=
  aside_bind _ _ (aside_record name place) fun _ => aside_pure _

theorem plain_name : Plain pointName (fun token => token.category = .identifier) 1 :=
  plain_value .identifier _ Category.noConfusion fun _ same => same

theorem pends_behind (session : Session) : Follows (fun _ _ _ _ => True) Pending (pointBehind jitter) session := by
  constructor
  · intro point later done
    obtain ⟨name, named, passed, rest⟩ := (bind_ok _ _ _ _ _).mp done
    obtain ⟨place, placed, resolved, recorded⟩ := (bind_ok _ _ _ _ _).mp rest
    obtain ⟨_, front, _, _, frontCrosses⟩ := plain_name.passes session name named passed
    obtain ⟨back, backCrosses, _⟩ := (pends_resolve jitter name named).passes place placed resolved
    exact ⟨front ++ (back ++ []), crosses_both _ _ _ _ _ _ _ _ _ frontCrosses
      (crosses_both _ _ _ _ _ _ _ _ _ backCrosses (crosses_aside _ (aside_recorded name place) _ _ _ recorded)), trivial⟩
  · intro error later stopped
    rcases bind_error _ _ _ _ _ stopped with failed | ⟨name, named, passed, failed⟩
    · obtain ⟨kept, text, ahead, short, _, halts⟩ := plain_name.halts session error later failed
      obtain rfl : text = [] := List.length_eq_zero_iff.mp (Nat.lt_one_iff.mp short)
      exact ⟨[], ahead, halts_first _ _ _ _ _ _ halts, kept, completed_nothing ahead⟩
    · obtain ⟨kept, front, single, _, frontCrosses⟩ := plain_name.passes session name named passed
      obtain ⟨token, rfl⟩ := List.length_eq_one_iff.mp single
      rcases bind_error _ _ _ _ _ failed with broken | ⟨place, placed, _, impossible⟩
      · obtain ⟨text, ahead, halts, keptToo, short, silent, opened⟩ := (pends_resolve jitter name named).halts error later broken
        exact ⟨token :: text, ahead, halts_second _ _ _ _ _ _ _ _ _ frontCrosses (halts_first _ _ _ _ _ _ halts),
          keptToo.trans kept, completed_waiting token text ahead silent short opened⟩
      · exact absurd impossible ((aside_recorded name place).calm placed error later)

theorem pends_marked (session : Session) : Follows (fun _ _ _ _ => True) Pending
    ((do let _ ← keyword .point : Rule Unit) >>= fun _ => pointBehind jitter) session := by
  have mark : Plain (do let _ ← keyword .point : Rule Unit) (fun token => token.category ≠ .identifier) 1 :=
    plain_bind _ _ _ 1 0 (plain_keyword .point) fun _ => plain_pure _ _
  constructor
  · intro point later done
    obtain ⟨word, marked, passed, rest⟩ := (bind_ok _ _ _ _ _).mp done
    obtain ⟨_, front, _, _, frontCrosses⟩ := mark.passes session word marked passed
    obtain ⟨back, backCrosses, _⟩ := (pends_behind jitter marked).passes point later rest
    exact ⟨front ++ back, crosses_both _ _ _ _ _ _ _ _ _ frontCrosses backCrosses, trivial⟩
  · intro error later stopped
    rcases bind_error _ _ _ _ _ stopped with failed | ⟨word, marked, passed, failed⟩
    · obtain ⟨kept, text, ahead, _, silent, halts⟩ := mark.halts session error later failed
      exact ⟨text, ahead, halts_first _ _ _ _ _ _ halts, kept, completed_unread text ahead silent⟩
    · obtain ⟨kept, front, _, silent, frontCrosses⟩ := mark.passes session word marked passed
      obtain ⟨text, ahead, halts, keptToo, nothing⟩ := (pends_behind jitter marked).halts error later failed
      refine ⟨front ++ text, ahead, halts_second _ _ _ _ _ _ _ _ _ frontCrosses halts, keptToo.trans kept, ?_⟩
      rw [List.length_append, List.append_assoc, completed_silent front _ _ silent, nothing]

theorem balks_point (session : Session) (offset : Int) (tail : List Token) : Balks (point jitter) session [] offset tail := by
  refine balks_first _ _ _ _ _ _ ⟨.pointDefinition, _, mark_refused _ ?_⟩
  rintro ⟨_, ⟨⟩, spelled | named⟩
  · exact absurd (show "(" = "POINT" from spelled) (by decide)
  · cases named

theorem pends_point (session : Session) : Follows (fun _ _ _ _ => True) Pending (point jitter) session := by
  have odd := balks_point jitter session
  by_cases starts : ∃ token ∈ session.reader.remaining.head?, token.value = Keyword.point.spelling ∨ token.category = .identifier
  · obtain ⟨token, head, fine⟩ := starts
    by_cases spelled : token.value = Keyword.point.spelling
    · refine follows_congr _ _ _ _ _ (fun around same => ?_) odd (pends_marked jitter session)
      have front : around.reader.remaining.head?.map Token.value = some Keyword.point.spelling := by
        rw [same, Option.mem_def.mp head, Option.map_some, spelled]
      exact bind_same _ _ _ _ (mark_spelled around front)
    · exact follows_congr _ _ _ _ _ (fun around same =>
        bind_passed _ _ _ _ _ (mark_absent around token (same.trans head) spelled (fine.resolve_left spelled))) odd
        (pends_behind jitter session)
  · exact follows_refuse _ _ .pointDefinition _ _ (fun around same =>
      bind_failed _ _ _ _ _ (mark_refused around (same ▸ starts))) odd ⟨rfl, completed_nothing _⟩

theorem plain_note (event : Event) : Plain (note event) (fun token => token.category ≠ .identifier) 0 := by
  refine plain_aside _ _ (aside_note event) fun session value later done => ?_
  cases done
  rfl

theorem plain_table_size : Plain tableSize (fun token => token.category ≠ .identifier) 0 := by
  refine plain_aside _ _ aside_table_size fun session value later done => ?_
  cases done
  rfl

theorem unworded_odd (offset : Int) : Keyword.ofSpelling? (oddToken offset).value = none := by
  have spelled : (oddToken offset).value = "(" := rfl
  rw [spelled]
  decide

theorem front_keyword_odd (session : Session) (offset : Int) (tail : List Token) :
    frontKeyword? (session.facing ([] ++ oddToken offset :: tail)) = .ok none (session.facing ([] ++ oddToken offset :: tail)) := by
  rw [front_keyword_seen]
  exact congrArg (EStateM.Result.ok · _) (unworded_odd offset)

theorem plain_operator : Plain operator (fun token => token.category ≠ .identifier) 1 :=
  plain_value .operator _ Category.noConfusion fun _ same => same ▸ Category.noConfusion

theorem balks_commands (session : Session) (offset : Int) (tail : List Token) : Balks (commands jitter) session [] offset tail := by
  have unfinished : (session.facing ([] ++ oddToken offset :: tail)).reader.remaining ≠ [] := List.cons_ne_nil _ _
  have refused := balks_take .operator none Category.noConfusion session offset tail
  obtain ⟨expected, last, stopped⟩ :=
    balks_first (command jitter) (fun first => do let rest ← commands jitter; return first :: rest) _ _ _ _
      (balks_first _ _ _ _ _ _ (balks_first _ _ _ _ _ _ refused))
  exact ⟨expected, last, (commands_step jitter _ unfinished).trans stopped⟩

theorem follows_ahead (adds leaves : Memory → List Token → List Token → Memory → Prop)
    (next : Option Keyword → Rule α) (expected : Expectation) (refuses : next none = (peekSnapshot >>= fail expected))
    (session : Session)
    (tail : Follows adds leaves (next ((session.reader.remaining.head?.map Token.value).bind Keyword.ofSpelling?)) session) :
    Follows adds leaves (frontKeyword? >>= next) session := by
  refine follows_congr _ _ _ _ session (fun around same => ?_) (fun offset rest => ?_) tail
  · rw [bind_passed _ _ _ _ _ (front_keyword_seen around), same]
  · rw [Balks, bind_passed _ _ _ _ _ (front_keyword_odd session offset rest), refuses]
    exact ⟨expected, _, rfl⟩

variable {jitter : Jitter} {adds leaves : Memory → List Token → List Token → Memory → Prop}
  (carries : Carries jitter adds leaves)

include carries

theorem follows_point (session : Session) : Follows adds leaves (point jitter) session := by
  constructor
  · intro value later done
    obtain ⟨text, crosses, _⟩ := (pends_point jitter session).passes value later done
    obtain ⟨tree, ahead, clear, placed⟩ := (realizes_point jitter).sound session value later done
    have remaining : session.reader.remaining = tree.tokens ++ later.reader.remaining := ahead
    obtain rfl : text = tree.tokens := List.append_cancel_right (crosses.passes.remaining.symm.trans remaining)
    exact ⟨tree.tokens, crosses, carries.point tree _ _ value _ clear placed⟩
  · intro error later stopped
    obtain ⟨text, ahead, halts, kept, nothing⟩ := (pends_point jitter session).halts error later stopped
    rw [kept]
    exact ⟨text, ahead, halts, carries.pending _ _ _ nothing⟩

theorem follows_bind (rule : Rule α) (next : α → Rule β) (session : Session) (head : Follows adds leaves rule session)
    (tail : ∀ value later, rule session = .ok value later → Follows adds leaves (next value) later) :
    Follows adds leaves (rule >>= next) session := by
  constructor
  · intro result later done
    obtain ⟨value, between, passed, rest⟩ := (bind_ok rule next session later result).mp done
    obtain ⟨front, frontCrosses, frontAdds⟩ := head.passes value between passed
    obtain ⟨back, backCrosses, backAdds⟩ := (tail value between passed).passes result later rest
    rw [backCrosses.passes.remaining] at frontAdds
    exact ⟨front ++ back, crosses_both _ _ _ _ _ _ _ _ _ frontCrosses backCrosses,
      carries.both _ _ _ _ _ _ frontAdds backAdds⟩
  · intro error later stopped
    rcases bind_error rule next session later _ stopped with failed | ⟨value, between, passed, failed⟩
    · obtain ⟨text, ahead, halts, left⟩ := head.halts error later failed
      exact ⟨text, ahead, halts_first _ _ _ _ _ _ halts, left⟩
    · obtain ⟨front, frontCrosses, frontAdds⟩ := head.passes value between passed
      obtain ⟨text, ahead, halts, left⟩ := (tail value between passed).halts error later failed
      rw [halts.front] at frontAdds
      exact ⟨front ++ text, ahead, halts_second _ _ _ _ _ _ _ _ _ frontCrosses halts,
        carries.behind _ _ _ _ _ _ frontAdds left⟩

theorem follows_plain (rule : Rule α) (count : Nat) (plain : Plain rule (fun token => token.category ≠ .identifier) count)
    (session : Session) : Follows adds leaves rule session := by
  constructor
  · intro value later done
    obtain ⟨kept, text, _, silent, crosses⟩ := plain.passes session value later done
    rw [kept]
    exact ⟨text, crosses, carries.silent _ _ _ silent⟩
  · intro error later stopped
    obtain ⟨kept, text, ahead, _, silent, halts⟩ := plain.halts session error later stopped
    rw [kept]
    exact ⟨text, ahead, halts, carries.pending _ _ _ (completed_unread text ahead silent)⟩

theorem follows_pure (value : α) (session : Session) : Follows adds leaves (pure value : Rule α) session :=
  follows_plain carries _ 0 (plain_pure value _) session

theorem follows_fail (expected : Expectation) (session : Session) :
    Follows adds leaves (peekSnapshot >>= fail expected : Rule α) session :=
  follows_refuse _ _ expected _ session (fun _ _ => rfl) (fun _ _ => ⟨expected, _, rfl⟩)
    (carries.pending _ _ _ (completed_nothing _))

theorem follows_hereditary : Hereditary jitter fun rule session => Follows adds leaves rule session where
  value := follows_pure carries
  both := follows_bind carries
  point := follows_point carries
  word _ := follows_plain carries _ 1 (plain_keyword _)
  operator := follows_plain carries _ 1 plain_operator
  terminator := follows_plain carries _ 1 (plain_separator _)
  noted event := follows_plain carries _ 0 (plain_note event)
  counted := follows_plain carries _ 0 plain_table_size
  refused := follows_fail carries
  picked := follows_ahead adds leaves
  ended session nothing := by
    refine follows_congr _ _ _ (pure []) session (fun around same => ?_) (balks_commands jitter session)
      (follows_pure carries [] session)
    rw [nothing] at same
    exact commands_end jitter around (List.head?_eq_none_iff.mp same)
  more session unfinished rest := by
    refine follows_congr _ _ _ _ session (fun around same => commands_step jitter around fun none => unfinished ?_)
      (balks_commands jitter session) rest
    rw [none] at same
    exact List.head?_eq_none_iff.mp same.symm

theorem follows_drawing (session : Session) : Follows adds leaves (drawing jitter) session :=
  hereditary_drawing (follows_hereditary carries) session

end Rule

end Straightedge
