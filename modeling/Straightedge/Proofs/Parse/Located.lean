import Straightedge.Proofs.Parse.Drawing
import Straightedge.Proofs.Parse.Locate

namespace Straightedge

open Grammar (Fixed Free Numeral Word Sign)

instance : Nonempty Token := ⟨⟨.identifier, "", 0⟩⟩

instance : Nonempty Number := ⟨.integer 0⟩

instance : Nonempty (Coords Number) := ⟨⟨.integer 0, .integer 0⟩⟩

instance : Nonempty (Point Number) := ⟨⟨"", ⟨.integer 0, .integer 0⟩⟩⟩

instance : Nonempty (Line Number) := ⟨⟨.line, Classical.arbitrary _, Classical.arbitrary _⟩⟩

instance : Nonempty (Figure Number) := ⟨.point (Classical.arbitrary _)⟩

theorem keyword_lexed (word : Keyword) : tokenize word.spelling = .ok [⟨.keyword, word.spelling, 0⟩] := by
  cases word <;> decide +kernel

theorem word_orderly (word : Keyword) (offset : Int) : (Token.mk .keyword word.spelling offset).Orderly :=
  ⟨fun _ _ => rfl, fun same => absurd (congrArg some same) (Grammar.spelling_closed word)⟩

theorem name_lexed : tokenize "A" = .ok [⟨.identifier, "A", 0⟩] := by decide +kernel

namespace Rule

theorem located_fixed (category : Category) (value : String) (lexed : tokenize value = .ok [⟨category, value, 0⟩]) :
    Located (take (some category) (some value)) (Phrase fun fixed : Fixed category value => [fixed.token]) := by
  have sample : Fits (some category) (some value) ⟨category, value, 0⟩ := by
    constructor <;> (rintro _ ⟨⟩; rfl)
  refine located_mono _ _ _ ?_ (located_take _ _ value _ lexed sample)
  rintro _ ⟨⟨_, _, offset⟩, rfl, categorySame, valueSame⟩
  cases categorySame category rfl
  cases valueSame value rfl
  exact ⟨⟨offset⟩, rfl⟩

theorem located_free (category : Category) (value : String) (lexed : tokenize value = .ok [⟨category, value, 0⟩]) :
    Located (do return (← take (some category) none).value : Rule String)
      (Phrase fun free : Free category => [free.token]) := by
  have sample : Fits (some category) none ⟨category, value, 0⟩ := by
    constructor
    · rintro _ ⟨⟩
      rfl
    · rintro _ ⟨⟩
  refine located_mono _ _ _ ?_ (located_bind _ _ _ _ (located_take _ _ value _ lexed sample) fun _ =>
    located_aside _ (aside_pure _))
  rintro _ ⟨_, _, rfl, ⟨⟨_, value, offset⟩, rfl, categorySame, _⟩, rfl⟩
  cases categorySame category rfl
  exact ⟨⟨value, offset⟩, rfl⟩

theorem located_word (word : Keyword) :
    Located (keyword word) (Phrase fun found : Word word => [found.token]) :=
  located_fixed _ _ (keyword_lexed word)

theorem located_sign (mark : String) (lexed : tokenize mark = .ok [⟨.separator, mark, 0⟩]) :
    Located (separator mark) (Phrase fun found : Sign mark => [found.token]) :=
  located_fixed _ _ lexed

theorem zero_denotes (offset : Int) : Grammar.Denotes ⟨.integerLiteral, "0", offset⟩ (.integer 0) :=
  .integer "0" offset 0 (by decide) (by decide +kernel)

theorem begins_number : Begins (Phrase fun numeral : Numeral => [numeral.token]) [] ∧
    Asks (Phrase fun numeral : Numeral => [numeral.token]) [] .number := by
  have lexed : tokenize "0" = .ok [⟨.integerLiteral, "0", 0⟩] := by decide +kernel
  refine ⟨⟨_, ⟨⟨_, _, zero_denotes 0⟩, rfl⟩, tokenize_disciplined _ _ lexed⟩,
    ⟨"0", _, lexed, _, (number_denotes _ _).mpr (zero_denotes 0)⟩, ?_⟩
  rintro token _ ⟨value, found⟩
  exact ⟨[], ⟨⟨token, value, (number_denotes token value).mp found⟩, rfl⟩, fun _ none => (List.not_mem_nil none).elim⟩

-- A number is read behind a bracket or a comma only.
theorem locates_number (session : Session) (led : ∃ mark ∈ session.reader.consumed.head?, mark.Leads) :
    Locates number (Phrase fun numeral : Numeral => [numeral.token]) session := by
  obtain ⟨possible, asks⟩ := begins_number
  refine locates_next _ _ session possible (fun ended => ⟨.token none none, ⟨asks.sample, asks.follows⟩, fun _ => led,
    bind_failed _ _ _ _ _ (take_end none none session ended)⟩) fun token => ?_
  have taken : ∀ rest, take none none (session.facing (token :: rest)) =
      .ok token { session with reader := ⟨token :: session.reader.consumed, rest⟩ } :=
    fun rest => take_cons none none _ token rest rfl
  cases found : token.number? with
  | some value =>
      refine .inl ⟨value, ⟨⟨token, value, (number_denotes token value).mp found⟩, rfl⟩, fun rest => ?_⟩
      rw [number, bind_passed _ _ _ _ _ (taken rest), found]
      rfl
  | none =>
      refine .inr ⟨.number, asks, fun same => (by cases same), number_not_peeks, fun rest => ?_⟩
      rw [number, bind_passed _ _ _ _ _ (taken rest), found]
      rfl

theorem separator_leads (mark : String) (leading : mark = Vocabulary.opening ∨ mark = Vocabulary.comma)
    (session later : Session) (token : Token) (done : separator mark session = .ok token later) :
    ∃ mark ∈ later.reader.consumed.head?, mark.Leads := by
  cases ahead : session.reader.remaining with
  | nil =>
      rw [separator, take_end _ _ session ahead] at done
      cases done
  | cons front rest =>
      rw [separator, take_cons _ _ session front rest ahead] at done
      split at done
      · rename_i fits
        obtain ⟨category, value⟩ := (fits_iff _ _ _).mp fits
        cases done
        exact ⟨token, rfl, (category _ rfl).symm, value mark rfl ▸ leading⟩
      · cases done

theorem located_coords : Located coords (Phrase Grammar.Coords.tokens) := by
  have opening := located_sign Vocabulary.opening (by decide +kernel)
  have comma := located_sign Vocabulary.comma (by decide +kernel)
  have closing := located_sign Vocabulary.closing (by decide +kernel)
  have finish (x y : Number) : Located (do let _ ← separator Vocabulary.closing; return ⟨x, y⟩ : Rule (Coords Number)) _ :=
    located_bind _ _ _ _ closing fun _ => located_aside _ (aside_pure _)
  have zero := finish (.integer 0) (.integer 0)
  -- What may stand behind a bracket or a comma, and the two together with a number.
  have afterComma := begins_joined _ _ [] begins_number.1 zero.possible
  have afterX := begins_joined _ _ [] comma.possible afterComma
  have afterOpening := begins_joined _ _ [] begins_number.1 afterX
  refine located_mono _ (Joined _ (Joined _ (Joined _ (Joined _ (Joined _ _))))) _ ?_
    ⟨begins_joined _ _ [] opening.possible afterOpening, fun session =>
      locates_bind _ _ _ _ session (opening.locates session) afterOpening fun first second read =>
      locates_bind _ _ _ _ second (locates_number second (separator_leads _ (.inl rfl) _ _ _ read)) afterX fun x third _ =>
      locates_bind _ _ _ _ third (comma.locates third) afterComma fun fourth fifth read =>
      locates_bind _ _ _ _ fifth (locates_number fifth (separator_leads _ (.inr rfl) _ _ _ read)) zero.possible
        fun y last _ => (finish x y).locates last⟩
  rintro _ ⟨_, _, rfl, ⟨opening, rfl⟩, _, _, rfl, ⟨x, rfl⟩, _, _, rfl, ⟨comma, rfl⟩, _, _, rfl, ⟨y, rfl⟩,
    _, _, rfl, ⟨closing, rfl⟩, rfl⟩
  exact ⟨⟨opening, x, comma, y, closing⟩, rfl⟩

variable (jitter : Jitter)

def unwritten (name : String) : Rule (Coords Number) := do
  match ← find? name with
  | some known => return known
  | none =>
      let new ← inferred jitter
      note (.inferred name new)
      return new

theorem aside_unwritten (name : String) : Aside (unwritten jitter name) := by
  refine aside_bind _ _ (aside_find name) fun found => ?_
  cases found with
  | some known => exact aside_pure known
  | none => exact aside_bind _ _ (aside_inferred jitter) fun _ => aside_bind _ _ (aside_note _) fun _ => aside_pure _

theorem resolve_opened (name : String) (around : Session)
    (opened : around.reader.remaining.head?.map Token.value = some Vocabulary.opening) :
    resolve jitter name around = coords around := by
  have peeked : peekValue? around = .ok (some Vocabulary.opening) around := congrArg (EStateM.Result.ok · around) opened
  rw [resolve, bind_passed _ _ _ _ _ peeked, if_pos rfl]

theorem resolve_closed (name : String) (around : Session)
    (closed : around.reader.remaining.head?.map Token.value ≠ some Vocabulary.opening) :
    resolve jitter name around = unwritten jitter name around := by
  have peeked : peekValue? around = .ok (around.reader.remaining.head?.map Token.value) around := rfl
  rw [resolve, bind_passed _ _ _ _ _ peeked, if_neg closed]
  rfl

theorem located_resolve (name : String) :
    Located (resolve jitter name) (Phrase fun place : Option Grammar.Coords => place.elim [] Grammar.Coords.tokens) := by
  refine ⟨begins_nothing _ ⟨none, rfl⟩, fun session => ?_⟩
  refine locates_look peekValue? _ (fun head => head.map Token.value) (fun _ => rfl) _ session ?_
  -- The opening bracket in front tells whether coordinates are written; without them no token is read.
  split
  · exact locates_mono _ _ _ session (fun _ ⟨tree, same⟩ => ⟨some tree, same⟩) (located_coords.locates session)
  · exact locates_mono _ _ _ session (fun _ same => ⟨none, same⟩)
      ((located_aside _ (aside_unwritten jitter name)).locates session)

theorem located_marked : Located (do let _ ← keyword .point : Rule Unit)
    (Phrase fun word : Word .point => [word.token]) := by
  refine located_mono _ _ _ ?_ (located_bind _ _ _ _ (located_word .point) fun _ => located_aside _ (aside_pure _))
  rintro _ ⟨_, _, rfl, ⟨word, rfl⟩, rfl⟩
  exact ⟨word, rfl⟩

theorem located_name : Located pointName (Phrase fun name : Free .identifier => [name.token]) :=
  located_free .identifier "A" name_lexed

theorem located_named : Located (do
      let name ← pointName
      let place ← resolve jitter name
      record name place
      return ⟨name, place⟩ : Rule (Point Number))
    fun text => ∃ (name : Free .identifier) (coords : Option Grammar.Coords),
      text = name.token :: coords.elim [] Grammar.Coords.tokens := by
  refine located_mono _ _ _ ?_ (located_bind _ _ _ _ located_name fun name =>
    located_bind _ _ _ _ (located_resolve jitter name) fun place =>
      located_bind _ _ _ _ (located_aside _ (aside_record name place)) fun _ => located_aside _ (aside_pure _))
  rintro _ ⟨_, _, rfl, ⟨name, rfl⟩, _, _, rfl, ⟨coords, rfl⟩, _, _, rfl, rfl, rfl⟩
  exact ⟨name, coords, by simp⟩

-- What stands in front of a point decides whether a mark is read, no mark is read or the point is refused.

theorem mark_spelled (around : Session) (front : around.reader.remaining.head?.map Token.value = some Keyword.point.spelling) :
    pointMark around = (do let _ ← keyword .point : Rule Unit) around := by
  obtain ⟨token, head, spelled⟩ := Option.map_eq_some_iff.mp front
  have fronted : front? around = .ok (some token) around := congrArg (EStateM.Result.ok · around) head
  rw [pointMark, bind_passed _ _ _ _ _ fronted]
  exact congrFun (if_pos spelled) around

theorem mark_absent (around : Session) (token : Token) (head : around.reader.remaining.head? = some token)
    (other : token.value ≠ Keyword.point.spelling) (identifier : token.category = .identifier) :
    pointMark around = .ok () around := by
  have fronted : front? around = .ok (some token) around := congrArg (EStateM.Result.ok · around) head
  rw [pointMark, bind_passed _ _ _ _ _ fronted]
  dsimp only
  rw [if_neg other, if_pos identifier]
  rfl

theorem mark_refused (around : Session) (neither : ¬∃ token ∈ around.reader.remaining.head?,
      token.value = Keyword.point.spelling ∨ token.category = .identifier) :
    pointMark around = .error (.violation (.unmet .pointDefinition around.reader.peekSnapshot)) around := by
  have fronted : front? around = .ok around.reader.remaining.head? around := rfl
  rw [pointMark, bind_passed _ _ _ _ _ fronted]
  cases ahead : around.reader.remaining with
  | nil =>
      have last : around.reader.peekSnapshot = around.reader.snapshot := by rw [Reader.peekSnapshot, ahead]
      rw [last]
      rfl
  | cons token rest =>
      have shown : around.reader.peekSnapshot = token.snapshot := by rw [Reader.peekSnapshot, ahead]
      obtain ⟨other, unnamed⟩ := not_or.mp fun fine => neither ⟨token, by rw [ahead]; rfl, fine⟩
      dsimp only [List.head?_cons]
      rw [if_neg other, if_neg unnamed, shown]
      rfl

theorem point_asked : Asks (Phrase Grammar.Point.tokens) [] .pointDefinition := by
  refine ⟨⟨"A", _, name_lexed, .inl rfl⟩, ?_⟩
  rintro ⟨_, value, offset⟩ _ (⟨⟨⟩⟩ | ⟨⟨⟩, ⟨⟩⟩)
  · exact ⟨[], ⟨⟨none, ⟨value, offset⟩, none⟩, rfl⟩, fun _ none => (List.not_mem_nil none).elim⟩
  · exact ⟨_, ⟨⟨some ⟨offset⟩, ⟨"A", 0⟩, none⟩, rfl⟩, tokenize_disciplined _ _ name_lexed⟩

theorem locates_marked_point (session : Session)
    (front : session.reader.remaining.head?.map Token.value = some Keyword.point.spelling) :
    Locates (point jitter) (fun text => ∃ (word : Word .point) (name : Free .identifier) (coords : Option Grammar.Coords),
      text = Grammar.Point.tokens ⟨some word, name, coords⟩) session := by
  refine locates_congr _ _ _ session (fun around same => ?_) (locates_mono _ _ _ session ?_
    ((located_bind _ _ _ _ located_marked fun _ => located_named jitter).locates session))
  · exact bind_same _ _ _ _ (mark_spelled around (same ▸ front))
  · rintro _ ⟨_, _, rfl, ⟨word, rfl⟩, name, coords, rfl⟩
    exact ⟨word, name, coords, rfl⟩

theorem located_point : Located (point jitter) (Phrase Grammar.Point.tokens) := by
  have named : Located _ (Phrase Grammar.Point.tokens) := located_mono _ _ _
    (fun _ ⟨name, coords, same⟩ => ⟨⟨none, name, coords⟩, same⟩) (located_named jitter)
  refine ⟨named.possible, fun session => ?_⟩
  by_cases starts : ∃ token ∈ session.reader.remaining.head?, token.value = Keyword.point.spelling ∨ token.category = .identifier
  · obtain ⟨token, head, fine⟩ := starts
    by_cases spelled : token.value = Keyword.point.spelling
    · have front : session.reader.remaining.head?.map Token.value = some Keyword.point.spelling := by
        rw [Option.mem_def.mp head, Option.map_some, spelled]
      exact locates_mono _ _ _ session (fun _ ⟨word, name, coords, same⟩ => ⟨⟨some word, name, coords⟩, same⟩)
        (locates_marked_point jitter session front)
    · refine locates_congr _ _ _ session (fun around same => ?_) (named.locates session)
      exact bind_passed _ _ _ _ _ (mark_absent around token (same.trans head) spelled (fine.resolve_left spelled))
  · -- What is refused is refused as a look at the token in front would have it.
    refine locates_congr _ _ _ session (fun around same => ?_)
      (locates_refuse .pointDefinition _ session point_definition_peeks named.possible point_asked)
    exact bind_failed _ _ _ _ _ (mark_refused around (same ▸ starts))

theorem located_path (extent : Extent) :
    Located (path jitter extent) fun text => ∃ tree : Grammar.Line, tree.extent = extent ∧ text = tree.tokens := by
  refine located_mono _ _ _ ?_ (located_bind _ _ _ _ (located_word extent.keyword) fun _ =>
    located_bind _ _ _ _ (located_point jitter) fun _ => located_bind _ _ _ _ (located_point jitter) fun _ =>
      located_aside _ (aside_pure _))
  rintro _ ⟨_, _, rfl, ⟨keyword, rfl⟩, _, _, rfl, ⟨start, rfl⟩, _, _, rfl, ⟨stop, rfl⟩, rfl⟩
  exact ⟨⟨extent, keyword, start, stop⟩, rfl, by simp [Grammar.Line.tokens]⟩

theorem front_keyword_seen (around : Session) : frontKeyword? around =
    .ok ((around.reader.remaining.head?.map Token.value).bind Keyword.ofSpelling?) around := rfl

theorem line_asked : Asks (Phrase Grammar.Line.tokens) [] .baseName := by
  have names := tokenize_disciplined _ _ name_lexed
  refine ⟨⟨"LINE", _, keyword_lexed .line, rfl, .line, rfl⟩, ?_⟩
  rintro ⟨_, _, offset⟩ _ ⟨⟨⟩, extent, ⟨⟩⟩
  exact ⟨_, ⟨⟨extent, ⟨offset⟩, ⟨none, ⟨"A", 0⟩, none⟩, ⟨none, ⟨"A", 0⟩, none⟩⟩, rfl⟩, List.forall_mem_append.mpr ⟨names, names⟩⟩

theorem object_asked : Asks (Phrase Grammar.Object.tokens) [] .objectName := by
  have name := tokenize_disciplined _ _ name_lexed
  have both := List.forall_mem_append.mpr ⟨name, name⟩
  let point : Grammar.Point := ⟨none, ⟨"A", 0⟩, none⟩
  refine ⟨⟨"POINT", _, keyword_lexed .point, rfl, .point, rfl⟩, ?_⟩
  rintro ⟨_, _, offset⟩ _ ⟨⟨⟩, word, ⟨⟩⟩
  cases word with
  | point => exact ⟨_, ⟨.point ⟨offset⟩ ⟨"A", 0⟩ none, rfl⟩, name⟩
  | line => exact ⟨_, ⟨.line ⟨.line, ⟨offset⟩, point, point⟩, rfl⟩, both⟩
  | segment => exact ⟨_, ⟨.line ⟨.segment, ⟨offset⟩, point, point⟩, rfl⟩, both⟩
  | perpendicular =>
      refine ⟨_, ⟨.perpendicular ⟨offset⟩ point ⟨.line, ⟨0⟩, point, point⟩, rfl⟩, List.forall_mem_append.mpr ⟨name, ?_⟩⟩
      exact List.forall_mem_cons.mpr ⟨word_orderly .line 0, both⟩
  | triangle => exact ⟨_, ⟨.triangle ⟨offset⟩ point point point, rfl⟩, List.forall_mem_append.mpr ⟨both, name⟩⟩

theorem located_base : Located (base jitter) (Phrase Grammar.Line.tokens) := by
  -- Either line completes a base, so what is refused in its place could still have been one.
  have path := fun extent => located_mono _ _ (Phrase Grammar.Line.tokens)
    (fun _ ⟨tree, _, same⟩ => ⟨tree, same⟩) (located_path jitter extent)
  refine ⟨(path .line).possible, fun session => locates_look frontKeyword? _
    (fun head => (head.map Token.value).bind Keyword.ofSpelling?) front_keyword_seen _ session ?_⟩
  split
  · exact (path .line).locates session
  · exact (path .segment).locates session
  · exact locates_refuse .baseName _ session base_name_peeks (path .line).possible line_asked

theorem located_perpendicular : Located (perpendicular jitter) (Phrase Grammar.Object.tokens) := by
  refine located_mono _ _ _ ?_ (located_bind _ _ _ _ (located_word .perpendicular) fun _ =>
    located_bind _ _ _ _ (located_point jitter) fun _ => located_bind _ _ _ _ (located_base jitter) fun _ =>
      located_aside _ (aside_pure _))
  rintro _ ⟨_, _, rfl, ⟨keyword, rfl⟩, _, _, rfl, ⟨apex, rfl⟩, _, _, rfl, ⟨base, rfl⟩, rfl⟩
  exact ⟨.perpendicular keyword apex base, by simp [Grammar.Object.tokens]⟩

theorem located_triangle : Located (triangle jitter) (Phrase Grammar.Object.tokens) := by
  refine located_mono _ _ _ ?_ (located_bind _ _ _ _ (located_word .triangle) fun _ =>
    located_bind _ _ _ _ (located_point jitter) fun _ => located_bind _ _ _ _ (located_point jitter) fun _ =>
      located_bind _ _ _ _ (located_point jitter) fun _ => located_aside _ (aside_pure _))
  rintro _ ⟨_, _, rfl, ⟨keyword, rfl⟩, _, _, rfl, ⟨first, rfl⟩, _, _, rfl, ⟨second, rfl⟩, _, _, rfl, ⟨third, rfl⟩, rfl⟩
  exact ⟨.triangle keyword first second third, by simp [Grammar.Object.tokens]⟩

theorem located_line_figure (extent : Extent) :
    Located (do return .line (← path jitter extent) : Rule (Figure Number)) (Phrase Grammar.Object.tokens) := by
  refine located_mono _ _ _ ?_ (located_bind _ _ _ _ (located_path jitter extent) fun _ => located_aside _ (aside_pure _))
  rintro _ ⟨_, _, rfl, ⟨tree, _, rfl⟩, rfl⟩
  exact ⟨.line tree, by simp [Grammar.Object.tokens]⟩

theorem locates_point_figure (session : Session)
    (front : session.reader.remaining.head?.map Token.value = some Keyword.point.spelling) :
    Locates (do return .point (← point jitter) : Rule (Figure Number)) (Phrase Grammar.Object.tokens) session := by
  -- A point may go without its keyword, an object may not: here the keyword is known to stand in front.
  refine locates_mono _ _ _ session ?_ (locates_bind _ _ _ _ session (locates_marked_point jitter session front)
    (located_aside _ (aside_pure (Classical.arbitrary (Figure Number)))).possible fun place later _ =>
      (located_aside _ (aside_pure (Figure.point place))).locates later)
  rintro _ ⟨_, _, rfl, ⟨word, name, coords, rfl⟩, rfl⟩
  exact ⟨.point word name coords, by simp [Grammar.Object.tokens]⟩

theorem locates_figure_of (word : Keyword) (session : Session)
    (front : session.reader.remaining.head?.map Token.value = some word.spelling) :
    Locates (figureOf jitter word) (Phrase Grammar.Object.tokens) session := by
  cases word with
  | point => exact locates_point_figure jitter session front
  | line => exact (located_line_figure jitter .line).locates session
  | segment => exact (located_line_figure jitter .segment).locates session
  | perpendicular => exact (located_perpendicular jitter).locates session
  | triangle => exact (located_triangle jitter).locates session

theorem located_figure : Located (figure jitter) (Phrase Grammar.Object.tokens) := by
  have possible := (located_triangle jitter).possible
  refine ⟨possible, fun session => locates_look frontKeyword? _
    (fun head => (head.map Token.value).bind Keyword.ofSpelling?) front_keyword_seen _ session ?_⟩
  cases found : (session.reader.remaining.head?.map Token.value).bind Keyword.ofSpelling? with
  | none => exact locates_refuse .objectName _ session object_name_peeks possible object_asked
  | some word =>
      obtain ⟨spelling, front, spelled⟩ := Option.bind_eq_some_iff.mp found
      rw [← Keyword.spelling_of_of_spelling spelling word spelled] at front
      exact locates_figure_of jitter word session front

theorem located_operator : Located operator (Phrase fun operator : Free .operator => [operator.token]) :=
  located_free .operator "DRAW" (by decide +kernel)

theorem located_command : Located (command jitter) (Phrase Grammar.Command.tokens) := by
  have terminator := located_sign Vocabulary.terminator (by decide +kernel)
  refine located_mono _ _ _ ?_ (located_bind _ _ _ _ located_operator fun _ =>
    located_bind _ _ _ _ (located_figure jitter) fun _ => located_bind _ _ _ _ terminator fun _ =>
      located_bind _ _ _ _ (located_aside _ (aside_note _)) fun _ => located_aside _ (aside_pure _))
  rintro _ ⟨_, _, rfl, ⟨operator, rfl⟩, _, _, rfl, ⟨object, rfl⟩, _, _, rfl, ⟨terminator, rfl⟩, _, _, rfl, rfl, rfl⟩
  exact ⟨⟨operator, object, terminator⟩, rfl⟩

def CommandRow : List Token → Prop := Phrase fun trees : List Grammar.Command => trees.flatMap Grammar.Command.tokens

theorem locates_commands (session : Session) : Locates (commands jitter) CommandRow session := by
  have possible : Begins CommandRow [] := begins_nothing _ ⟨[], rfl⟩
  by_cases ended : session.reader.remaining = []
  · refine locates_congr _ (pure []) _ session (fun around same => ?_) ?_
    · rw [ended] at same
      exact commands_end jitter around (List.head?_eq_none_iff.mp same)
    · exact locates_mono _ _ _ session (fun _ same => ⟨[], same⟩) ((located_aside _ (aside_pure [])).locates session)
  · refine locates_congr _ _ _ session (fun around same => commands_step jitter around fun none => ended ?_) ?_
    · rw [none] at same
      exact List.head?_eq_none_iff.mp same.symm
    · refine locates_mono _ _ _ session ?_ (locates_bind _ _ _ _ session ((located_command jitter).locates session)
        (begins_joined _ _ [] possible (located_aside _ (aside_pure ())).possible) fun first later read => ?_)
      · rintro _ ⟨_, _, rfl, ⟨tree, rfl⟩, _, _, rfl, ⟨trees, rfl⟩, rfl⟩
        exact ⟨tree :: trees, by simp⟩
      · -- The induction is on the tokens that are left behind the first command.
        have shorter := Consumes.command jitter session first later read
        exact locates_bind _ _ _ _ later (locates_commands later) (located_aside _ (aside_pure ())).possible
          fun rest last _ => (located_aside _ (aside_pure (first :: rest))).locates last
termination_by session.reader.remaining.length

theorem locates_drawing (session : Session) : Locates (drawing jitter) CommandRow session := by
  have counted : ∀ commands : Drawing, Aside (do
      let names ← tableSize
      note (.finished commands.length names)
      return commands : Rule Drawing) := fun commands =>
    aside_bind _ _ aside_table_size fun _ => aside_bind _ _ (aside_note _) fun _ => aside_pure _
  refine locates_mono _ _ _ session ?_ (locates_bind _ _ _ _ session (locates_commands jitter session)
    (located_aside _ (counted [])).possible fun commands later _ => (located_aside _ (counted commands)).locates later)
  rintro _ ⟨_, _, rfl, ⟨trees, rfl⟩, rfl⟩
  exact ⟨trees, List.append_nil _⟩

end Rule

end Straightedge
