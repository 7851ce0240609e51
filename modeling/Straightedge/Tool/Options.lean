import Straightedge.Number.Literal
import Straightedge.Text.Quoted
import Straightedge.Tool.Run

namespace Straightedge.Tool

inductive Flag where
  | help
  | literal
  | format
  | output
  | seed
  | verbose
deriving DecidableEq

namespace Flag

def spellings : List (String × Flag) :=
  [("-h", .help), ("--help", .help), ("-s", .literal), ("--string", .literal), ("-f", .format),
    ("--format", .format), ("-o", .output), ("--out", .output), ("--seed", .seed),
    ("--verbose", .verbose)]

def ofSpelling? (spelling : String) : Option Flag := spellings.lookup spelling

def takesValue : Flag → Bool
  | .format | .output | .seed => true
  | _ => false

def label (flag : Flag) : String :=
  "/".intercalate ((spellings.filter fun entry => entry.2 == flag).map Prod.fst)

end Flag

inductive Misuse where
  | ambiguous (word : String) (candidates : List String)
  | valueMissing (flag : Flag)
  | valueIgnored (flag : Flag) (text : String)
  | invalidSeed (text : String)
  | invalidFormat (text : String)
  | sourceMissing
  | unrecognized (words : List String)
deriving DecidableEq

namespace Misuse

def about (flag : Flag) (text : String) : String := "argument " ++ flag.label ++ ": " ++ text

def message : Misuse → String
  | .ambiguous word candidates =>
      "ambiguous option: " ++ word ++ " could match " ++ ", ".intercalate candidates
  | .valueMissing flag => about flag "expected one argument"
  | .valueIgnored flag text => about flag ("ignored explicit argument " ++ Text.quoted text)
  | .invalidSeed text => about .seed ("invalid int value: " ++ Text.quoted text)
  | .invalidFormat text =>
      about .format ("invalid choice: " ++ Text.quoted text ++ " (choose from " ++
        ", ".intercalate (Format.all.map fun format => Text.quoted format.name) ++ ")")
  | .sourceMissing => "the following arguments are required: source"
  | .unrecognized words => "unrecognized arguments: " ++ " ".intercalate words

end Misuse

inductive Word where
  | plain
  | option (flag : Flag) (long : Bool) (attached : Option (List Char))
  | unknown
deriving DecidableEq

def isDigit (c : Char) : Bool := (Text.digitValue? c).isSome

-- A last newline does not count.
def looksNegative (word : List Char) : Bool :=
  let word := if word.getLast? = some '\n' then word.dropLast else word
  match word with
  | '-' :: rest =>
      let (whole, tail) := rest.span isDigit
      match tail with
      | [] => !whole.isEmpty
      | '.' :: fraction => !fraction.isEmpty && fraction.all isDigit
      | _ => false
  | _ => false

def splitEquals (word : List Char) : String × Option (List Char) :=
  let (name, tail) := word.span (· ≠ '=')
  match tail with
  | [] => (String.ofList name, none)
  | _ :: text => (String.ofList name, some text)

def candidates (word : List Char) : List (String × Word) :=
  match word with
  | '-' :: '-' :: _ =>
      let (name, attached) := splitEquals word
      (Flag.spellings.filter fun entry => name.toList.isPrefixOf entry.1.toList).map
        fun (spelling, flag) => (spelling, .option flag true attached)
  | '-' :: letter :: rest =>
      (Flag.spellings.filter fun entry => entry.1 == String.ofList ['-', letter]).map
        fun (spelling, flag) => (spelling, .option flag false (some rest))
  | _ => []

def isLong (spelling : String) : Bool := "--".toList.isPrefixOf spelling.toList

def classifyAbbreviated (word : String) : Except Misuse Word :=
  match candidates word.toList with
  | [] =>
      if looksNegative word.toList || word.toList.contains ' ' then .ok .plain else .ok .unknown
  | [(_, option)] => .ok option
  | several => .error (.ambiguous word (several.map Prod.fst))

def classify (word : String) : Except Misuse Word :=
  if word.toList.head? ≠ some '-' then .ok .plain
  else match Flag.ofSpelling? word with
    | some flag => .ok (.option flag (isLong word) none)
    | none =>
        if word = "-" then .ok .plain
        else
          let (name, attached) := splitEquals word.toList
          match attached, Flag.ofSpelling? name with
          | some _, some flag => .ok (.option flag (isLong name) attached)
          | _, _ => classifyAbbreviated word

structure Expansion where
  settings : List (Flag × Option String)
  usesNext : Bool

-- Two dashes attached to an option leave it without a value. Later releases of the argument parser
-- take them for the value.
def attachedValue (text : List Char) : Option String :=
  if text = ['-', '-'] then none else some (String.ofList text)

def attachedSize : Option (List Char) → Nat
  | none => 0
  | some text => text.length + 1

-- Options that take no value may stand together behind one dash. That an equals sign may come in
-- between is again dropped in later releases.
def expand (next : Option String) (before : List (Flag × Option String)) (flag : Flag) (long : Bool)
    (attached : Option (List Char)) : Except Misuse Expansion :=
  match attached with
  | none =>
      if flag.takesValue then
        match next with
        | some value => .ok ⟨before ++ [(flag, some value)], true⟩
        | none => .error (.valueMissing flag)
      else .ok ⟨before ++ [(flag, none)], false⟩
  | some text =>
      if flag.takesValue then .ok ⟨before ++ [(flag, attachedValue text)], false⟩
      else if long then .error (.valueIgnored flag (String.ofList text))
      else match text with
        | [] => .error (.valueIgnored flag "")
        | letter :: rest =>
            match Flag.ofSpelling? (String.ofList ['-', letter]) with
            | some other =>
                expand next (before ++ [(flag, none)]) other false
                  (if rest.isEmpty then none else some rest)
            | none => .error (.valueIgnored flag (String.ofList (letter :: rest)))
termination_by attachedSize attached
decreasing_by
  split <;> simp [attachedSize]

structure Choices where
  source : Option String
  -- Whether the last word was taken as the source.
  sourceLast : Bool
  literal : Bool
  format : Option String
  output : Option String
  seed : Seed
  verbose : Bool
  extras : List String
deriving DecidableEq

def Choices.initial : Choices where
  source := none
  sourceLast := false
  literal := false
  format := some Format.document.name
  output := none
  seed := .free
  verbose := false
  extras := []

inductive Stop where
  | help
  | misuse (misuse : Misuse)
deriving DecidableEq

namespace Choices

def set (choices : Choices) : Flag → Option String → Except Stop Choices
  | .help, _ => .error .help
  | .literal, _ => .ok { choices with literal := true }
  | .format, none => .ok { choices with format := none }
  | .format, some name =>
      match Format.ofName? name with
      | some _ => .ok { choices with format := some name }
      | none => .error (.misuse (.invalidFormat name))
  | .output, path => .ok { choices with output := path }
  | .seed, none => .ok { choices with seed := .blank }
  | .seed, some numeral =>
      match Literal.integer? numeral with
      | some seed => .ok { choices with seed := .fixed seed }
      | none => .error (.misuse (.invalidSeed numeral))
  | .verbose, _ => .ok { choices with verbose := true }

def setAll : List (Flag × Option String) → Choices → Except Stop Choices
  | [], choices => .ok choices
  | (flag, value) :: rest, choices =>
      match choices.set flag value with
      | .ok chosen => setAll rest chosen
      | .error stop => .error stop

def addExtras (choices : Choices) (words : List String) : Choices :=
  { choices with sourceLast := false, extras := choices.extras ++ words }

def addPlain (choices : Choices) (word : String) : Choices :=
  match choices.source with
  | none => { choices with source := some word, sourceLast := true }
  | some _ => choices.addExtras [word]

-- The words after the mark that ends the options are all plain. The mark itself is extra unless it
-- stands beside the source.
def addRest (choices : Choices) (words : List String) : Choices :=
  match choices.source, words with
  | none, source :: rest => (choices.addPlain source).addExtras rest
  | _, _ => choices.addExtras (if choices.sourceLast then words else "--" :: words)

def finish (choices : Choices) : Except Stop (Request × Bool) :=
  match choices.source with
  | none => .error (.misuse .sourceMissing)
  | some source =>
      if choices.extras.isEmpty then
        .ok (⟨source, choices.literal, choices.format, choices.output, choices.seed⟩, choices.verbose)
      else .error (.misuse (.unrecognized choices.extras))

end Choices

def nextPlain? : List (String × Word) → Option String
  | (word, .plain) :: _ => some word
  | _ => none

def choose (choices : Choices) (words : List (String × Word)) : Except Stop Choices :=
  match words with
  | [] => .ok choices
  | (word, .plain) :: rest => choose (choices.addPlain word) rest
  | (word, .unknown) :: rest => choose (choices.addExtras [word]) rest
  | (_, .option flag long attached) :: rest =>
      match expand (nextPlain? rest) [] flag long attached with
      | .error misuse => .error (.misuse misuse)
      | .ok ⟨settings, usesNext⟩ =>
          match choices.setAll settings with
          | .error stop => .error stop
          | .ok chosen =>
              choose { chosen with sourceLast := false } (rest.drop (if usesNext then 1 else 0))
termination_by words.length
decreasing_by
  all_goals
    simp only [List.length_cons, List.length_drop]
    omega

def classifyAll : List String → Except Misuse (List (String × Word))
  | [] => .ok []
  | word :: rest =>
      match classify word, classifyAll rest with
      | .error misuse, _ => .error misuse
      | _, .error misuse => .error misuse
      | .ok first, .ok others => .ok ((word, first) :: others)

-- All words are classified before any of them takes effect.
def parseArguments (words : List String) : Except Stop (Request × Bool) :=
  let (options, tail) := words.span (· ≠ "--")
  match classifyAll options with
  | .error misuse => .error (.misuse misuse)
  | .ok classified =>
      match choose Choices.initial classified with
      | .error stop => .error stop
      | .ok choices =>
          match tail with
          | [] => choices.finish
          | _ :: rest => (choices.addRest rest).finish

end Straightedge.Tool
