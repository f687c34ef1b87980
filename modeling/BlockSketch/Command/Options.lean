/-
**Command lines.**

The words of a command line are options or operands.  An option may be written in full, cut short as
long as only one fits, or, if it is a single letter, together with its value or with further letters.
A word of two dashes says that only operands follow; as the value of an option, two dashes leave it
blank.  The first operand names the command, which has
options and one operand of its own; words that nothing takes are collected.

Main definitions:

* `BlockSketch.OptionForm`, `BlockSketch.CommandForm` — the options and commands there are;
* `BlockSketch.UsageError` — why a command line is refused, with `message`;
* `BlockSketch.Word`, `BlockSketch.CommandForm.sortWords` — words sorted into options and operands;
* `BlockSketch.Setting` — the value of an option;
* `BlockSketch.CommandForm.readLine` — the options and the operand of a command, as a
  `BlockSketch.Line`.
-/

import BlockSketch.Text.Digit
import BlockSketch.Text.Quoted

set_option relaxedAutoImplicit false
set_option autoImplicit false

namespace BlockSketch

/-! ### Forms -/

/-- What an option is for. -/
inductive OptionKey where
  | help
  | verbose
  | output
  | mode
  | strict
  | port
  | platform
  | board
  | folder
  | upload
  deriving DecidableEq, Repr

/-- An option. -/
structure OptionForm where
  key : OptionKey
  /-- Its spellings, a single letter first. -/
  names : List String
  takesValue : Bool := true
  /-- The values it can have, if there are only some. -/
  choices : List String := []
  required : Bool := false
  deriving DecidableEq, Repr

/-- The name of an option in messages. -/
def OptionForm.name (o : OptionForm) : String :=
  "/".intercalate o.names

/-- A command, or the program itself. -/
structure CommandForm where
  /-- The words that call it. -/
  name : String
  options : List OptionForm
  /-- The name of its operand. -/
  operand : String

namespace CommandForm

/-- The spellings of the options, in order, each with its option. -/
def spellings (f : CommandForm) : List (String × OptionForm) :=
  f.options.flatMap fun o => o.names.map fun name => (name, o)

/-- The option of a spelling. -/
def option? (f : CommandForm) (name : String) : Option OptionForm :=
  f.spellings.lookup name

end CommandForm

/-! ### Errors -/

/-- What is wrong with a command line. -/
inductive UsageFault where
  | ambiguous (word : String) (names : List String)
  /-- The value of an option is missing. -/
  | noValue (name : String)
  /-- An option that takes no value has one. -/
  | extraValue (name value : String)
  | invalidChoice (name value : String) (choices : List String)
  | missing (names : List String)
  | unrecognized (words : List String)
  deriving DecidableEq, Repr

/-- The message of a fault. -/
def UsageFault.message : UsageFault → String
  | .ambiguous word names =>
    "ambiguous option: " ++ word ++ " could match " ++ ", ".intercalate names
  | .noValue name => "argument " ++ name ++ ": expected one argument"
  | .extraValue name value =>
    "argument " ++ name ++ ": ignored explicit argument " ++ Text.quoted value
  | .invalidChoice name value choices =>
    "argument " ++ name ++ ": invalid choice: " ++ Text.quoted value ++ " (choose from " ++
      ", ".intercalate (choices.map Text.quoted) ++ ")"
  | .missing names => "the following arguments are required: " ++ ", ".intercalate names
  | .unrecognized words => "unrecognized arguments: " ++ " ".intercalate words

/-- Why a command line does not name a piece of work. -/
inductive UsageError where
  /-- Help is asked for. -/
  | help (command : String)
  | refused (command : String) (fault : UsageFault)
  deriving DecidableEq, Repr

/-! ### Words -/

/-- The value that stands in the same word as an option. -/
inductive Attached where
  | none
  /-- After a single letter, with or without an equals sign between: a value or further letters. -/
  | joined (text : List Char)
  /-- After an equals sign: only a value. -/
  | assigned (text : List Char)
  deriving DecidableEq, Repr

/-- A word of a command line. -/
inductive Word where
  | operand (text : String)
  /-- Two dashes: only operands follow. -/
  | dashes
  | option (text : String) (o : OptionForm) (attached : Attached)
  /-- A word that looks like an option but is none of the command. -/
  | unknown (text : String)
  deriving DecidableEq, Repr

/-- The text of a word. -/
def Word.text : Word → String
  | .operand text => text
  | .dashes => "--"
  | .option text _ _ => text
  | .unknown text => text

/-- The text of a word that can be the value of an option before it. -/
def Word.value? : Word → Option String
  | .operand text => some text
  | _ => none

/-- A text up to its first equals sign, and the text after that. -/
def splitEquals : List Char → List Char × Option (List Char)
  | [] => ([], none)
  | c :: cs =>
    if c = '=' then ([], some cs)
    else
      let r := splitEquals cs
      (c :: r.1, r.2)

/-- Whether all characters are digits and there is at least one. -/
def isDigits (cs : List Char) : Bool :=
  !cs.isEmpty && cs.all Text.isDigit

/-- Whether the text after a dash makes it a negative number: digits, or a point with digits after it
and perhaps before it.  A line end may follow. -/
def isNumeral (cs : List Char) : Bool :=
  let cs := if cs.getLast? = some '\n' then cs.dropLast else cs
  isDigits cs ||
    match cs.dropWhile Text.isDigit with
    | '.' :: rest => isDigits rest
    | _ => false

/-- The value after an equals sign, if there is one. -/
def attachedOf : Option (List Char) → Attached
  | none => .none
  | some text => .assigned text

/-- What stands after the full spelling of an option and an equals sign.  After a single letter it is
read as if there were no equals sign, unless it is empty. -/
def attachedTo (spelling text : List Char) : Attached :=
  if text.isEmpty || ['-', '-'].isPrefixOf spelling then .assigned text else .joined text

namespace CommandForm

/-- The options that a word can stand for without being a spelling of them: long ones that start with
it, or the one of its first letter. -/
def fitting (f : CommandForm) (word : List Char) : List (String × OptionForm × Attached) :=
  match word with
  | '-' :: '-' :: _ =>
    let (start, value) := splitEquals word
    (f.spellings.filter fun s => start.isPrefixOf s.1.toList).map fun s =>
      (s.1, s.2, attachedOf value)
  | dash :: letter :: rest =>
    (f.spellings.filter fun s => s.1.toList = [dash, letter]).map fun s =>
      (s.1, s.2, .joined rest)
  | _ => []

/-- Sorts a word that starts with a dash and has more characters. -/
def sortDashed (f : CommandForm) (word : String) : Except UsageFault Word :=
  match f.option? word with
  | some o => .ok (.option word o .none)
  | none =>
    let (start, value) := splitEquals word.toList
    match value, f.option? (String.ofList start) with
    | some text, some o => .ok (.option word o (attachedTo start text))
    | _, _ =>
      match f.fitting word.toList with
      | [(_, o, attached)] => .ok (.option word o attached)
      | [] =>
        if isNumeral (word.toList.drop 1) || word.toList.contains ' ' then .ok (.operand word)
        else .ok (.unknown word)
      | several => .error (.ambiguous word (several.map Prod.fst))

/-- Sorts one word. -/
def sortWord (f : CommandForm) (word : String) : Except UsageFault Word :=
  match word.toList with
  | '-' :: _ :: _ => f.sortDashed word
  | _ => .ok (.operand word)

/-- Sorts the words of a command line. -/
def sortWords (f : CommandForm) : List String → Except UsageFault (List Word)
  | [] => .ok []
  | word :: words =>
    if word = "--" then .ok (.dashes :: words.map Word.operand)
    else do
      let w ← f.sortWord word
      let ws ← f.sortWords words
      return w :: ws

end CommandForm

/-! ### Options -/

/-- The value of an option. -/
inductive Setting where
  /-- The option has been given, but its value is left out. -/
  | blank
  | text (value : String)
  deriving DecidableEq, Repr

namespace Setting

/-- The value that a text gives; two dashes stand for none. -/
def ofText (s : String) : Setting :=
  if s = "--" then .blank else .text s

/-- The text of a value; a blank one is an empty list. -/
def shown : Setting → String
  | .blank => "[]"
  | .text value => value

end Setting

/-- An option that has been given, with its value if it takes one. -/
abbrev Given := OptionForm × Option Setting

/-- What a word with an option gives. -/
structure Taken where
  given : List Given
  /-- Whether the next word is the value of the option. -/
  usesNext : Bool := false

/-- The option with a value that stands in the same word. -/
def OptionForm.withValue (o : OptionForm) (text : List Char) : Except UsageFault Taken :=
  if o.takesValue then .ok { given := [(o, some (.ofText (String.ofList text)))] }
  else .error (.extraValue o.name (String.ofList text))

/-- The option with the next word as its value, if it takes one. -/
def OptionForm.withNext (o : OptionForm) (next : Option String) : Except UsageFault Taken :=
  if o.takesValue then
    match next with
    | some value => .ok { given := [(o, some (.ofText value))], usesNext := true }
    | none => .error (.noValue o.name)
  else .ok { given := [(o, none)] }

/-- A single-letter option with what follows it: its value, or further letters. -/
def CommandForm.takeLetters (f : CommandForm) (next : Option String) :
    OptionForm → List Char → Except UsageFault Taken
  | o, [] => o.withNext next
  | o, c :: cs =>
    if o.takesValue then o.withValue (c :: cs)
    else
      match f.option? (String.ofList ['-', c]) with
      | none => .error (.extraValue o.name (String.ofList (c :: cs)))
      | some further => do
        let taken ← f.takeLetters next further cs
        return { taken with given := (o, none) :: taken.given }

/-- What a word with an option gives. -/
def CommandForm.takeOption (f : CommandForm) (o : OptionForm) (next : Option String) :
    Attached → Except UsageFault Taken
  | .none => o.withNext next
  | .joined text => f.takeLetters next o text
  | .assigned text => o.withValue text

/-- Refuses a value that an option cannot have.  Any option can be left blank. -/
def checkChoice (g : Given) : Except UsageFault Unit :=
  match g.2 with
  | some (.text value) =>
    if g.1.choices.isEmpty || g.1.choices.contains value then .ok ()
    else .error (.invalidChoice g.1.name value g.1.choices)
  | _ => .ok ()

/-! ### Lines -/

/-- What has been read from a command line. -/
structure Line where
  operand : Option String := none
  given : List Given := []
  /-- The words that nothing takes. -/
  extras : List String := []

namespace Line

/-- The line with one more word that nothing takes. -/
def addExtra (l : Line) (text : String) : Line :=
  { l with extras := l.extras ++ [text] }

/-- The line with what one more word gives. -/
def addTaken (l : Line) (t : Taken) : Line :=
  { l with given := l.given ++ t.given }

/-- Whether an option has been given. -/
def has (l : Line) (key : OptionKey) : Bool :=
  l.given.any fun g => g.1.key == key

/-- The value of an option; the last one counts. -/
def value? (l : Line) (key : OptionKey) : Option Setting :=
  (l.given.reverse.find? fun g => g.1.key == key).bind Prod.snd

end Line

namespace CommandForm

/-- Refuses a command line. -/
def refuse {α : Type} (f : CommandForm) (fault : UsageFault) : Except UsageError α :=
  .error (.refused f.name fault)

/-- Looks at the options of one word in order: each must have a value that it can have, and help is
given at once. -/
def accept (f : CommandForm) : List Given → Except UsageError Unit
  | [] => .ok ()
  | g :: gs =>
    if g.1.key = .help then .error (.help f.name)
    else
      match checkChoice g with
      | .ok () => f.accept gs
      | .error fault => f.refuse fault

/-- What a word with an option gives, once it is accepted. -/
def acceptOption (f : CommandForm) (o : OptionForm) (attached : Attached) (next : Option Word) :
    Except UsageError Taken := do
  let taken ← (f.takeOption o (next.bind Word.value?) attached).mapError (.refused f.name)
  f.accept taken.given
  return taken

/-- Reads the options of a command and its operand.  Two dashes directly before or after the operand
go with it.  A word that an option has taken as its value is left out. -/
def readWords (f : CommandForm) : (leaveOut : Bool) → Line → List Word → Except UsageError Line
  | _, l, [] => .ok l
  | true, l, _ :: rest => f.readWords false l rest
  | false, l, .operand text :: rest =>
    if l.operand.isSome then f.readWords false (l.addExtra text) rest
    else f.readWords (rest.head? == some .dashes) { l with operand := some text } rest
  | false, l, .dashes :: rest =>
    if l.operand.isNone && !rest.isEmpty then f.readWords false l rest
    else f.readWords false (l.addExtra "--") rest
  | false, l, .unknown text :: rest => f.readWords false (l.addExtra text) rest
  | false, l, .option _ o attached :: rest => do
    let taken ← f.acceptOption o attached rest.head?
    f.readWords taken.usesNext (l.addTaken taken) rest

/-- Reads the options before the name of a command, and gives the words after it.  Two dashes before
other words are taken for the name. -/
def readName (f : CommandForm) :
    (leaveOut : Bool) → Line → List Word → Except UsageError (Line × List String)
  | _, l, [] => .ok (l, [])
  | true, l, _ :: rest => f.readName false l rest
  | false, l, .operand text :: rest =>
    .ok ({ l with operand := some text }, rest.map Word.text)
  | false, l, .dashes :: rest =>
    if rest.isEmpty then .ok (l.addExtra "--", [])
    else .ok ({ l with operand := some "--" }, rest.map Word.text)
  | false, l, .unknown text :: rest => f.readName false (l.addExtra text) rest
  | false, l, .option _ o attached :: rest => do
    let taken ← f.acceptOption o attached rest.head?
    f.readName taken.usesNext (l.addTaken taken) rest

/-- The names of what a command line lacks: the operand, and options that are required. -/
def lacking (f : CommandForm) (l : Line) : List String :=
  (if l.operand.isNone then [f.operand] else []) ++
    (f.options.filter fun o => o.required && !l.has o.key).map OptionForm.name

/-- Reads the words after the name of a command. -/
def readLine (f : CommandForm) (words : List String) : Except UsageError Line := do
  let sorted ← (f.sortWords words).mapError (.refused f.name)
  let l ← f.readWords false {} sorted
  match f.lacking l with
  | [] => return l
  | names => f.refuse (.missing names)

end CommandForm

end BlockSketch
