import ZoneKeeper.Setting

/-!
# The command line

The command line is read word by word.  An option takes its value from behind an equals sign, or
else from the next word if that is no option itself; that value is looked at only when the next
option comes, or at the end.  The first thing that is wrong decides what is said about the command
line.  What the command line leaves open is then looked up in the environment.
-/

namespace ZoneKeeper

/-- The options that take no value and end the reading. -/
inductive Flag where
  | help
  | version
  deriving DecidableEq, Repr

namespace Flag

def option : Flag → String
  | help => "help"
  | version => "version"

def letter : Flag → Char
  | help => 'h'
  | version => 'V'

def purpose : Flag → String
  | help => "Print help"
  | version => "Print version"

def all : List Flag :=
  [help, version]

def ofOption? (name : String) : Option Flag :=
  all.find? fun flag => flag.option = name

def ofLetter? (char : Char) : Option Flag :=
  all.find? fun flag => flag.letter = char

end Flag

/-- Why there is no configuration to run with. -/
inductive Refusal where
  | answered (flag : Flag)
  | unknownArgument (word : String)
  | missingValue (setting : Setting)
  | repeated (setting : Setting)
  | invalidValue (setting : Setting) (text reason : String)
  | needlessValue (flag : Flag) (text : String)
  deriving DecidableEq, Repr

/-- An option whose value has not been looked at, or has not been read yet. -/
structure Pending where
  setting : Setting
  text : Option String
  deriving DecidableEq, Repr

/-- A command line that has been read up to some word. -/
structure CommandLine where
  choices : Choices := {}
  pending : Option Pending := none
  /-- Whether no more options are expected. -/
  optionsEnded : Bool := false
  deriving DecidableEq, Repr

namespace CommandLine

def choose (choices : Choices) (setting : Setting) (text : String) : Except Refusal Choices :=
  match choices.choose setting text with
  | .ok choices => .ok choices
  | .error .missing => .error (.missingValue setting)
  | .error (.invalid reason) => .error (.invalidValue setting text reason)

def chooseOnce (choices : Choices) (setting : Setting) (text : String) :
    Except Refusal Choices :=
  if choices.has setting then .error (.repeated setting) else choose choices setting text

def settle (line : CommandLine) : Except Refusal CommandLine :=
  match line.pending with
  | none => .ok line
  | some ⟨setting, none⟩ => .error (.missingValue setting)
  | some ⟨setting, some text⟩ => do
      let choices ← chooseOnce line.choices setting text
      .ok { line with choices, pending := none }

/-- Splits a word behind its first equals sign. -/
def splitValue : List Char → List Char × Option (List Char)
  | [] => ([], none)
  | '=' :: text => ([], some text)
  | char :: text =>
      let (name, value) := splitValue text
      (char :: name, value)

def readOption (line : CommandLine) (name : String) (value : Option String) :
    Except Refusal CommandLine :=
  match Setting.ofOption? name, Flag.ofOption? name, value with
  | some setting, _, some text => do
      let line ← line.settle
      .ok { line with choices := ← chooseOnce line.choices setting text }
  | some setting, _, none => do
      .ok { ← line.settle with pending := some ⟨setting, none⟩ }
  | none, some flag, some text => .error (.needlessValue flag text)
  | none, some flag, none => do
      let _ ← line.settle
      .error (.answered flag)
  | none, none, _ => .error (.unknownArgument ("--" ++ name))

def readLetter (line : CommandLine) (letter : Char) : Except Refusal CommandLine :=
  match Flag.ofLetter? letter with
  | some flag => do
      let _ ← line.settle
      .error (.answered flag)
  | none => .error (.unknownArgument (String.ofList ['-', letter]))

/-- Reads a word that is no option: the value of the option before it. -/
def readValue (line : CommandLine) (word : String) : Except Refusal CommandLine :=
  match line.optionsEnded, line.pending with
  | false, some ⟨setting, none⟩ => .ok { line with pending := some ⟨setting, some word⟩ }
  | _, _ => .error (.unknownArgument word)

def readWord (line : CommandLine) (word : String) : Except Refusal CommandLine :=
  if line.optionsEnded then line.readValue word
  else
    match word.toList with
    | ['-', '-'] => .ok { line with optionsEnded := true }
    | '-' :: '-' :: text =>
        let (name, value) := splitValue text
        line.readOption (String.ofList name) (value.map String.ofList)
    | '-' :: letter :: _ => line.readLetter letter
    | _ => line.readValue word

def readWords (line : CommandLine) : List String → Except Refusal CommandLine
  | [] => line.settle
  | word :: words => do (← line.readWord word).readWords words

/-- Looks up in the environment what is still open. -/
def consult (environment : String → Option String) (choices : Choices) :
    List Setting → Except Refusal Choices
  | [] => .ok choices
  | setting :: settings =>
      match choices.has setting, environment setting.variableName with
      | false, some text => do consult environment (← choose choices setting text) settings
      | _, _ => consult environment choices settings

/-- The choices that a command line and the environment make. -/
def read (environment : String → Option String) (words : List String) :
    Except Refusal Choices := do
  let line ← ({} : CommandLine).readWords words
  consult environment line.choices Setting.all

end CommandLine

end ZoneKeeper
