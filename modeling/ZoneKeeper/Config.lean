import ZoneKeeper.CommandLine
import ZoneKeeper.Handler
import ZoneKeeper.Text.Terminal

/-!
# The configuration

What the program runs with, what it says when it is given no configuration, and the handler that a
configuration makes.
-/

namespace ZoneKeeper

def programName : String := "corezone"

def programVersion : String := "0.1.0"

def programPurpose : String :=
  "Kubernetes controller that materializes Zone resources as CoreDNS zone files"

structure Config where
  zoneDirectory : String := "/tmp/zones/"
  /-- Without a file the standard template is used. -/
  templateFile : Option String := none
  /-- Without a namespace all of them are watched. -/
  space : Option String := none
  metricsAddress : SocketAddress := .v4 ⟨0, 0, 0, 0⟩ 8080
  eventBuffer : Nat := 1024
  deriving DecidableEq, Repr

namespace Config

def standard : Config := {}

def ofChoices (choices : Choices) : Config where
  zoneDirectory := choices.zoneDirectory.getD standard.zoneDirectory
  templateFile := choices.template
  space := choices.space
  metricsAddress := choices.metricsAddress.getD standard.metricsAddress
  eventBuffer := choices.eventBuffer.getD standard.eventBuffer

def read (environment : String → Option String) (words : List String) : Except Refusal Config :=
  (CommandLine.read environment words).map ofChoices

def template (config : Config) (files : Files) : Except HandlerError Template :=
  match config.templateFile with
  | some path => Template.ofFile files path
  | none => Template.ofSource Template.standardSource

def handler (config : Config) (files : Files) : Except HandlerError Handler :=
  (config.template files).map fun template => ⟨config.zoneDirectory, template⟩

end Config

/-- The value that a setting has by itself, if it has one. -/
def Setting.standardText? : Setting → Option String
  | zoneDirectory => some Config.standard.zoneDirectory
  | metricsAddress => some Config.standard.metricsAddress.text
  | eventBuffer => some (toString Config.standard.eventBuffer)
  | template | space => none

namespace Help

/-- A text filled up with blanks. -/
def pad (width : Nat) (text : String) : String :=
  text ++ String.ofList (List.replicate (width - text.length) ' ')

/-- The explanation of a setting, with its variable and the value of the variable. -/
def explanation (environment : String → Option String) (setting : Setting) : String :=
  let name := setting.variableName
  let value := (environment name).getD ""
  let standard := setting.standardText?.elim "" fun text => " [default: " ++ text ++ "]"
  setting.purpose ++ " [env: " ++ name ++ "=" ++ value ++ "]" ++ standard

/-- What is listed: the option as it is written, and its explanation. -/
structure Entry where
  /-- The room that is left for a letter. -/
  lead : String
  option : String
  explanation : String

def Entry.width (entry : Entry) : Nat :=
  entry.lead.length + entry.option.length

def entries (environment : String → Option String) : List Entry :=
  (Setting.all.map fun setting => ⟨"    ", setting.usage, explanation environment setting⟩) ++
    Flag.all.map fun flag =>
      ⟨"", String.ofList ['-', flag.letter] ++ ", --" ++ flag.option, flag.purpose⟩

/-- The command to a terminal that stands before every option. -/
def restart : String := "\x1b[0m"

/-- The lines of an entry, whose explanation begins in a column. -/
def Entry.text (column : Nat) (entry : Entry) : String :=
  let option := pad (column - entry.lead.length - 2) entry.option
  "  " ++ entry.lead ++ restart ++ option ++
    entry.explanation.replace "\n" ("\n" ++ pad column "")

def text (environment : String → Option String) : String :=
  let entries := entries environment
  let column := (entries.map Entry.width).foldl max 0 + 4
  let usage := "Usage: " ++ programName ++ " [OPTIONS]"
  Text.shownText <| "\n".intercalate <|
    [programPurpose, "", usage, "", "Options:"] ++ entries.map (Entry.text column) ++ [""]

end Help

namespace Refusal

/-- What is wrong with the command line, or the answer that was asked for, as a terminal shows
it. -/
def message (environment : String → Option String) : Refusal → String
  | answered .help => Help.text environment
  | answered .version => programName ++ " " ++ programVersion ++ "\n"
  | unknownArgument word => s!"error: unexpected argument '{Text.shownText word}' found"
  | missingValue setting =>
      s!"error: a value is required for '{setting.usage}' but none was supplied"
  | repeated setting =>
      s!"error: the argument '{setting.usage}' cannot be used multiple times"
  | invalidValue setting text reason =>
      s!"error: invalid value '{Text.shownText text}' for '{setting.usage}': {reason}"
  | needlessValue flag text =>
      s!"error: unexpected value '{Text.shownText text}' for '--{flag.option}' found; " ++
        "no more were expected"

def exitCode : Refusal → Nat
  | answered _ => 0
  | _ => 2

end Refusal

end ZoneKeeper
