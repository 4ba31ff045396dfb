import ZoneKeeper.SocketAddress

/-!
# Settings

What can be configured, each by an option on the command line or by a variable of the environment,
and what a value for it has to look like.
-/

namespace ZoneKeeper

inductive Setting where
  | zoneDirectory
  | template
  | space
  | metricsAddress
  | eventBuffer
  deriving DecidableEq, Repr

namespace Setting

/-- The settings in the order in which they are looked up and listed. -/
def all : List Setting :=
  [zoneDirectory, template, space, metricsAddress, eventBuffer]

def option : Setting → String
  | zoneDirectory => "zone-dir"
  | template => "template"
  | space => "namespace"
  | metricsAddress => "metrics-addr"
  | eventBuffer => "event-buffer"

def variableName : Setting → String
  | zoneDirectory => "COREDNS_ZONE_DIR"
  | template => "COREDNS_TEMPLATE"
  | space => "COREDNS_NAMESPACE"
  | metricsAddress => "COREDNS_METRICS_ADDR"
  | eventBuffer => "COREDNS_EVENT_BUFFER"

/-- What stands for the value where the option is explained. -/
def placeholder : Setting → String
  | zoneDirectory => "ZONE_DIR"
  | template => "TEMPLATE"
  | space => "NAMESPACE"
  | metricsAddress => "METRICS_ADDR"
  | eventBuffer => "EVENT_BUFFER"

def purpose : Setting → String
  | zoneDirectory => "Directory the zone files are written to"
  | template => "Zone template file. The built-in template is used when unset"
  | space => "Only watch this namespace"
  | metricsAddress => "Bind address of the Prometheus endpoint"
  | eventBuffer => "Capacity of the channel between the watchers and the dispatcher"

def usage (setting : Setting) : String :=
  "--" ++ setting.option ++ " <" ++ setting.placeholder ++ ">"

/-- The setting of an option name; one of the options has a second spelling. -/
def ofOption? (name : String) : Option Setting :=
  if name = "zone_dir" then some zoneDirectory
  else all.find? fun setting => setting.option = name

end Setting

inductive CountFault where
  | empty
  | notDigit
  | tooLarge
  deriving DecidableEq, Repr

def CountFault.message : CountFault → String
  | empty => "cannot parse integer from empty string"
  | notDigit => "invalid digit found in string"
  | tooLarge => "number too large to fit in target type"

/-- Reads digits behind a value, up to the first one that makes no sense. -/
def countFrom (value : Nat) : List Char → Except CountFault Nat
  | [] => .ok value
  | char :: text =>
      if char.isDigit then
        let value := value * 10 + (char.toNat - '0'.toNat)
        if value < 0x10000000000000000 then countFrom value text else .error .tooLarge
      else .error .notDigit

/-- Reads a number of 64 bits, with or without a plus sign. -/
def parseCount (text : String) : Except CountFault Nat :=
  match text.toList with
  | [] => .error .empty
  | ['+'] => .error .notDigit
  | '+' :: digits => countFrom 0 digits
  | digits => countFrom 0 digits

inductive ValueFault where
  /-- The setting is a path, which is not empty. -/
  | missing
  | invalid (reason : String)
  deriving DecidableEq, Repr

def pathValue (text : String) : Except ValueFault String :=
  if text = "" then .error .missing else .ok text

def addressValue (text : String) : Except ValueFault SocketAddress :=
  match SocketAddress.parse? text with
  | some address => .ok address
  | none => .error (.invalid "invalid socket address syntax")

/-- The number of events in the buffer, of which there is at least one. -/
def bufferValue (text : String) : Except ValueFault Nat :=
  match parseCount text with
  | .ok 0 => .error (.invalid "event buffer must hold at least one event")
  | .ok count => .ok count
  | .error fault => .error (.invalid fault.message)

/-- The settings that have been given values. -/
structure Choices where
  zoneDirectory : Option String := none
  template : Option String := none
  space : Option String := none
  metricsAddress : Option SocketAddress := none
  eventBuffer : Option Nat := none
  deriving DecidableEq, Repr

namespace Choices

def has (choices : Choices) : Setting → Bool
  | .zoneDirectory => choices.zoneDirectory.isSome
  | .template => choices.template.isSome
  | .space => choices.space.isSome
  | .metricsAddress => choices.metricsAddress.isSome
  | .eventBuffer => choices.eventBuffer.isSome

/-- Gives a setting the value that a text stands for. -/
def choose (choices : Choices) (setting : Setting) (text : String) : Except ValueFault Choices :=
  match setting with
  | .zoneDirectory => do return { choices with zoneDirectory := some (← pathValue text) }
  | .template => do return { choices with template := some (← pathValue text) }
  | .space => .ok { choices with space := some text }
  | .metricsAddress => do return { choices with metricsAddress := some (← addressValue text) }
  | .eventBuffer => do return { choices with eventBuffer := some (← bufferValue text) }

end Choices

end ZoneKeeper
