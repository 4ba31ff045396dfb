import ZoneKeeper.Definition.Generator
import ZoneKeeper.Startup

/-!
# The programs

Under the name `crdgen` the program writes the definitions of all kinds; under any other name it
starts up as the controller does where there is no server.
-/

namespace ZoneKeeper

/-- The variables of the environment that a setting can come from. -/
def readEnvironment : IO (String → Option String) := do
  let values ← Setting.all.mapM fun setting => do
    return (setting.variableName, ← IO.getEnv setting.variableName)
  return fun name => (values.lookup name).join

/-- Whether an action succeeds, and the message of its failure if it does not. -/
def failure? (action : IO Unit) : IO (Option String) := do
  try
    action
    return none
  catch error =>
    return some (toString error)

def loadTemplate (config : Config) : IO (Except HandlerError Template) := do
  match config.templateFile with
  | none => return Template.ofSource Template.standardSource
  | some path =>
      try
        match String.fromUTF8? (← IO.FS.readBinFile path) with
        | some source => return Template.ofSource source
        | none => return .error (.io path .notText)
      catch error =>
        return .error (.io path (.other (toString error)))

def complain (reason : String) : IO UInt32 := do
  IO.eprintln ("Error: " ++ reason)
  return 1

def startWith (config : Config) : IO UInt32 := do
  match ← loadTemplate config with
  | .error error => complain (Obstacle.template error).message
  | .ok _ =>
      let directory := config.zoneDirectory
      match ← failure? (IO.FS.createDirAll directory) with
      | some reason =>
          complain (Obstacle.handlers (.io directory (.other reason))).message
      | none => complain Obstacle.noServer.message

def startController (words : List String) : IO UInt32 := do
  let environment ← readEnvironment
  match Config.read environment words with
  | .ok config => startWith config
  | .error refusal =>
      let message := refusal.message environment
      if refusal.exitCode = 0 then IO.print message else IO.eprintln message
      return refusal.exitCode.toUInt32

def writeDefinitions : IO UInt32 := do
  if let some reason ← failure? (IO.FS.createDirAll Definition.directory) then
    return ← complain reason
  IO.print Definition.greeting
  for kind in [Kind.zone, Kind.record] do
    let path := Path.join Definition.directory (Definition.fileName kind)
    if let some reason ← failure? (IO.FS.writeFile path (Definition.content kind)) then
      return ← complain reason
    IO.print (Definition.confirmation kind)
  IO.print Definition.farewell
  return 0

end ZoneKeeper

def main (words : List String) : IO UInt32 := do
  if (← IO.appPath).fileName = some "crdgen" then ZoneKeeper.writeDefinitions
  else ZoneKeeper.startController words
