import ZoneKeeper.Config
import ZoneKeeper.Report

/-!
# Starting up

Before the controller runs, the template is loaded, the handlers are made ready, and the server is
looked for.  Without a server the program ends here.
-/

namespace ZoneKeeper

inductive Obstacle where
  | template (error : HandlerError)
  | handlers (error : HandlerError)
  | noServer
  deriving DecidableEq, Repr

def Obstacle.message : Obstacle → String
  | template _ => "failed to load zone template"
  | handlers _ => "failed to initialize handlers"
  | noServer => "Failed to infer configuration"

namespace Startup

/-- Makes the handlers ready. -/
def prepare (config : Config) (files : Files) : Except Obstacle Handler × Files :=
  match config.handler files with
  | .error error => (.error (.template error), files)
  | .ok handler =>
      let (reply, files) := handler.prepare files
      (match reply.result with
        | .ok () => .ok handler
        | .error error => .error (.handlers error), files)

/-- Runs the program where there is no server. -/
def run (environment : String → Option String) (words : List String) (files : Files) : Report :=
  match Config.read environment words with
  | .error refusal =>
      let message := refusal.message environment
      if refusal.exitCode = 0 then { output := message, files }
      else { exitCode := refusal.exitCode, complaint := message ++ "\n", files }
  | .ok config =>
      match prepare config files with
      | (.error obstacle, files) => .failed obstacle.message files
      | (.ok _, files) => .failed Obstacle.noServer.message files

end Startup

end ZoneKeeper
