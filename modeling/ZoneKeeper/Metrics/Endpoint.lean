import ZoneKeeper.Metrics.Exposition
import ZoneKeeper.Target

/-!
# Serving the metrics

The answers of the web server that serves the metrics: it knows a single path, and reads it only.
-/

namespace ZoneKeeper

structure Response where
  status : Nat
  contentType : Option String := none
  allow : Option String := none
  body : String := ""

namespace Metrics

def path : String := "/metrics"

def isMethod (text : String) : Bool :=
  !text.isEmpty && text.toList.all fun char =>
    char.isAlphanum || "!#$%&'*+-.^_|~".toList.contains char || char = Char.ofNat 0x60

def respond (metrics : Metrics) (method target : String) : Response :=
  let found := { status := 200, contentType := some "text/plain; version=0.0.4" : Response }
  if (Target.ofText? target).map Target.path ≠ some path.toList then { status := 404 }
  else if method = "GET" then { found with body := metrics.exposition }
  else if method = "HEAD" then found
  else { status := 405, allow := some "GET,HEAD" }

def respond? (metrics : Metrics) (method target : String) : Option Response :=
  if isMethod method && (Target.ofText? target).isSome then some (metrics.respond method target)
  else none

end Metrics

end ZoneKeeper
