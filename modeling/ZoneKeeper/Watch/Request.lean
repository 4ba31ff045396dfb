import ZoneKeeper.Manifest
import ZoneKeeper.Target
import ZoneKeeper.Text.Encoded

/-!
# Requests for objects

What is asked of the server is written as the target of a request.  The namespace stands in the path
as it is, so it can end the path early or make it no path at all.
-/

namespace ZoneKeeper.Watch

inductive Request where
  /-- A page of the listing: the first one, or the one that a token of the page before leads to. -/
  | list (token : Option String)
  /-- The changes after a version. -/
  | follow (version : String)
  deriving DecidableEq, Repr

/-- The place of the objects of a kind on the server, of one namespace or of all. -/
def collectionPath (kind : Kind) (space : Option String) : String :=
  let within := space.elim "" fun space => "namespaces/" ++ space ++ "/"
  "/apis/" ++ apiGroupVersion ++ "/" ++ within ++ kind.plural

def pageSize : Nat := 500

/-- The number of seconds after which the server ends a stream. -/
def streamSeconds : Nat := 290

def Request.parameters : Request → List (String × String)
  | .list token =>
      ("limit", toString pageSize) :: token.toList.map fun token => ("continue", token)
  | .follow version =>
      [ ("watch", "true"), ("timeoutSeconds", toString streamSeconds),
        ("allowWatchBookmarks", "true"), ("resourceVersion", version) ]

/-- The target of a request for a collection. -/
def Request.target? (path : String) (request : Request) : Option Target :=
  Target.ofPath? (path ++ "?&" ++ Text.encodeQuery request.parameters).toList

/-- A request in words, as the server understands it. -/
def Request.text (path : String) (request : Request) : String :=
  match request.target? path with
  | none => ""
  | some target =>
      let path := String.ofList target.path
      match target.parameter? "watch", target.parameter? "continue" with
      | some _, _ =>
          let version := (target.parameter? "resourceVersion").getD []
          "watch " ++ path ++ " from " ++ String.ofList version
      | none, some token => "list " ++ path ++ " continue " ++ String.ofList token
      | none, none => "list " ++ path

end ZoneKeeper.Watch
