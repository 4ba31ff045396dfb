import ZoneKeeper.Key

/-!
# Failures

What can go wrong while a key is looked up, handled or reconciled.  Every failure has a message,
and a chain of causes that starts at the failure it was made from.
-/

namespace ZoneKeeper

inductive FileError where
  | notFound
  | alreadyExists
  | notDirectory
  | isDirectory
  | nameTooLong
  | notText
  | nulByte
  | other (reason : String)
  deriving DecidableEq, Repr

def FileError.message : FileError → String
  | notFound => "No such file or directory (os error 2)"
  | alreadyExists => "File exists (os error 17)"
  | notDirectory => "Not a directory (os error 20)"
  | isDirectory => "Is a directory (os error 21)"
  | nameTooLong => "File name too long (os error 36)"
  | notText => "stream did not contain valid UTF-8"
  | nulByte => "file name contained an unexpected NUL byte"
  | other reason => reason

inductive CacheError where
  | lookup (kind : Kind) (key reason : String)
  | list (kind : Kind) (space reason : String)
  deriving DecidableEq, Repr

def CacheError.message : CacheError → String
  | lookup kind key reason => s!"failed to look up {kind.name} '{key}' in cache: {reason}"
  | list kind space reason =>
      s!"failed to list {kind.name} objects in namespace '{space}': {reason}"

inductive RenderFault where
  | missingParameter (helper : String)
  | unknownHelper (name : String)
  | unknownPartial (name : String)
  | unknownDecorator (name : String)
  | missingBody (decorator : String)
  /-- An item of an array is referred to by what is no number. -/
  | noIndex (text : String)
  | unknownLevel (level : String)
  /-- The templates that are inserted into one another are too many. -/
  | endless
  | reported (reason : String)
  deriving DecidableEq, Repr

def RenderFault.message : RenderFault → String
  | missingParameter helper => s!"a parameter of '{helper}' is missing"
  | unknownHelper name => s!"there is no helper '{name}'"
  | unknownPartial name => s!"there is no partial '{name}'"
  | unknownDecorator name => s!"there is no decorator '{name}'"
  | missingBody decorator => s!"the body of '{decorator}' is missing"
  | noIndex text => s!"there is no item '{text}' of an array"
  | unknownLevel level => s!"there is no level '{level}'"
  | endless => "partials are inserted into one another without end"
  | reported reason => reason

inductive HandlerError where
  | io (path : String) (cause : FileError)
  | template (reason : String)
  | render (zone : String) (fault : RenderFault)
  | key (error : KeyError)
  deriving DecidableEq, Repr

namespace HandlerError

def message : HandlerError → String
  | io path cause => s!"zone file operation on {path} failed: {cause.message}"
  | template reason => s!"invalid zone template: {reason}"
  | render zone fault => s!"failed to render zone '{zone}': {fault.message}"
  | key error => error.message

/-- The messages of the failures that this one was made from. -/
def causes : HandlerError → List String
  | io _ cause => [cause.message]
  | _ => []

end HandlerError

inductive ReconcileError where
  | malformedKey (error : KeyError)
  | lookupRetrying (path : String) (attempt : Nat) (source : CacheError)
  | lookupExhausted (path : String) (attempts : Nat) (source : CacheError)
  | deletionUnresolvable (path : String)
  | listing (path : String) (source : CacheError)
  | handler (path : String) (source : HandlerError)
  deriving DecidableEq, Repr

namespace ReconcileError

def message : ReconcileError → String
  | malformedKey error => error.message
  | lookupRetrying path attempt source =>
      s!"failed processing item with key {path}, retrying (attempt {attempt}): {source.message}"
  | lookupExhausted path attempts source =>
      s!"failed processing item with key {path} after {attempts} retries, giving up: " ++
        source.message
  | deletionUnresolvable path =>
      s!"object with key {path} is gone and no tombstone was captured, " ++
        "deletion cannot be handled"
  | listing path source => s!"failed listing siblings of {path}: {source.message}"
  | handler path source => s!"handler failed for {path}: {source.message}"

def category : ReconcileError → String
  | malformedKey _ => "malformed_key"
  | lookupRetrying .. => "cache_lookup_retrying"
  | lookupExhausted .. => "cache_lookup_exhausted"
  | deletionUnresolvable _ => "deletion_unresolvable"
  | listing .. => "listing"
  | handler .. => "handler"

/-- Whether the key was put back for another attempt. -/
def isRetrying : ReconcileError → Bool
  | lookupRetrying .. => true
  | _ => false

def causes : ReconcileError → List String
  | malformedKey _ | deletionUnresolvable _ => []
  | lookupRetrying _ _ source | lookupExhausted _ _ source | listing _ source => [source.message]
  | handler _ source => source.message :: source.causes

end ReconcileError

/-- How a reconcile pass ended, as it is counted. -/
inductive Outcome where
  | synced
  | deleted
  | retrying
  | dropped
  | failed
  deriving DecidableEq, Repr

def Outcome.name : Outcome → String
  | synced => "synced"
  | deleted => "deleted"
  | retrying => "retrying"
  | dropped => "dropped"
  | failed => "failed"

/-- A pass that could not settle its key drops it, unless it had reached a handler or a listing. -/
def ReconcileError.outcome : ReconcileError → Outcome
  | malformedKey _ | lookupExhausted .. | deletionUnresolvable _ => .dropped
  | lookupRetrying .. => .retrying
  | listing .. | handler .. => .failed

end ZoneKeeper
