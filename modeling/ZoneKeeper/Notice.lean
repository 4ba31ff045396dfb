import ZoneKeeper.Failure
import ZoneKeeper.Resource
import ZoneKeeper.Text.Quoted

/-!
# Notices

Everything that the controller reports about its work.  A notice has a level, a fixed message and
named fields.
-/

namespace ZoneKeeper

inductive Level where
  | info
  | warn
  | error
  deriving DecidableEq, Repr

def Level.name : Level → String
  | info => "INFO"
  | warn => "WARN"
  | error => "ERROR"

inductive Notice where
  | awaitingCaches
  | cachesSynced
  | controllerStarted
  | controllerStopped
  | stopRequested (pending : Nat)
  | eventsClosed
  | synced (outcome : Outcome)
  | passFailed (error : ReconcileError)
  | unaddressableDeletion (error : KeyError)
  | claimedByOlderZone (zoneName owner : String)
  | recordObserved (zoneName : String) (siblings : List String)
  | deletionDetected
  | recreated
  | handOverUnlisted (error : CacheError)
  | handingOver (claimant : ResourceKey) (zoneName : String)
  | unaddressableClaimant (error : KeyError)
  | unaddressableChange (kind : Kind) (error : KeyError)
  | vanished (kind : Kind) (count : Nat)
  | zoneHandlerReady (directory : String)
  | recordHandlerReady (directory : String)
  | zoneFileWritten (zone zoneName path : String)
  | zoneFileRemoved (zone path : String)
  | recordCreated (record zoneName : String)
  | recordDeleted (record zoneName : String)
  | recordUpdated (record oldZoneName zoneName : String)
  deriving DecidableEq, Repr

namespace Notice

def level : Notice → Level
  | passFailed error => if error.isRetrying then .warn else .error
  | eventsClosed | unaddressableDeletion _ | handOverUnlisted _ | unaddressableClaimant _
  | unaddressableChange .. => .warn
  | _ => .info

def message : Notice → String
  | awaitingCaches => "Waiting for caches to sync"
  | cachesSynced => "Caches synced"
  | controllerStarted => "Controller started"
  | controllerStopped => "Controller stopped"
  | stopRequested _ => "Stop requested, draining queue"
  | eventsClosed => "Watch event channel closed"
  | synced _ => "Successfully synced"
  | passFailed error =>
      if error.isRetrying then "Reconcile failed, retrying" else "Reconcile failed"
  | unaddressableDeletion _ => "Dropping delete event for unaddressable object"
  | claimedByOlderZone .. => "Zone name already claimed by an older zone"
  | recordObserved .. => "Record observed"
  | deletionDetected => "Object deletion detected"
  | recreated => "Object re-created before its deletion was handled"
  | handOverUnlisted _ => "Cannot list zones to hand over deleted zone name"
  | handingOver .. => "Handing over zone name"
  | unaddressableClaimant _ => "Skipping unaddressable zone"
  | unaddressableChange .. => "Ignoring watch event for unaddressable object"
  | vanished .. => "Objects disappeared during relist"
  | zoneHandlerReady _ => "ZoneHandler initialized"
  | recordHandlerReady _ => "RecordHandler initialized"
  | zoneFileWritten .. => "Zone file written"
  | zoneFileRemoved .. => "Zone file removed"
  | recordCreated .. => "RecordHandler.object_created"
  | recordDeleted .. => "RecordHandler.object_deleted"
  | recordUpdated .. => "RecordHandler.object_updated"

def fields : Notice → List (String × String)
  | awaitingCaches | cachesSynced | controllerStarted | controllerStopped | eventsClosed
  | deletionDetected | recreated => []
  | stopRequested pending => [("pending", toString pending)]
  | synced outcome => [("outcome", outcome.name)]
  | passFailed error =>
      ("error", error.message) ::
        if error.isRetrying then [] else [("category", error.category)]
  | unaddressableDeletion error | unaddressableClaimant error => [("error", error.message)]
  | claimedByOlderZone zoneName owner => [("zone_name", zoneName), ("canonical", owner)]
  | recordObserved zoneName siblings =>
      [("zone_name", zoneName), ("siblings", Text.quotedList siblings)]
  | handOverUnlisted error => [("error", error.message)]
  | handingOver claimant zoneName => [("claimant", claimant.text), ("zone_name", zoneName)]
  | unaddressableChange kind error => [("kind", kind.name), ("error", error.message)]
  | vanished kind count => [("kind", kind.name), ("count", toString count)]
  | zoneHandlerReady directory | recordHandlerReady directory => [("zone_dir", directory)]
  | zoneFileWritten zone zoneName path =>
      [("zone", zone), ("zone_name", zoneName), ("path", path)]
  | zoneFileRemoved zone path => [("zone", zone), ("path", path)]
  | recordCreated record zoneName | recordDeleted record zoneName =>
      [("record", record), ("zone_name", zoneName)]
  | recordUpdated record oldZoneName zoneName =>
      [("record", record), ("old_zone_name", oldZoneName), ("zone_name", zoneName)]

end Notice

end ZoneKeeper
