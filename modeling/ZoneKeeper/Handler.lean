import ZoneKeeper.Files
import ZoneKeeper.Notice
import ZoneKeeper.Template.Render

/-!
# Handlers

Zones are materialized as files that a name server reads: one file a zone, with the text that the
template makes of its zone name.  A file that holds this text already is left alone; any other file
is replaced by renaming a file that was written beside it.  Records are not materialized.
-/

namespace ZoneKeeper

structure Reply where
  result : Except HandlerError Unit := .ok ()
  notices : List Notice := []

namespace Reply

def failed (error : HandlerError) : Reply :=
  { result := .error error }

def noting (notice : Notice) : Reply :=
  { notices := [notice] }

end Reply

namespace Template

/-- The text of the zone file for a zone name. -/
def render (template : Template) (zoneName : String) : Except HandlerError String :=
  (template.expand zoneName).mapError (HandlerError.render zoneName)

def ofSource (source : String) : Except HandlerError Template :=
  (compile source).mapError fun fault => .template fault.message

def standardSource : String :=
  "\n".intercalate
    [ "$ORIGIN \x7b\x7bthis\x7d\x7d.",
      "$TTL 3600",
      "@   IN SOA ns1.\x7b\x7bthis\x7d\x7d. hostmaster.\x7b\x7bthis\x7d\x7d. (",
      "        1          ; serial",
      "        7200       ; refresh",
      "        3600       ; retry",
      "        1209600    ; expire",
      "        3600 )     ; minimum",
      "@   IN NS  ns1.\x7b\x7bthis\x7d\x7d.",
      "" ]

def ofFile (files : Files) (path : String) : Except HandlerError Template :=
  match files.read path with
  | .error cause => .error (.io path cause)
  | .ok content =>
      match String.fromUTF8? content with
      | none => .error (.io path .notText)
      | some source => ofSource source

end Template

/-- The handler of both kinds of resource: a directory for zone files and their template. -/
structure Handler where
  directory : String
  template : Template

namespace Handler

/-- The name of the file of a zone, `namespace_name.zone`. -/
def fileName (zone : Resource) : Except KeyError String := do
  let path ← zone.path
  let address ← Address.parse path
  .ok (address.space ++ "_" ++ address.name ++ ".zone")

def pathOf (handler : Handler) (zone : Resource) : Except KeyError String :=
  (fileName zone).map (Path.join handler.directory)

/-- The name under which the content of a file is written before it is renamed. -/
def temporary (fileName : String) : String :=
  fileName ++ ".tmp"

def prepare (handler : Handler) (files : Files) : Reply × Files :=
  match files.makeDirectories handler.directory with
  | (.error cause, files) => (.failed (.io handler.directory cause), files)
  | (.ok (), files) =>
      ({ notices := [.zoneHandlerReady handler.directory, .recordHandlerReady handler.directory] },
        files)

/-- Writes a content beside a file and renames it over the file.  If that fails, nothing but the
file beside it may have changed. -/
def replace (target beside : String) (content : ByteArray) (files : Files) :
    Except HandlerError Unit × Files :=
  match files.write beside content with
  | .error cause => (.error (.io beside cause), files)
  | .ok written =>
      match written.rename beside target with
      | .ok renamed => (.ok (), renamed)
      | .error cause =>
          (.error (.io target cause), (written.removeFile beside).toOption.getD written)

def createZone (handler : Handler) (zone : Resource) (files : Files) : Reply × Files :=
  match fileName zone with
  | .error error => (.failed (.key error), files)
  | .ok name =>
      match handler.template.render zone.zoneName with
      | .error error => (.failed error, files)
      | .ok text =>
          let target := Path.join handler.directory name
          let beside := Path.join handler.directory (temporary name)
          let written := fun (_ : Unit) =>
            match replace target beside text.toUTF8 files with
            | (.error error, files) => (Reply.failed error, files)
            | (.ok (), files) =>
                (.noting (.zoneFileWritten zone.nameAny zone.zoneName target), files)
          match files.read target with
          | .ok content => if content.data = text.toUTF8.data then ({}, files) else written ()
          | .error .notFound => written ()
          | .error cause => (.failed (.io target cause), files)

def deleteZone (handler : Handler) (zone : Resource) (files : Files) : Reply × Files :=
  match handler.pathOf zone with
  | .error error => (.failed (.key error), files)
  | .ok path =>
      match files.removeFile path with
      | .ok files => (.noting (.zoneFileRemoved zone.nameAny path), files)
      | .error .notFound => ({}, files)
      | .error cause => (.failed (.io path cause), files)

/-- Brings about that a resource is there. -/
def created (handler : Handler) (resource : Resource) (files : Files) : Reply × Files :=
  match resource.kind with
  | .zone => handler.createZone resource files
  | .record => (.noting (.recordCreated resource.nameAny resource.zoneName), files)

/-- Brings about that a resource is gone. -/
def deleted (handler : Handler) (resource : Resource) (files : Files) : Reply × Files :=
  match resource.kind with
  | .zone => handler.deleteZone resource files
  | .record => (.noting (.recordDeleted resource.nameAny resource.zoneName), files)

/-- Replaces a resource by another: the old one is deleted and then the new one created, unless both
are records. -/
def updated (handler : Handler) (old new : Resource) (files : Files) : Reply × Files :=
  match old.kind, new.kind with
  | .record, .record =>
      (.noting (.recordUpdated new.nameAny old.zoneName new.zoneName), files)
  | _, _ =>
      match handler.deleted old files with
      | (⟨.error error, notices⟩, files) => (⟨.error error, notices⟩, files)
      | (⟨.ok (), before⟩, files) =>
          let (reply, files) := handler.created new files
          ({ reply with notices := before ++ reply.notices }, files)

end Handler

end ZoneKeeper
