import DeadCode.DataFile
import DeadCode.Digest.Md5
import DeadCode.Glob.Files
import DeadCode.Json.Writer
import DeadCode.Log
import DeadCode.Platform
import DeadCode.Record.Collected
import DeadCode.Version

/-!
# The cache

What was collected from each file, kept in a directory between runs: a manifest with the fingerprint of every file, and one
data file for each. The fingerprint is the time of the last change and the size, so a file that is unchanged need not be
read again. A manifest of another version is discarded with everything that goes with it.
-/

namespace DeadCode
set_option autoImplicit false

/-- Why a cache stops a run. -/
inductive CacheError where
  | notAnObject
  | wrongShape
  | missing (field : String)
  | notText
  | excess (fault : Json.Fault)
  | nullInPath
  | nameNotText
  | disk (e : DiskError)
  deriving DecidableEq, Repr

/-- An open cache. `stamp` is the time that a new manifest tells. -/
structure Cache where
  platform : Platform
  directory : Path
  enabled : Bool := true
  stamp : String := ""
  manifest : List (String × Json) := []
  hits : Nat := 0
  misses : Nat := 0
  writes : Nat := 0
  deriving Inhabited

namespace Cache

/-- A manifest without files. -/
def emptyManifest (stamp : String) : List (String × Json) :=
  [("version", .str version), ("created", .str stamp), ("files", .obj [])]

/-- The path of the manifest. -/
def manifestPath (c : Cache) : Path := c.directory.below "manifest.json"

/-- The path under which a new manifest is written before it takes the place of the old one. -/
def draftPath (c : Cache) : Path := c.directory.below "manifest.tmp"

/-- The name of the data file for a path in UTF-8. -/
def blobName (path : List UInt8) : String := Md5.hex path ++ ".json"

/-- The time of the last change and the size as one text. -/
def printOf (modified : Decimal) (size : Nat) : String := modified.render ++ ":" ++ toString size

/-- The fingerprint of a file, or of a directory, if it is there. A path with a zero character in it is none. -/
def fingerprint (p : Platform) (d : Disk) (here : Path) (file : String) : Except CacheError (Option String) :=
  if file.toList.contains '\x00' then .error .nullInPath else
  match d.get? (here.resolve (Path.ofString file)) with
  | some (.file bytes modified) => .ok (some (printOf modified bytes.length))
  | some .directory =>
    let (modified, size) := p.directoryStat (here.resolve (Path.ofString file))
    .ok (some (printOf modified size))
  | none => .ok none

/-- The data files and the manifest, by path. -/
def dataFiles (c : Cache) (d : Disk) (here : Path) : List Path :=
  (d.matching (here.resolve c.directory) ["*.json"]).map fun p => c.directory.below p.name

/-- Removes the data files. One that cannot be removed is told of. -/
def removeAll (d : Disk) (here : Path) : List Path → Disk × List LogLine
  | [] => (d, [])
  | p :: ps =>
    match d.remove (here.resolve p) with
    | .ok d => removeAll d here ps
    | .error e =>
      let (d, logs) := removeAll d here ps
      (d, ⟨.warning, "Could not remove " ++ p.text ++ ": " ++ e.message p.text⟩ :: logs)

/-- Removes the draft of a manifest, if there is one. -/
def removeDraft (c : Cache) (d : Disk) (here : Path) : Except CacheError Disk :=
  let p := here.resolve c.draftPath
  if !d.holds p then .ok d else
  match d.remove p with
  | .ok d => .ok d
  | .error e => .error (.disk e)

/-- The cache and the disk without anything that was kept. The disk and the log lines are there even if it fails. -/
def clear (c : Cache) (d : Disk) (here : Path) : Cache × Disk × List LogLine × Except CacheError Unit :=
  let c := { c with manifest := emptyManifest c.stamp }
  if !d.holds (here.resolve c.directory) then (c, d, [], .ok ()) else
  let (d, logs) := removeAll d here (c.dataFiles d here)
  match c.removeDraft d here with
  | .ok d => (c, d, logs, .ok ())
  | .error e => (c, d, logs, .error e)

/-- The line about a manifest that cannot be read. -/
def unreadable (c : Cache) (reason : String) : LogLine :=
  ⟨.warning, "Ignoring unreadable cache manifest " ++ c.manifestPath.text ++ ": " ++ reason⟩

/-- The line about a manifest of another version. -/
def otherVersion (manifest : Json) : LogLine :=
  let found := ((manifest.get? "version").map Json.display).getD "None"
  ⟨.info, "Cache version mismatch (found " ++ found ++ ", expected " ++ version ++ "); clearing cache"⟩

/-- Reads the manifest. -/
def load (c : Cache) (d : Disk) (here : Path) : Cache × Disk × List LogLine × Except CacheError Unit :=
  match d.readJson (here.resolve c.manifestPath) c.platform.limits with
  | .error (.unreadable .notFound _) => (c, d, [], .ok ())
  | .error (.unreadable e _) => (c, d, [c.unreadable (e.message c.manifestPath.text)], .ok ())
  | .error (.malformed e) =>
    if e.fault.isExcess then (c, d, [], .error (.excess e.fault)) else (c, d, [c.unreadable e.message], .ok ())
  | .error (.undecodable _ _) => (c, d, [], .error .notText)
  | .ok data =>
    match data, data.get? "version" == some (.str version) with
    | .obj ms, true =>
      ({ c with manifest := if Assoc.has ms "files" then ms else Assoc.set ms "files" (.obj []) }, d, [], .ok ())
    | _, _ =>
      let (c, d, logs, r) := c.clear d here
      (c, d, otherVersion data :: logs, r)

/-- Opens the cache in a directory. One that is disabled reads and writes nothing. -/
def start (platform : Platform) (directory : Path) (enabled : Bool) (stamp : String) (d : Disk) (here : Path) :
    Cache × Disk × List LogLine × Except CacheError Unit :=
  let c : Cache := { platform, directory, enabled, stamp, manifest := emptyManifest stamp }
  if enabled then c.load d here else (c, d, [], .ok ())

/-- The files of the manifest. -/
def files (c : Cache) : Json := (Assoc.get? c.manifest "files").getD (.obj [])

/-- What the manifest tells of a file. -/
def recordOf (c : Cache) (file : String) : Except CacheError Json :=
  match c.files with
  | .obj ms => .ok ((Assoc.get? ms file).getD .null)
  | _ => .error .notAnObject

/-- Is the file as it was when it was kept? -/
def isValid (c : Cache) (d : Disk) (here : Path) (file : String) : Except CacheError Bool :=
  if !c.enabled then .ok false else do
  match ← c.recordOf file with
  | .null => return false
  | record =>
    match record, ← fingerprint c.platform d here file with
    | _, none => return false
    | .obj ms, some now => return Assoc.get? ms "fingerprint" == some (.str now)
    | _, some _ => throw .notAnObject

/-- The path of the data file of a record. -/
def blobPath (c : Cache) (record : Json) : Except CacheError Path :=
  match record with
  | .obj ms =>
    match Assoc.get? ms "blob_ref" with
    | some (.str name) => .ok (c.directory.below name)
    | some _ => .error .wrongShape
    | none => .error (.missing "blob_ref")
  | _ => .error .wrongShape

/-- The cache without a file. -/
def forget (c : Cache) (file : String) : Cache :=
  { c with manifest := Assoc.set c.manifest "files" (.obj (Assoc.erase c.files.members file)) }

/-- What was kept of a file, if it is unchanged. Data that cannot be read is forgotten; data that is no object or is nested
too deeply stops the run. -/
def get (c : Cache) (d : Disk) (here : Path) (file : String) : Except CacheError (Cache × Option Loaded) :=
  if !c.enabled then .ok (c, none) else do
  if !(← c.isValid d here file) then return ({ c with misses := c.misses + 1 }, none)
  let path ← c.blobPath (← c.recordOf file)
  let miss := { c.forget file with misses := c.misses + 1 }
  match d.readJson (here.resolve path) c.platform.limits with
  | .error e => if e.isNesting then throw (.excess .nesting) else return (miss, none)
  | .ok data =>
    match Loaded.ofJson data with
    | .ok found => return ({ c with hits := c.hits + 1 }, some found)
    | .error .notAnObject => throw .notAnObject
    | .error _ => return (miss, none)

/-- Makes the directory of the cache and writes a file in it, or says why that fails. -/
def writeIn (c : Cache) (d : Disk) (here path : Path) (content : String) (now : Decimal) : Except String Disk :=
  match d.makeDirectories (here.resolve c.directory) with
  | .error e => .error (e.message c.directory.text)
  | .ok d =>
    match d.write (here.resolve path) (Utf8.encode content) now with
    | .error e => .error (e.message path.text)
    | .ok d => .ok d

/-- The cache with a new record of a file. -/
def enter (c : Cache) (file print blob : String) : Except CacheError Cache :=
  match c.files with
  | .obj ms =>
    let record : Json := .obj [("fingerprint", .str print), ("blob_ref", .str blob)]
    .ok { c with manifest := Assoc.set c.manifest "files" (.obj (Assoc.set ms file record)), writes := c.writes + 1 }
  | _ => .error .wrongShape

/-- Keeps the data of a file. That stops the run if the name of the file is no text. -/
def set (c : Cache) (d : Disk) (here : Path) (now : Decimal) (file : String) (data : Json) :
    Disk × List LogLine × Except CacheError Cache :=
  if !c.enabled then (d, [], .ok c) else
  match fingerprint c.platform d here file, c.platform.pathBytes file with
  | .error e, _ => (d, [], .error e)
  | .ok none, _ => (d, [], .ok c)
  | .ok (some _), none => (d, [], .error .nameNotText)
  | .ok (some print), some path =>
    let blob := blobName path
    match c.writeIn d here (c.directory.below blob) data.compact now with
    | .error reason => (d, [⟨.warning, "Could not write cache entry for " ++ file ++ ": " ++ reason⟩], .ok c)
    | .ok d => (d, [], c.enter file print blob)

/-- Writes the manifest. -/
def save (c : Cache) (d : Disk) (here : Path) (now : Decimal) : Disk × List LogLine :=
  if !c.enabled then (d, []) else
  let failed := fun (reason : String) =>
    [LogLine.mk .warning ("Could not write cache manifest " ++ c.manifestPath.text ++ ": " ++ reason)]
  match c.writeIn d here c.draftPath (Json.obj c.manifest).indented now with
  | .error reason => (d, failed reason)
  | .ok d =>
    match d.rename (here.resolve c.draftPath) (here.resolve c.manifestPath) with
    | .ok d => (d, [])
    | .error e => (d, failed (e.message c.draftPath.text ++ " -> " ++ Text.quoted c.manifestPath.text))

/-- Number of files in the manifest. -/
def fileCount (c : Cache) : Except CacheError Nat :=
  match c.files with
  | .obj ms => .ok ms.length
  | .arr xs => .ok xs.length
  | .str s => .ok s.length
  | _ => .error .wrongShape

/-- Number of bytes in data files. -/
def size (c : Cache) (d : Disk) (here : Path) : Nat :=
  (c.dataFiles d here).foldl (fun n p => match d.get? (here.resolve p) with
    | some (.file bytes _) => n + bytes.length
    | _ => n) 0

/-- Counts of the cache. -/
structure Stats where
  enabled : Bool
  directory : String
  files : Nat
  size : Nat
  hits : Nat
  misses : Nat
  writes : Nat
  deriving DecidableEq, Inhabited, Repr

/-- The counts of the cache. -/
def stats (c : Cache) (d : Disk) (here : Path) : Except CacheError Stats := do
  return { enabled := c.enabled, directory := c.directory.text, files := ← c.fileCount, size := c.size d here
           hits := c.hits, misses := c.misses, writes := c.writes }

/-- The share of the lookups that found something. -/
def Stats.hitRate (s : Stats) : Decimal :=
  if s.hits + s.misses = 0 then Decimal.ofInt 0 else Decimal.ofRatio false s.hits (s.hits + s.misses)

end Cache
end DeadCode
