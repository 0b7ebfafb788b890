import CaseSheet.Command.Perform
import Std.Time.Zoned.Database
/-!
# The program

Reads the files that a command may look at, lets the command do its work on that picture of them,
says what it has to say, and writes the files that are new or have changed. Requests are not sent
from here: each of them fails as if there were no connection.
-/

open CaseSheet

/-- The names that lead to an absolute path. -/
def namesOf (path : String) : List String :=
  ((Path.pieces path.toList).filter fun p => !Path.isIdle p).map String.ofList

/-- Whether the text of a file may be asked for: it is named on the command line, or its name is
that of a case sheet or of a configuration. -/
def mayBeRead (named : List (List String)) (path : String) : Bool :=
  named.contains (namesOf path) || (Sheet.Format.ofPath? path).isSome ||
    (Path.name? path).any fun n => String.ofList n == Config.fileName

/-- The files at a path. Links to directories are not followed. -/
partial def picture (named : List (List String)) (path : String) : IO FileTree := do
  let place ← IO.FS.realPath path
  if ← place.isDir then
    let entries ← place.readDir
    let inside ← entries.toList.filterMapM fun e => do
      let kind := (← e.path.symlinkMetadata).type
      if kind == .symlink && (← e.path.isDir) then return none
      else return some (e.fileName, ← picture named e.path.toString)
    return .directory (Fields.ofList inside)
  else if mayBeRead named path then
    return .file (String.fromUTF8? (← IO.FS.readBinFile path))
  else return .file none

/-- Adds the configuration files of the directories from a place up. -/
partial def addConfigs (t : FileTree) (loc : List String) : IO FileTree := do
  let path := Path.join (Config.pathOfPlace loc) Config.fileName
  let found ← try
      let t' ← picture [] path
      pure (some t')
    catch _ => pure none
  let t := match found with
    | some c => t.putAt (loc ++ [Config.fileName]) c
    | none => t
  if loc.isEmpty then return t else addConfigs t loc.dropLast

/-- Adds the files at a path to those read so far, if there is anything. -/
def addPlace (named : List (List String)) (t : FileTree) (path : String) : IO FileTree := do
  try
    let place := (← IO.FS.realPath path).toString
    let t := t.putAt (namesOf place) (← picture named place)
    addConfigs t (namesOf place)
  catch _ => return t

/-- Writes what is in the second tree and not in the first. -/
def writeChanges (before after : FileTree) : IO Unit :=
  (after.listing []).forM fun (loc, t) => do
    let path := Config.pathOfPlace loc
    match t, before.at? loc with
    | .directory _, none => IO.FS.createDirAll path
    | .file (some text), some (.file (some old)) =>
      if text != old then IO.FS.writeFile path text
    | .file (some text), _ => IO.FS.writeFile path text
    | _, _ => pure ()

/-- The present instant, and the local time. -/
def readClock : IO (Instant × DateTime) := do
  let now ← Std.Time.Timestamp.now
  let secs := now.val.second.val
  let offset ← try
      let rules ← Std.Time.Database.defaultGetLocalZoneRules
      pure (rules.findLocalTimeTypeForTimestamp now).gmtOffset.second.val
    catch _ => pure 0
  let instant : Instant := { secs, nanos := now.val.nano.val.toNat }
  return (instant, .ofInstant { instant with secs := secs + offset })

def main (args : List String) : IO UInt32 := do
  let here := (← IO.FS.realPath ".").toString
  let named ← args.filterMapM fun (a : String) => do
    try return some (namesOf (← IO.FS.realPath a).toString) catch _ => return none
  let before ← ("." :: args).foldlM (addPlace named) .empty
  let (instant, localTime) ← readClock
  let world : Command.World := {
    send := fun _ _ => .error (.connect "no network")
    clock := {
      elapsed := fun _ => .ofSecs 0
      finishedAt := fun _ => instant
      savedAt := fun _ => localTime }
    colours := ← (← IO.getStdout).isTty }
  let outcome := Command.respond world { tree := before, workingDir := namesOf here } args
  IO.print outcome.out
  IO.eprint outcome.err
  writeChanges before outcome.files.tree
  return UInt32.ofNat outcome.exitCode
