import AnchorPatch.CommandLine.Run
import AnchorPatch.Disk.Setup
import AnchorPatch.Log.Moment
import Std.Time.DateTime.Timestamp

namespace AnchorPatch.Main

def location (path : String) : Location := (Path.pieces path.toList).filter (· ≠ [])

def content (bytes : ByteArray) : Content :=
  match String.fromUTF8? bytes with
  | some s => .text s.toList
  | none => .bytes bytes.toList

/-- Copies what the file system has at a path. What a link leads to is copied too, to where it
really is. -/
def copyEntry (d : Disk) (path : Path) : IO Disk := do
  let name := String.ofList path
  match ← (IO.FS.realPath name).toBaseIO with
  | .error _ => return d
  | .ok real =>
      let place := location (toString real)
      let here := d.current ++ location name
      let d := if place = here then d else d.makeLink path place.toPath
      if ← real.isDir then return d.makeDirectories place.toPath
      else return d.writeFile place.toPath (content (← IO.FS.readBinFile name))

/-- Copies what the file system has at the places on the way to a path, and at the path itself. -/
def copyAlong (d : Disk) (path : Path) : IO Disk :=
  let pieces := Path.pieces path
  (List.range pieces.length).foldlM
    (fun d n => copyEntry d (['/'].intercalate (pieces.take (n + 1)))) d

def copyDisk : IO Disk := do
  let current := location (toString (← IO.FS.realPath "."))
  let d := { ({ entries := [], current } : Disk).makeDirectories current.toPath with current }
  let target := Config.builtin.info.target
  let gate : Gate := { backupSuffix := Config.builtin.info.backupSuffix }
  copyAlong (← copyAlong d target) (gate.backupPath target)

def writeChanges (old new : Disk) : IO Unit :=
  for (place, entry) in new.entries do
    if old.get? place ≠ some entry then
      if let .file (.text s) _ := entry then
        let name := String.ofList place.toPath
        if let some (.link _) := old.get? place then IO.FS.removeFile name
        IO.FS.writeFile name (String.ofList s)

def isSet (name : String) : IO Bool := return (← IO.getEnv name).any (· ≠ "0")

/-- Whether output has colours: if that is forced, or else on a terminal unless it is refused. -/
def wantsColours : IO Bool := do
  if ← isSet "CLICOLOR_FORCE" then return true
  if (← IO.getEnv "NO_COLOR").isSome || (← IO.getEnv "CLICOLOR") = some "0" then return false
  (← IO.getStdout).isTty

def now : IO Log.Moment :=
  return (← Std.Time.Timestamp.now).toNanosecondsSinceUnixEpoch.val.toNat / 1000

def printNotice (n : CommandLine.Notice) : IO Unit := do
  let text := String.ofList n.text
  match n with
  | .event _ => IO.eprintln ((← now).text ++ " " ++ text)
  | .line _ => IO.eprintln text

end AnchorPatch.Main

open AnchorPatch in
def main (arguments : List String) : IO UInt32 := do
  let disk ← Main.copyDisk
  let effect := CommandLine.run (arguments.map String.toList)
    { disk, colours := ← Main.wantsColours, logFilter := (← IO.getEnv "RUST_LOG").map String.toList }
  Main.writeChanges disk effect.disk
  effect.notices.forM Main.printNotice
  IO.print (String.ofList effect.output)
  return effect.code.toUInt32
