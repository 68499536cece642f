import Acrostic.CommandLine.Execution
import Acrostic.Storage.Change

namespace Acrostic.Program

open CommandLine (Invocation)
open Storage (Path Place Store)

def placeOfText (text : String) : Place :=
  (text.toList.splitOn '/').filter (!·.isEmpty)

def textOfPlace (place : Place) : String :=
  "/" ++ "/".intercalate (place.map String.ofList)

-- The place that the path means where no links are followed
def placeOf (home : Place) (path : Path) : Place :=
  path.steps.foldl (fun place step =>
    match step with
    | .stay => place
    | .up => place.dropLast
    | .into name => place ++ [name]) (if path.isAbsolute then [] else home)

-- Takes over what is on the disk at the place, and so many levels of folders below it
def load : Nat → Store → Place → IO Store
  | depth, store, place => do
    try
      let found ← IO.FS.realPath (textOfPlace place)
      if ← found.isDir then
        let store := store.makeFolderAt place
        match depth with
        | 0 => return store
        | depth + 1 =>
          let entries ← found.readDir
          entries.foldlM
            (fun store entry => load depth store (place ++ [entry.fileName.toList])) store
      else return store.writeAt place (← IO.FS.readBinFile found)
    catch _ => return store

def loadPath (store : Store) (wanted : Path × Nat) : IO Store := do
  let place := placeOf store.home wanted.1
  let above := (List.range place.length).map place.take
  load wanted.2 (← above.foldlM (load 0) store) place

-- How deep folders are looked into
def depthLimit : Nat := 256

-- The paths that a command looks at, and how deep
def wanted (invocation : Invocation) : List (Path × Nat) :=
  let dictionary := invocation.dictionary.toList.map fun path => (path, 0)
  match invocation.command with
  | .apply input output => dictionary ++ [(input, 0), (output, 0)]
  | .batch input output _ _ recursive _ =>
    dictionary ++ [(input, if recursive then depthLimit else 1), (output, 1)]
  | .steps _ => dictionary

def snapshot (arguments : List (List Char)) : IO Store := do
  let home := placeOfText (← IO.currentDir).toString
  let store ← load 0 { Store.empty with home } home
  match Invocation.parse arguments with
  | .error _ => return store
  | .ok invocation => (wanted invocation).foldlM loadPath store

def commit (before after : Store) : IO Unit :=
  (before.changes after).forM fun change =>
    match change.content with
    | none => IO.FS.createDirAll (textOfPlace change.place)
    | some content => IO.FS.writeBinFile (textOfPlace change.place) content

def countProcessors : IO Nat := do
  try
    let lines := (← IO.FS.readFile "/proc/cpuinfo").splitOn "\n"
    return max 1 (lines.countP fun line => "processor".toList.isPrefixOf line.toList)
  catch _ => return 1

def isOn (name : String) : IO (Option Bool) := do
  return (← IO.getEnv name).map fun value => value != "0"

def wantsColor : IO Bool := do
  if (← isOn "CLICOLOR_FORCE") == some true then return true
  if (← isOn "NO_COLOR").isSome then return false
  return (← isOn "CLICOLOR").getD true && (← (← IO.getStdout).isTty)

end Acrostic.Program

open Acrostic in
def main (arguments : List String) : IO UInt32 := do
  let started ← IO.monoNanosNow
  let texts := arguments.map String.toList
  let before ← Program.snapshot texts
  let answer := CommandLine.run texts (← Program.countProcessors) before
  Program.commit before answer.store
  let elapsed := Report.Duration.ofParts 0 ((← IO.monoNanosNow) - started)
  let colored ← Program.wantsColor
  for notice in answer.notices do
    IO.print (notice.render colored elapsed)
  match answer.complaint with
  | some complaint => IO.eprint (complaint.render colored)
  | none => pure ()
  return UInt32.ofNat answer.exit
