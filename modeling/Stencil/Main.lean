import Stencil.Cli.Run

/-!
# The program

Runs the command line on the real file system. The commands themselves work on a
file tree; this layer fills the tree with what the run needs to see: the template
file, the context file, the place of the output file, and the files a partial may
come from. A render that reports a partial as not found is run again once the
places tried for it have been looked at, until nothing new is to be looked at.
-/

open Stencil
open Stencil.Cli
open Stencil.Files

/-- The variables of the environment the program reads. -/
def settingVariables : List String :=
  [Config.depthVariable, Config.autoescapeVariable, Config.encodingVariable, Config.rootVariable]

/-- What stands at a location of the file system. -/
def probe (location : List String) : IO (Option Entry) := do
  try
    let bytes ← IO.FS.readBinFile (Path.locationText location)
    return some (.file bytes)
  catch e =>
    match e with
    | .inappropriateType _ _ _ => return some .directory
    | _ => return none

/-- Look at locations not looked at before, recording what stands there. -/
def probeAll (tree : Tree) (seen : List (List String)) (locations : List (List String)) :
    IO (Tree × List (List String)) := do
  let mut tree := tree
  let mut seen := seen
  for location in locations do
    unless seen.contains location do
      seen := location :: seen
      match ← probe location with
      | some e => tree := tree.add location e
      | none => pure ()
  return (tree, seen)

/-- The locations the system's walk of a written path passes through. -/
def walkLocations (tree : Tree) (written : String) : List (List String) :=
  let parts := Tree.writtenParts written
  let start := if written.startsWith "/" then [] else tree.cwd
  (List.range (parts.length + 1)).map fun n => (parts.take n).foldl Tree.step start

/-- The locations a command needs to see before it runs. -/
def firstLocations (tree : Tree) (args : List String) : List (List String) :=
  let at_ (s : String) : List (List String) :=
    let location := tree.locate (Path.ofString s)
    [location, location.dropLast] ++ walkLocations tree s
  match readCommandLine args with
  | .run (.check file) | .run (.tokens file) => at_ file
  | .run (.render request) =>
    at_ request.file ++ (request.json.map at_).getD [] ++ (request.output.map at_).getD []
  | _ => []

/-- Run the command line until every partial it looked for has been looked at. -/
def settle (tree : Tree) (seen : List (List String)) (env : List (String × String))
    (args : List String) : Nat → IO Run
  | 0 => return Cli.run tree env args
  | fuel + 1 => do
    let result := Cli.run tree env args
    match result.reported, readCommandLine args, Config.ofEnvironment env with
    | some e, .run (.render request), .ok cfg =>
      match e.fault with
      | .partialNotFoundUnder path _ =>
        let wanted := ((renderLoader tree cfg request).candidates path).filter (!seen.contains ·)
        if wanted.isEmpty then return result
        else
          let (tree', seen') ← probeAll tree seen wanted
          settle tree' seen' env args fuel
      | _ => return result
    | _, _, _ => return result

/-- Run the program. -/
def main (args : List String) : IO UInt32 := do
  let cwd := Path.resolve [] (Path.ofString (← IO.currentDir).toString)
  let env ← settingVariables.filterMapM fun name => do
    return (← IO.getEnv name).map (name, ·)
  let empty := Tree.ofFiles cwd []
  let (tree, seen) ← probeAll empty [] (firstLocations empty args)
  let result ← settle tree seen env args 10000
  for (location, bytes) in result.written do
    IO.FS.writeBinFile (Path.locationText location) bytes
  IO.print result.stdout
  IO.eprint result.stderr
  match result.exit with
  | .code n => return n.toUInt32
  | .exception => return 1
