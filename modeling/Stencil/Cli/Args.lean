import Stencil.Cli.Options
import Stencil.Text.Quoted

/-!
# The engine's command line

```
python -m rumtpl [--debug] check FILE
python -m rumtpl [--debug] tokens FILE
python -m rumtpl [--debug] render FILE [-v NAME=VALUE ...] [--json FILE] [--root DIR] [-o FILE]
python -m rumtpl [--debug] methods
```

Options before the command belong to the program, everything after the command's
name to the command. The program's options are looked for in every argument up to
the first `--`, so an argument that could name either of them, like `--=x`, is
refused by the program wherever it stands. A wrong command line is answered with the usage of the part
that refused it and the reason; arguments that nobody recognized are reported
with the program's usage.
-/

namespace Stencil.Cli

/-- The name the program goes by. -/
def programName : String := "python -m rumtpl"

/-- The commands. -/
def commandNames : List String := ["check", "tokens", "render", "methods"]

/-- What a render is asked to do. -/
structure RenderRequest where
  file : String
  vars : List String := []
  json : Option String := none
  root : Option String := none
  output : Option String := none
  deriving Inhabited

/-- A command to run. -/
inductive Command where
  | check (file : String)
  | tokens (file : String)
  | render (request : RenderRequest)
  | methods
  deriving Inhabited

/-- What a command line asks for. -/
inductive Request where
  /-- Run a command. -/
  | run (c : Command)
  /-- Show a help text. -/
  | help (text : String)
  /-- Refuse the command line: the usage and the reason. -/
  | refuse (usage : String) (prog : String) (reason : String)
  deriving Inhabited

/-- The option that turns on debugging output. -/
def debugOption : OptionSpec := { flags := ["--debug"], help := "Enable debug logging" }

/-- The program's own options. -/
def programOptions : List OptionSpec := [helpOption, debugOption]

/-- The usage part of the command argument. -/
def commandPart : String := "\x7b" ++ ",".intercalate commandNames ++ "\x7d ..."

/-- The program's usage. -/
def programUsage : String :=
  usageText programName programOptions [commandPart]

/-- The one-line help of each command. -/
def commandHelp : List (String × String) :=
  [("check", "Check that a template parses"), ("tokens", "Dump the token stream"),
   ("render", "Render a template"), ("methods", "List built-in methods per type")]

/-- The program's help. -/
def programHelp : String :=
  helpText programUsage (some "rumtpl template engine")
    ((2, "\x7b" ++ ",".intercalate commandNames ++ "\x7d", "") ::
      commandHelp.map fun (n, h) => (4, n, h))
    programOptions

/-- The declaration of a command's arguments. -/
def commandSpec (name : String) : CommandSpec :=
  let prog := programName ++ " " ++ name
  let file := [("file", "Template file")]
  if name = "render" then
    { prog := prog, positionals := file,
      options := [helpOption,
        { flags := ["-v", "--var"], metavar := some "NAME=VALUE",
          help := "Context variable (can be repeated)" },
        { flags := ["--json"], metavar := some "FILE",
          help := "JSON object holding context variables" },
        { flags := ["--root"], metavar := some "DIR",
          help := "Directory partials are loaded from" },
        { flags := ["-o", "--output"], metavar := some "FILE",
          help := "Write the output to a file" }] }
  else if name = "methods" then { prog := prog, positionals := [], options := [helpOption] }
  else { prog := prog, positionals := file, options := [helpOption] }

/-- The last value given to an option. -/
def lastValue (r : Reading) (flag : String) : Option String :=
  (r.values.filter (·.1 = flag)).getLast?.map (·.2)

/-- The command a reading of a command's arguments asks for. -/
def commandOf (name : String) (r : Reading) : Command :=
  let file := ((r.positionals.find? (·.1 = "file")).map (·.2)).getD ""
  if name = "check" then .check file
  else if name = "tokens" then .tokens file
  else if name = "methods" then .methods
  else
    let vars := (r.values.filter fun v => v.1 = "-v").map Prod.snd
    .render { file := file, vars := vars, json := lastValue r "--json",
              root := lastValue r "--root", output := lastValue r "-o" }

/-- How the program's own options were read. -/
inductive ProgramReading where
  /-- Help was asked for. -/
  | help
  /-- No command was named. -/
  | missing
  /-- A command was named: the arguments not recognized before it, its name, and
  the arguments after it. -/
  | command (extras : List String) (name : String) (rest : List String)
  deriving Inhabited

/-- Read the program's options up to the command's name, from the arguments as
written beside their classification; `extras` holds the arguments not recognized
so far, last first. The command's name is the first positional argument, or a
`--` that has arguments after it. -/
def readProgram (extras : List String) : List (String × Arg) → Except String ProgramReading
  | [] => .ok .missing
  | (_, .separator) :: rest =>
    match rest with
    | [] => .ok .missing
    | _ => .ok (.command extras.reverse "--" (rest.map (·.1)))
  | (_, .positional name) :: rest => .ok (.command extras.reverse name (rest.map (·.1)))
  | (_, .unknown u) :: rest => readProgram (u :: extras) rest
  | (_, .option o flag attached) :: rest =>
    match expandOption programOptions o flag attached ((attached.map (·.text.length)).getD 0) with
    | .error e => .error e
    | .ok ⟨taken, leftover⟩ =>
      if taken.any (·.1.asksHelp) then .ok .help
      else readProgram (match leftover with | some x => x :: extras | none => extras) rest

/-- What a command line asks for. -/
def readCommandLine (args : List String) : Request :=
  let refuseProgram := Request.refuse programUsage programName
  let reading : Except String ProgramReading := match classifyAll programOptions args with
    | .error e => .error e
    | .ok classified => readProgram [] (args.zip classified)
  match reading with
  | .error e => refuseProgram e
  | .ok .missing => refuseProgram "the following arguments are required: action"
  | .ok .help => .help programHelp
  | .ok (.command extras name rest) =>
    if name ∉ commandNames then
      refuseProgram ("argument action: invalid choice: " ++ Text.quote name ++ " (choose from " ++
        ", ".intercalate (commandNames.map Text.quote) ++ ")")
    else
      let spec := commandSpec name
      match spec.read rest with
      | .help => .help spec.helpText
      | .failed reason => .refuse spec.usage spec.prog reason
      | .read r =>
        let unrecognized := extras ++ r.extras
        if unrecognized.isEmpty then .run (commandOf name r)
        else refuseProgram ("unrecognized arguments: " ++ " ".intercalate unrecognized)

end Stencil.Cli
