import Stencil.Text.Digit
import Stencil.Text.Quoted

/-!
# Command-line options

Reading a command line in the usual style of option parsers: options are flags
(`-h`, `--debug`) or take one value (`-v NAME=VALUE`, `--json FILE`); a value may
follow as the next argument, after `=` (`--var=x`), or joined to a one-letter flag
(`-vx`); a one-letter flag that takes no value reads the letters joined to it as
more one-letter flags (`-hv` is `-h -v`), up to a letter that names none, which
with the rest is left over; a long flag may be shortened to any
unambiguous prefix (`--ro` for `--root`); the first `--` ends the options.
Positional arguments fill the declared names in order, each taking with it a
`--` that stands right before or after it; an option's value is never taken
across a `--`. What is left over, a `--` that no positional took included, is
reported as unrecognized.

The module also lays out usage lines and help texts: usage wrapped at 78
columns, continuation lines aligned under the first argument, and help columns
starting at column 24 at most.
-/

namespace Stencil.Cli

/-- An option: its flags, the name of its value if it takes one, and its help. -/
structure OptionSpec where
  flags : List String
  metavar : Option String := none
  help : String
  deriving Inhabited

/-- A command's arguments: its name as shown, options and positional names with help. -/
structure CommandSpec where
  prog : String
  description : Option String := none
  options : List OptionSpec
  positionals : List (String × String)
  deriving Inhabited

/-- The option that asks for help. -/
def helpOption : OptionSpec :=
  { flags := ["-h", "--help"], help := "show this help message and exit" }

/-- The name an option goes by in messages: its flags joined by `/`. -/
def OptionSpec.name (o : OptionSpec) : String := "/".intercalate o.flags

/-- A value written in the same argument as its option: after `=` (`--var=x`,
`-v=x`), or joined right to a one-letter flag (`-vx`). -/
structure Attached where
  text : String
  afterEquals : Bool
  deriving Inhabited

/-- An argument after classification. -/
inductive Arg where
  /-- A positional argument. -/
  | positional (text : String)
  /-- A known option, the flag it was named by, and the value attached to it if
  there was one. -/
  | option (spec : OptionSpec) (flag : String) (attached : Option Attached)
  /-- An argument that looks like an option but names none. -/
  | unknown (text : String)
  /-- The first `--`, after which every argument is positional. -/
  | separator
  deriving Inhabited

/-- Whether a character is a decimal digit of any script. -/
def isDecimalDigit (c : Char) : Bool := (Text.decimalDigitValue? c).isSome

/-- Whether an argument reads as a negative number, like `-5` or `-.5`, in decimal
digits of any script; one line feed may end it. -/
def isNegativeNumber (s : String) : Bool :=
  let cs := s.toList
  let body := if cs.getLast? = some '\n' then cs.dropLast else cs
  match body with
  | '-' :: rest =>
    let digits := rest.takeWhile isDecimalDigit
    let after := rest.dropWhile isDecimalDigit
    (!digits.isEmpty && after.isEmpty) ||
      (match after with
        | '.' :: frac => !frac.isEmpty && frac.all isDecimalDigit
        | _ => false)
  | _ => false

/-- The options among `specs` with a flag satisfying a test, each with the flag. -/
def flagMatches (specs : List OptionSpec) (test : String → Bool) : List (OptionSpec × String) :=
  specs.flatMap fun o => (o.flags.filter test).map fun f => (o, f)

/-- Classify one argument against the options. -/
def classify (specs : List OptionSpec) (s : String) : Except String Arg :=
  let exact := flagMatches specs (· = s)
  if !s.startsWith "-" || s = "-" then .ok (.positional s)
  else
    match exact with
    | (o, f) :: _ => .ok (.option o f none)
    | [] =>
      let (before, after) := match s.splitOn "=" with
        | b :: r :: rest => (b, some ("=".intercalate (r :: rest)))
        | _ => (s, none)
      let withValue := if after.isSome then flagMatches specs (· = before) else []
      match withValue, after with
      | (o, f) :: _, some v => .ok (.option o f (some ⟨v, true⟩))
      | _, _ =>
        if s.startsWith "--" then
          let candidates := flagMatches specs (·.startsWith before)
          match candidates with
          | [(o, f)] => .ok (.option o f (after.map (⟨·, true⟩)))
          | [] => if isNegativeNumber s || s.contains ' ' then .ok (.positional s) else .ok (.unknown s)
          | many =>
            .error ("ambiguous option: " ++ s ++ " could match " ++
              ", ".intercalate (many.map (·.2)))
        else
          let short := String.ofList (s.toList.take 2)
          let shorts := flagMatches specs (· = short)
          let longs := flagMatches specs (fun f => f ≠ short && f.startsWith s)
          match shorts ++ longs with
          | [(o, f)] =>
            if f = short then .ok (.option o f (some ⟨String.ofList (s.toList.drop 2), false⟩))
            else .ok (.option o f none)
          | [] => if isNegativeNumber s || s.contains ' ' then .ok (.positional s) else .ok (.unknown s)
          | many =>
            .error ("ambiguous option: " ++ s ++ " could match " ++
              ", ".intercalate (many.map (·.2)))

/-- Classify arguments, one for one: everything after the first `--` is positional.
The first argument that is ambiguous fails the classification. -/
def classifyAll (specs : List OptionSpec) : List String → Except String (List Arg)
  | [] => .ok []
  | "--" :: rest => .ok (.separator :: rest.map .positional)
  | s :: rest =>
    match classify specs s, classifyAll specs rest with
    | .error e, _ => .error e
    | _, .error e => .error e
    | .ok a, .ok as => .ok (a :: as)

/-- What reading a command's arguments found. -/
structure Reading where
  /-- Option values by the option's first flag, in the order given; flags have an
  empty value. -/
  values : List (String × String) := []
  /-- Positional arguments by name. -/
  positionals : List (String × String) := []
  /-- Arguments not recognized. -/
  extras : List String := []
  deriving Inhabited

/-- How reading a command's arguments ended. -/
inductive Outcome where
  /-- The arguments were read. -/
  | read (r : Reading)
  /-- Help was asked for. -/
  | help
  /-- The arguments are wrong; the message. -/
  | failed (message : String)
  deriving Inhabited

/-- The one-letter flag among `specs` that a character names. -/
def shortFlag? (specs : List OptionSpec) (c : Char) : Option (OptionSpec × String) :=
  (flagMatches specs (· = String.ofList ['-', c])).head?

/-- What one option argument stands for: the options in order, each with the value
attached to it, and the tail of a chain of one-letter flags that names no option, if
the chain stopped at one. -/
structure Expansion where
  taken : List (OptionSpec × Option String)
  leftover : Option String := none
  deriving Inhabited

/-- Expand one option argument. An option that takes a value takes the attached text
whole. A one-letter flag that takes none reads text joined right to it as a further
one-letter flag, its first letter, with the rest (after an `=`, if one follows the
letter) attached to that; the chain stops at a letter that names no flag, leaving
`-` and the text from that letter on over. Text after `=`, text that starts with
`-`, an empty text, and text attached to a long flag that takes no value are
refused. The last option may still want its value from the next argument. -/
def expandOption (specs : List OptionSpec) (o : OptionSpec) (flag : String) :
    Option Attached → Nat → Except String Expansion
  | none, _ => .ok ⟨[(o, none)], none⟩
  | some a, fuel =>
    let refuse : Except String Expansion :=
      .error ("argument " ++ o.name ++ ": ignored explicit argument " ++ Text.quote a.text)
    if o.metavar.isSome then .ok ⟨[(o, some a.text)], none⟩
    else
      match fuel, flag.toList, a.text.toList with
      | fuel + 1, '-' :: c :: _, d :: more =>
        if c = '-' || a.afterEquals || d = '-' then refuse
        else
          match shortFlag? specs d with
          | some (next, f) =>
            let rest : Option Attached := match more with
              | [] => none
              | '=' :: value => some ⟨String.ofList value, true⟩
              | _ => some ⟨String.ofList more, false⟩
            (expandOption specs next f rest fuel).map fun e => { e with taken := (o, none) :: e.taken }
          | none => .ok ⟨[(o, none)], some ("-" ++ a.text)⟩
      | _, _, _ => refuse

/-- Whether an option asks for help. -/
def OptionSpec.asksHelp (o : OptionSpec) : Bool := o.flags.headD "" = "-h"

/-- The option of a chain that still wants its value from the next argument. -/
def pendingValue? (taken : List (OptionSpec × Option String)) : Option OptionSpec :=
  match taken.getLast? with
  | some (o, none) => if o.metavar.isSome then some o else none
  | _ => none

/-- Record the values of options taken in order. -/
def Reading.take (r : Reading) (taken : List (OptionSpec × Option String)) : Reading :=
  taken.foldl (fun r (o, v) => { r with values := (o.flags.headD "", v.getD "") :: r.values }) r

set_option linter.unusedVariables false in
/-- Read classified arguments against the options `specs`, the positional names
still to fill being `names`. The equations `h` are used by the termination proof. -/
def readArgs (specs : List OptionSpec) (names : List String) (r : Reading) : List Arg → Outcome
  | [] =>
    match names with
    | [] => .read { r with values := r.values.reverse, extras := r.extras.reverse }
    | _ => .failed ("the following arguments are required: " ++ ", ".intercalate names)
  | .separator :: rest =>
    match h : rest with
    | .positional s :: after =>
      match names with
      | n :: more => readArgs specs more { r with positionals := r.positionals ++ [(n, s)] } after
      | [] => readArgs specs [] { r with extras := s :: "--" :: r.extras } after
    | _ => readArgs specs names { r with extras := "--" :: r.extras } rest
  | .positional s :: rest =>
    match names with
    | [] => readArgs specs [] { r with extras := s :: r.extras } rest
    | n :: more =>
      let filled := { r with positionals := r.positionals ++ [(n, s)] }
      match h : rest with
      | .separator :: after => readArgs specs more filled after
      | _ => readArgs specs more filled rest
  | .unknown s :: rest => readArgs specs names { r with extras := s :: r.extras } rest
  | .option o flag attached :: rest =>
    match expandOption specs o flag attached ((attached.map (·.text.length)).getD 0) with
    | .error m => .failed m
    | .ok ⟨taken, leftover⟩ =>
      let r := match leftover with
        | some x => { r with extras := x :: r.extras }
        | none => r
      match pendingValue? taken with
      | some last =>
        match rest with
        | .positional v :: more =>
          let taken := taken.dropLast ++ [(last, some v)]
          if taken.any (·.1.asksHelp) then .help else readArgs specs names (r.take taken) more
        | _ => .failed ("argument " ++ last.name ++ ": expected one argument")
      | none => if taken.any (·.1.asksHelp) then .help else readArgs specs names (r.take taken) rest
termination_by args => args.length
decreasing_by all_goals (simp_all; try omega)

/-- Read a command's arguments against its declaration. -/
def CommandSpec.read (c : CommandSpec) (args : List String) : Outcome :=
  match classifyAll c.options args with
  | .error e => .failed e
  | .ok classified => readArgs c.options (c.positionals.map (·.1)) {} classified

/-- The usage form of an option: its first flag, with its value's name. -/
def OptionSpec.usage (o : OptionSpec) : String :=
  "[" ++ o.flags.headD "" ++ (match o.metavar with
    | some m => " " ++ m
    | none => "") ++ "]"

/-- The width of a line. -/
def lineWidth : Nat := 78

/-- Lay out parts on lines no wider than the line width, lines after the first
to be indented by `indent` columns, the first line already holding `start`
columns. The lines are given without their indentation. -/
def wrapParts (indent start : Nat) (parts : List String) : List String :=
  let step : List String × List String × Nat → String → List String × List String × Nat :=
    fun (done, line, len) part =>
      if len + 1 + part.length > lineWidth && !line.isEmpty then
        (done ++ [" ".intercalate line], [part], indent + part.length)
      else (done, line ++ [part], len + 1 + part.length)
  let (done, line, _) := parts.foldl step ([], [], start)
  if line.isEmpty then done else done ++ [" ".intercalate line]

/-- The usage text of a command, given the usage parts of its positional arguments. -/
def usageText (prog : String) (options : List OptionSpec) (positionals : List String) : String :=
  let optionParts := options.map OptionSpec.usage
  let prefixText := "usage: "
  let whole := prefixText ++ " ".intercalate (prog :: optionParts ++ positionals)
  if whole.length ≤ lineWidth then whole
  else
    let width := prefixText.length + prog.length + 1
    let indent := String.ofList (List.replicate width ' ')
    let first := wrapParts width (prefixText.length - 1) (prog :: optionParts)
    let second := wrapParts width (width - 1) positionals
    let lines := (first.zipIdx.map fun (l, i) => if i = 0 then prefixText ++ l else indent ++ l) ++
      second.map (indent ++ ·)
    "\n".intercalate lines

/-- The usage text of a command. -/
def CommandSpec.usage (c : CommandSpec) : String :=
  usageText c.prog c.options (c.positionals.map (·.1))

/-- The invocation column of an option in help: each flag with its value's name. -/
def OptionSpec.invocation (o : OptionSpec) : String :=
  ", ".intercalate (o.flags.map fun f => f ++ (match o.metavar with
    | some m => " " ++ m
    | none => ""))

/-- Help entries, each an invocation at an indent with its help, laid out with the
help column at `column`. -/
def helpLines (column : Nat) (entries : List (Nat × String × String)) : List String :=
  entries.flatMap fun (indent, invocation, help) =>
    let pad := String.ofList (List.replicate indent ' ')
    if help.isEmpty then [pad ++ invocation]
    else if indent + invocation.length + 2 ≤ column then
      [pad ++ invocation ++ String.ofList (List.replicate (column - indent - invocation.length) ' ') ++ help]
    else [pad ++ invocation, String.ofList (List.replicate column ' ') ++ help]

/-- The help column for entries: two past the longest invocation, at most 24. -/
def helpColumn (entries : List (Nat × String × String)) : Nat :=
  min 24 ((entries.map fun (indent, invocation, _) => indent + invocation.length).foldl max 0 + 2)

/-- The help text of a command with extra entries under its positional arguments. -/
def helpText (usage : String) (description : Option String)
    (positionals : List (Nat × String × String)) (options : List OptionSpec) : String :=
  let optionEntries := options.map fun o => (2, o.invocation, o.help)
  let column := helpColumn (positionals ++ optionEntries)
  let sections :=
    [usage] ++ (match description with
      | some d => [d]
      | none => []) ++
    (if positionals.isEmpty then [] else
      ["positional arguments:\n" ++ "\n".intercalate (helpLines column positionals)]) ++
    ["options:\n" ++ "\n".intercalate (helpLines column optionEntries)]
  "\n\n".intercalate sections ++ "\n"

/-- The help text of a command. -/
def CommandSpec.helpText (c : CommandSpec) : String :=
  Stencil.Cli.helpText c.usage c.description
    (c.positionals.map fun (n, h) => (2, n, h)) c.options

end Stencil.Cli
