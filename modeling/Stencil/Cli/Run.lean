import Stencil.Cli.Args
import Stencil.Files.Loader
import Stencil.Value.JsonText
import Stencil.Render.Source
import Stencil.Token.Scan

/-!
# Running the command line

The commands of the program, run on a file tree:

* `check FILE` parses a template and reports the number of its top-level nodes;
* `tokens FILE` lists a template's tokens, each with its line and column;
* `render FILE` renders a template with a context from a JSON file (`--json`) and
  from variables (`-v NAME=VALUE`, later ones winning), partials coming from files
  under a root directory (`--root`, else the configured root, else the template's
  directory), to standard output or to a file (`-o`);
* `methods` lists the methods of every kind of value.

Settings come from the environment. Failures a user can mend are reported on
standard error with exit code 1; a wrong command line with exit code 2. A setting
that is not valid, or an encoding that is not known, ends the program with an
exception rather than an exit code.

A variable's value is read as a truth value (`true` or `false` in any case), an
integer numeral, a decimal numeral, or else a text, one pair of matching quotes
around it removed.
-/

namespace Stencil.Cli

open Stencil.Files

/-- How a run of the program ends. -/
inductive Exit where
  | code (n : Nat)
  | exception
  deriving DecidableEq, Repr, Inhabited

/-- A run of the program: how it ended, what it wrote to its two output streams,
and the file tree after it. -/
structure Run where
  exit : Exit
  stdout : String := ""
  stderr : String := ""
  tree : Tree
  /-- The files written, in order. -/
  written : List (List String × ByteArray) := []
  /-- The engine error reported, if the run ended with one. -/
  reported : Option TemplateError := none
  deriving Inhabited

namespace Run

/-- A run that ends well, having written some text. -/
def done (tree : Tree) (stdout : String) : Run := { exit := .code 0, stdout := stdout, tree := tree }

/-- A run that reports a failure on standard error. -/
def failed (tree : Tree) (message : String) : Run :=
  { exit := .code 1, stderr := message ++ "\n", tree := tree }

/-- A run that reports an engine error on standard error. -/
def reportError (tree : Tree) (e : TemplateError) : Run :=
  { failed tree e.format with reported := some e }

/-- A run ended by an exception of a class, with its message. -/
def raised (tree : Tree) (className message : String) : Run :=
  { exit := .exception, stderr := className ++ ": " ++ message ++ "\n", tree := tree }

/-- A run ended by an engine error raised as an exception. -/
def raisedError (tree : Tree) (e : TemplateError) : Run :=
  { raised tree e.errorClass.name e.format with reported := some e }

/-- A run that reports an engine error, or ends with a host failure's exception. -/
def reportFailure (tree : Tree) : Failure → Run
  | .template e => reportError tree e
  | .host f => raised tree f.className f.message

end Run

/-- Why a template file cannot be read: it is not there, it cannot be opened or
decoded, or reading it raises an exception, with the exception's class and message. -/
inductive ReadFailure where
  | notFound
  | unreadable (message : String)
  | raised (className message : String)
  deriving Inhabited

/-- The text of a template file in an encoding. The file is opened before the
encoding is looked up. -/
def readTemplate (tree : Tree) (path : Path) (encoding : String) : Except ReadFailure String :=
  if Path.hasNul path.toText || !tree.isFileAt path then .error .notFound
  else
    match tree.openFound (tree.findPath path) with
    | .error f => .error (.unreadable (f.message path.toText))
    | .ok bytes =>
      match Codec.lookup encoding with
      | .error m => .error (.raised "LookupError" m)
      | .ok codec =>
        match readText codec bytes with
        | .ok s => .ok s
        | .error (.span m) => .error (.unreadable m)
        | .error (.whole m) => .error (.raised "UnicodeError" m)
        | .error .internal => .error (.raised "RuntimeError" CodecError.internal.message)

/-- The run that reports a failure to read a template file. -/
def readFailureRun (tree : Tree) (path : Path) : ReadFailure → Run
  | .notFound => .failed tree ("Error: File not found: " ++ path.toText)
  | .unreadable m => .failed tree ("Error: cannot read " ++ path.toText ++ ": " ++ m)
  | .raised c m => .raised tree c m

/-- Check that a template parses. -/
def runCheck (tree : Tree) (env : List (String × String)) (file : String) : Run :=
  match Config.ofEnvironment env with
  | .error e => .raisedError tree e
  | .ok cfg =>
    let path := Path.ofString file
    match readTemplate tree path cfg.encoding with
    | .error f => readFailureRun tree path f
    | .ok source =>
      match Template.parse source (some path.toText) with
      | .error e => .reportFailure tree e
      | .ok t =>
        .done tree ("OK: " ++ path.name ++ " - " ++ toString t.nodes.length ++
          " node(s), no errors\n")

/-- A token as the listing shows it: its kind, and the value of a literal, a name or
a text. -/
def tokenText (t : Token) : String :=
  let shown : Option String := match t.kind, t.value with
    | .intLiteral, .int n => some (toString n)
    | .floatLiteral, .float x => some (Number.floatText x)
    | .stringLiteral, .str s | .identifier, .str s | .text, .str s => some (Text.quote s)
    | _, _ => none
  match shown with
  | some v => t.kind.name ++ "(" ++ v ++ ")"
  | none => t.kind.name

/-- A text padded on the left to a width. -/
def padLeft (width : Nat) (s : String) : String :=
  String.ofList (List.replicate (width - s.length) ' ') ++ s

/-- A text padded on the right to a width. -/
def padRight (width : Nat) (s : String) : String :=
  s ++ String.ofList (List.replicate (width - s.length) ' ')

/-- The listing line of a token. -/
def tokenLine (t : Token) : String :=
  padLeft 4 (toString t.span.start.line) ++ ":" ++ padRight 4 (toString t.span.start.column) ++
    " " ++ tokenText t ++ "\n"

/-- List a template's tokens. -/
def runTokens (tree : Tree) (env : List (String × String)) (file : String) : Run :=
  match Config.ofEnvironment env with
  | .error e => .raisedError tree e
  | .ok cfg =>
    let path := Path.ofString file
    match readTemplate tree path cfg.encoding with
    | .error f => readFailureRun tree path f
    | .ok source =>
      match Token.scan source (some path.toText) with
      | .error e => .reportFailure tree e
      | .ok tokens => .done tree (String.join (tokens.map tokenLine))

/-- A text without one pair of matching quotes around it. -/
def unquote (s : String) : String :=
  if (s.startsWith "\"" && s.endsWith "\"") || (s.startsWith "'" && s.endsWith "'") then
    String.ofList (s.toList.drop 1).dropLast
  else s

/-- A variable from its `NAME=VALUE` form. -/
def readVariable (param : String) : Except String (String × HostData) :=
  match param.splitOn "=" with
  | name :: value :: more =>
    let name := Text.trimBlanks name
    let value := Text.trimBlanks ("=".intercalate (value :: more))
    let lower := Text.toLowerCase value
    if lower = "true" then .ok (name, .bool true)
    else if lower = "false" then .ok (name, .bool false)
    else
      match Number.readInteger? value with
      | some n => .ok (name, .int n)
      | none =>
        match Number.readDecimal? value with
        | some x => .ok (name, .float x)
        | none => .ok (name, .str (unquote value))
  | _ => .error ("Invalid variable format: " ++ param ++ " (expected name=value)")

/-- Put a binding into a context: a name already there takes the new datum. -/
def putBinding (context : List (String × HostData)) (binding : String × HostData) :
    List (String × HostData) :=
  if context.any (·.1 = binding.1) then
    context.map fun (k, d) => if k = binding.1 then (k, binding.2) else (k, d)
  else context ++ [binding]

/-- The context held in a JSON file, or the failure to report. -/
def readContext (tree : Tree) (file : String) : Except String (List (String × HostData)) :=
  let failure (m : String) := "Error: cannot read context " ++ file ++ ": " ++ m
  let opened : Except String ByteArray :=
    if Path.hasNul file then .error "embedded null byte"
    else (tree.openFound (tree.find file)).mapError (·.message file)
  match opened with
  | .error m => .error (failure m)
  | .ok bytes =>
    match readText .utf8 bytes with
    | .error e => .error (failure e.message)
    | .ok text =>
      match JsonText.read text with
      | .error e => .error (failure (JsonText.readMessage text e))
      | .ok (.dict entries) =>
        .ok (entries.filterMap fun (k, d) => match k with
          | .str name => some (name, d)
          | _ => none)
      | .ok _ => .error ("Error: context " ++ file ++ " must hold a JSON object")

/-- The context of a render: the JSON file's, then the variables in order. -/
def renderContext (tree : Tree) (request : RenderRequest) :
    Except String (List (String × HostData)) :=
  let fromFile : Except String (List (String × HostData)) :=
    match request.json with
    | some file => if file.isEmpty then .ok [] else readContext tree file
    | none => .ok []
  match fromFile with
  | .error m => .error m
  | .ok context =>
    request.vars.foldlM (fun ctx param =>
      match readVariable param with
      | .ok binding => .ok (putBinding ctx binding)
      | .error m => .error ("Error: " ++ m)) context

/-- The directory partials are loaded from. -/
def partialRoot (cfg : Config) (request : RenderRequest) (template : Path) : Path :=
  match request.root with
  | some r => if r.isEmpty then fallback else Path.ofString r
  | none => fallback
where
  /-- The configured root, else the template's directory. -/
  fallback : Path :=
    match cfg.templateRoot with
    | some r => Path.ofString r
    | none => template.parent

/-- The loader of partials for a render. -/
def renderLoader (tree : Tree) (cfg : Config) (request : RenderRequest) : FileLoader :=
  FileLoader.ofRoot tree (partialRoot cfg request (Path.ofString request.file)) cfg.encoding

/-- Write a render's output to a file, or to standard output. -/
def deliver (tree : Tree) (cfg : Config) (output : String) (target : Option String) : Run :=
  match target with
  | some file =>
    if file.isEmpty then .done tree output
    else
      let path := Path.ofString file
      if Path.hasNul file then .raised tree "ValueError" "embedded null byte"
      else
        match tree.writableFound (tree.findPath path) with
        | .error f => .failed tree ("Error: cannot write " ++ file ++ ": " ++ f.message path.toText)
        | .ok location =>
          -- the file is opened, and so emptied, before the encoding is looked up
          let refuse (className message : String) : Run :=
            { Run.raised (tree.write location ByteArray.empty) className message with
              written := [(location, ByteArray.empty)] }
          match Codec.lookup cfg.encoding with
          | .error m => refuse "LookupError" m
          | .ok codec =>
            match codec.encode output with
            | .error (.span m) => refuse "UnicodeEncodeError" m
            | .error (.whole m) => refuse "UnicodeError" m
            | .error .internal => refuse "RuntimeError" CodecError.internal.message
            | .ok bytes =>
              { Run.done (tree.write location bytes)
                  ("Wrote " ++ toString output.length ++ " characters to " ++ file ++ "\n") with
                written := [(location, bytes)] }
  | none => .done tree output

/-- Render a template. -/
def runRender (tree : Tree) (env : List (String × String)) (request : RenderRequest) : Run :=
  match Config.ofEnvironment env with
  | .error e => .raisedError tree e
  | .ok cfg =>
    let path := Path.ofString request.file
    if Path.hasNul request.file || !tree.isFileAt path then
      .failed tree ("Error: File not found: " ++ path.toText)
    else
      match renderContext tree request with
      | .error m => .failed tree m
      | .ok context =>
        if Path.hasNul (partialRoot cfg request path).toText then
          .raised tree "ValueError" "embedded null byte"
        else
          let loader := renderLoader tree cfg request
          let renderer : Renderer :=
            { config := cfg, collaborators := { loader := some loader.reply } }
          match readTemplate tree path cfg.encoding with
          | .error f => readFailureRun tree path f
          | .ok source =>
            match renderer.renderSource source (some path.toText) (.mapping context) [] with
            | .error e => .reportFailure tree e
            | .ok output => deliver tree cfg output request.output

/-- The listing line of a method: its name, its number of arguments if any, its
other names, and its documentation. -/
def methodLine (names : List (String × Builtin)) (primary : String × Builtin) : String :=
  let (name, m) := primary
  let aliases := (names.filter fun (n, b) => b = m && n ≠ name).map (·.1)
  "  " ++ name ++ (if m.arity = 0 then "" else "/" ++ toString m.arity) ++
    (if aliases.isEmpty then "" else " (alias: " ++ ", ".intercalate aliases ++ ")") ++
    " - " ++ m.doc ++ "\n"

/-- The listing of the methods of every kind of value. -/
def methodsListing : String :=
  String.join (Kind.all.map fun k =>
    let names := Builtin.namesOf k
    if names.isEmpty then k.name ++ ": (no methods)\n"
    else
      let primaries := names.filter fun (n, m) => n = m.primaryName
      k.name ++ ":\n" ++ String.join (primaries.map (methodLine names)))

/-- Run the program on a file tree with an environment and arguments. -/
def run (tree : Tree) (env : List (String × String)) (args : List String) : Run :=
  match readCommandLine args with
  | .help text => .done tree text
  | .refuse usage prog reason =>
    { exit := .code 2, stderr := usage ++ "\n" ++ prog ++ ": error: " ++ reason ++ "\n", tree := tree }
  | .run (.check file) => runCheck tree env file
  | .run (.tokens file) => runTokens tree env file
  | .run (.render request) => runRender tree env request
  | .run .methods => .done tree methodsListing

end Stencil.Cli
