import Stencil.Error
import Stencil.Number.Reading
import Stencil.Text.Case
import Stencil.Text.Blank

/-!
# Engine settings

The settings of a renderer: how deeply partials may nest, whether output tags
escape their text, the encoding of template files, and the directory partials
are read from by default.

Settings come either from fields (`Config.ofFields`), where the only check is
that the nesting limit is not negative, or from an environment of named
variables (`Config.ofEnvironment`):

* `RUMTPL_MAX_PARTIAL_DEPTH` is read as an integer numeral (`Number.readInteger?`,
  so `" 7 "` and `"+3"` are accepted);
* `RUMTPL_AUTOESCAPE` is a truth value: `1`, `true`, `yes`, `on` or `0`, `false`,
  `no`, `off`, in any case and with blanks around; empty means the default;
* `RUMTPL_ENCODING` and `RUMTPL_TEMPLATE_ROOT` are taken as they are, empty
  meaning the default.

A bad nesting limit is reported before a bad truth value, and both before a
negative limit.
-/

namespace Stencil

/-- The settings of a renderer. -/
structure Config where
  maxPartialDepth : Nat := 32
  autoescape : Bool := true
  encoding : String := "utf-8"
  templateRoot : Option String := none
  deriving Inhabited

namespace Config

/-- The nesting limit of partials when none is given. -/
def defaultMaxPartialDepth : Nat := 32

/-- The variable holding the nesting limit of partials. -/
def depthVariable : String := "RUMTPL_MAX_PARTIAL_DEPTH"

/-- The variable holding whether output tags escape. -/
def autoescapeVariable : String := "RUMTPL_AUTOESCAPE"

/-- The variable holding the encoding of template files. -/
def encodingVariable : String := "RUMTPL_ENCODING"

/-- The variable holding the default directory of partials. -/
def rootVariable : String := "RUMTPL_TEMPLATE_ROOT"

/-- Settings from their fields; a negative nesting limit is refused. -/
def ofFields (maxPartialDepth : Int) (autoescape : Bool) (encoding : String)
    (templateRoot : Option String) : Except TemplateError Config :=
  if maxPartialDepth < 0 then .error (.ofFault (.negativeDepth maxPartialDepth))
  else .ok { maxPartialDepth := maxPartialDepth.toNat, autoescape := autoescape,
             encoding := encoding, templateRoot := templateRoot }

/-- The words that mean true, after trimming and lower-casing. -/
def trueWords : List String := ["1", "true", "yes", "on"]

/-- The words that mean false, after trimming and lower-casing. -/
def falseWords : List String := ["0", "false", "no", "off"]

/-- A truth value from an optional variable, or the default when it is unset or
empty. -/
def readFlag (setting : String) (raw : Option String) (default : Bool) :
    Except TemplateError Bool :=
  match raw with
  | none => .ok default
  | some text =>
    if text.isEmpty then .ok default
    else
      let word := Text.toLowerCase (Text.trimBlanks text)
      if word ∈ trueWords then .ok true
      else if word ∈ falseWords then .ok false
      else .error (.ofFault (.settingNotBoolean setting text))

/-- The value of a variable in an environment. -/
def lookup (env : List (String × String)) (name : String) : Option String :=
  (env.find? (·.1 = name)).map (·.2)

/-- Settings from an environment of variables, defaults for anything unset. -/
def ofEnvironment (env : List (String × String)) : Except TemplateError Config :=
  let depth : Except TemplateError Int :=
    match lookup env depthVariable with
    | none => .ok defaultMaxPartialDepth
    | some raw =>
      match Number.readInteger? raw with
      | some n => .ok n
      | none => .error (.ofFault (.settingNotInteger depthVariable raw))
  match depth with
  | .error e => .error e
  | .ok n =>
    match readFlag autoescapeVariable (lookup env autoescapeVariable) true with
    | .error e => .error e
    | .ok flag =>
      let nonEmpty (v : Option String) : Option String :=
        match v with
        | some s => if s.isEmpty then none else some s
        | none => none
      ofFields n flag ((nonEmpty (lookup env encodingVariable)).getD "utf-8")
        (nonEmpty (lookup env rootVariable))

end Config

end Stencil
