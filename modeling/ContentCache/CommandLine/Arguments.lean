import ContentCache.Text.Decimal

/-!
# Arguments of the program

The program takes a configuration file and a URL, and options with a value each. An option's value
follows it, or stands behind an equals sign in the same argument. Two hyphens alone end the options.
A value is looked at when the argument after it is used, so that an argument that is not known is told
before a value in front of it.

* `Parameter`: what may be given. `Arguments`: what was given.
* `UsageError`, `UsageError.message`: what is wrong with a list of arguments.
* `Reading.step`: one argument. `Request.ofArguments`: all of them.

Main statement: `ofArguments_version` (the version is told whatever follows).
-/

namespace ContentCache.CommandLine

/-- What may be given. -/
inductive Parameter where
  | config
  | url
  | maxAge
  | digest
  | retries
  | timeout
  | token
  deriving DecidableEq, Repr

def Parameter.valueName : Parameter → String
  | config => "<CONFIG>"
  | url => "<URL>"
  | maxAge | timeout => "<SECS>"
  | digest => "<DIGEST>"
  | retries => "<RETRIES>"
  | token => "<TOKEN>"

def Parameter.optionName? : Parameter → Option String
  | config | url => none
  | maxAge => some "max-age"
  | digest => some "digest"
  | retries => some "retries"
  | timeout => some "timeout"
  | token => some "token"

def Parameter.text (p : Parameter) : String :=
  match p.optionName? with
  | none => p.valueName
  | some name => "--" ++ name ++ " " ++ p.valueName

def Parameter.ofOption? (name : String) : Option Parameter :=
  [maxAge, digest, retries, timeout, token].find? fun p => p.optionName? = some name

/-- What was given. -/
structure Arguments where
  config : String
  url : String
  /-- Only copies younger than so many seconds are accepted. -/
  maxAge : Option Nat := none
  digest : Option String := none
  retries : Nat := 0
  timeout : Option Nat := none
  token : Option String := none
  deriving DecidableEq, Repr

/-- What is wrong with a list of arguments. -/
inductive UsageError where
  | unexpected (argument : String)
  | valueMissing (p : Parameter)
  | invalidValue (value : String) (p : Parameter) (fault : Text.NumberError)
  | repeated (p : Parameter)
  /-- A value for a flag that takes none. -/
  | unexpectedValue (value flag : String)
  | incomplete

def UsageError.message : UsageError → String
  | unexpected argument => "error: unexpected argument '" ++ argument ++ "' found"
  | valueMissing p => "error: a value is required for '" ++ p.text ++ "' but none was supplied"
  | invalidValue value p fault =>
    "error: invalid value '" ++ value ++ "' for '" ++ p.text ++ "': " ++ fault.message
  | repeated p => "error: the argument '" ++ p.text ++ "' cannot be used multiple times"
  | unexpectedValue value flag =>
    "error: unexpected value '" ++ value ++ "' for '" ++ flag ++ "' found; no more were expected"
  | incomplete => "error: the following required arguments were not provided:"

/-- What the program is asked to do. -/
inductive Request where
  | fetch (a : Arguments)
  | help
  | version
  deriving DecidableEq, Repr

/-! ## Values -/

/-- The largest number of an option. -/
def largestNumber : Nat := Text.largest64

/-- The values that have been looked at, with those that are numbers. -/
structure Given where
  texts : List (Parameter × String) := []
  numbers : List (Parameter × Nat) := []
  deriving DecidableEq

namespace Given

def has (g : Given) (p : Parameter) : Bool :=
  g.texts.any (·.1 = p) || g.numbers.any (·.1 = p)

def text? (g : Given) (p : Parameter) : Option String := g.texts.lookup p

def number? (g : Given) (p : Parameter) : Option Nat := g.numbers.lookup p

/-- Looks at a value: no parameter is given twice, numbers are numbers, and a file has a name. -/
def give (g : Given) (p : Parameter) (value : String) : Except UsageError Given :=
  if g.has p then .error (.repeated p)
  else
    match p with
    | .maxAge | .retries | .timeout =>
      match Text.readUnsigned largestNumber value.toList with
      | .ok n => .ok { g with numbers := (p, n) :: g.numbers }
      | .error fault => .error (.invalidValue value p fault)
    | .config =>
      if value.isEmpty then .error (.valueMissing p) else .ok { g with texts := (p, value) :: g.texts }
    | .url | .digest | .token => .ok { g with texts := (p, value) :: g.texts }

/-- All that was given, when the configuration and the URL are there. -/
def arguments (g : Given) (envToken : Option String) : Except UsageError Arguments :=
  match g.text? .config, g.text? .url with
  | some config, some url =>
    .ok { config, url, maxAge := g.number? .maxAge, digest := g.text? .digest,
          retries := (g.number? .retries).getD 0, timeout := g.number? .timeout,
          token := (g.text? .token).orElse fun _ => envToken }
  | _, _ => .error .incomplete

end Given

/-! ## Reading -/

/-- A value that has not been looked at yet. -/
inductive Pending where
  | nothing
  | option (p : Parameter)
  | value (p : Parameter) (value : String)
  deriving DecidableEq

/-- Where reading stands. -/
structure Reading where
  given : Given := {}
  pending : Pending := .nothing
  plain : Nat := 0
  ended : Bool := false
  deriving DecidableEq

/-- Why reading stops before the end. -/
inductive Stop where
  | error (e : UsageError)
  | help
  | version

namespace Reading

/-- Looks at the value that has not been looked at yet. -/
def settle (r : Reading) : Except Stop Reading :=
  match r.pending with
  | .nothing => .ok r
  | .option p => .error (.error (.valueMissing p))
  | .value p value =>
    match r.given.give p value with
    | .ok given => .ok { r with given, pending := .nothing }
    | .error e => .error (.error e)

/-- An argument without an option. -/
def plainStep (r : Reading) (argument : String) : Except Stop Reading := do
  let p ← match r.plain with
    | 0 => pure Parameter.config
    | 1 => pure Parameter.url
    | _ => .error (.error (.unexpected argument))
  let r ← r.settle
  pure { r with plain := r.plain + 1, pending := .value p argument }

/-- A flag that stops reading. -/
def flagStep (r : Reading) (flag : Stop) : Except Stop Reading := do
  let _ ← r.settle
  .error flag

/-- An option by its name, with the value behind an equals sign. -/
def optionStep (r : Reading) (name : String) (value : Option String) : Except Stop Reading :=
  match Parameter.ofOption? name, value with
  | some p, none => do
    let r ← r.settle
    pure { r with pending := .option p }
  | some p, some v => do
    let r ← r.settle
    { r with pending := .value p v }.settle
  | none, value =>
    if name = "help" || name = "version" then
      match value with
      | some v => .error (.error (.unexpectedValue v ("--" ++ name)))
      | none => r.flagStep (if name = "help" then .help else .version)
    else .error (.error (.unexpected ("--" ++ name)))

/-- The text behind an equals sign. -/
def behindEquals? (cs : List Char) : Option String :=
  match cs.dropWhile (· ≠ '=') with
  | [] => none
  | _ :: value => some (String.ofList value)

def step (r : Reading) (argument : String) : Except Stop Reading :=
  if r.ended then r.plainStep argument
  else
    match argument.toList with
    | ['-', '-'] => .ok { r with ended := true }
    | '-' :: '-' :: rest =>
      r.optionStep (String.ofList (rest.takeWhile (· ≠ '='))) (behindEquals? rest)
    | '-' :: c :: _ =>
      if c = 'h' then r.flagStep .help
      else if c = 'V' then r.flagStep .version
      else .error (.error (.unexpected (String.ofList ['-', c])))
    | _ =>
      match r.pending with
      | .option p => .ok { r with pending := .value p argument }
      | _ => r.plainStep argument

end Reading

/-- What a list of arguments asks for. The surroundings may hold a token for when none is given. -/
def Request.ofArguments (arguments : List String) (envToken : Option String) :
    Except UsageError Request :=
  match arguments.foldlM Reading.step {} >>= Reading.settle with
  | .ok r => (r.given.arguments envToken).map .fetch
  | .error (.error e) => .error e
  | .error .help => .ok .help
  | .error .version => .ok .version

/-- Asking for the version first is answered whatever follows. -/
theorem ofArguments_version (rest : List String) (envToken : Option String) :
    Request.ofArguments ("--version" :: rest) envToken = .ok .version := by
  have h : Reading.step {} "--version" = .error .version := by rfl
  simp [Request.ofArguments, List.foldlM_cons, h, bind, Except.bind]

end ContentCache.CommandLine
