import ContentCache.Cache
import ContentCache.CommandLine.Arguments
import ContentCache.Config.Reading

/-!
# The program

The program fetches a URL through the cache and writes the content. It reads its configuration from a
file, takes its token from the configured file or else from the arguments, and ends with a report when
something fails.

* `Outcome`: what has been written, and how the program ended.
* `fetch`: a call of the cache as the arguments want it.
* `run`: the whole program.

Main statements: `run_of_usage` (arguments that are not understood write nothing and send nothing) and
`tokenSource_of_file` (a configured file goes before every other token).
-/

namespace ContentCache.CommandLine

/-- Why the program fails. -/
inductive ProgramError where
  | unloadable (path : String) (cause : Failure)
  | tokenMissing
  | ageOutOfRange (seconds : Nat)
  | failed (f : Failure)
  | unreadable (e : IoError)
  | interrupted
  deriving DecidableEq

def lines (s : String) : List String := s.splitOn "\n"

/-- The report of an error: what failed, and the cause with its lines indented. -/
def ProgramError.report : ProgramError → List String
  | unloadable path cause =>
    lines ("Error: failed to load " ++ path) ++ ["", "Caused by:"] ++
      (lines cause.message).map ("    " ++ ·)
  | tokenMissing => ["Error: no token_file configured; pass --token or set STOWAGE_TOKEN"]
  | ageOutOfRange seconds => ["Error: --max-age " ++ seconds.repr ++ " is out of range"]
  | failed f => lines ("Error: " ++ f.message)
  | unreadable e => lines ("Error: " ++ e.text)
  | interrupted => ["Error: interrupted"]

/-- How the program ends. -/
inductive Ending where
  | success
  | failure (e : ProgramError)
  | misuse (e : UsageError)

def Ending.code : Ending → Nat
  | success => 0
  | failure _ => 1
  | misuse _ => 2

/-- What the program has written, and how it ended. -/
structure Outcome where
  output : Bytes
  ending : Ending

/-! ## Texts -/

def versionText : String := "stowage 0.2.3\n"

def helpText : String := "Fetch a URL through the stowage cache and write it to stdout

Usage: stowage [OPTIONS] <CONFIG> <URL>

Arguments:
  <CONFIG>  YAML configuration file
  <URL>     Source URL to fetch

Options:
      --max-age <SECS>     Only accept cache entries younger than this many seconds
      --digest <DIGEST>    Expected SHA-256 of the content (hex, optionally `sha256:` prefixed)
      --retries <RETRIES>  Retries for transient failures [default: 0]
      --timeout <SECS>     Give up after this many seconds
      --token <TOKEN>      Bearer token, used when the config has no token_file [env: STOWAGE_TOKEN]
  -h, --help               Print help
  -V, --version            Print version
"

/-! ## Fetching -/

/-- Where tokens come from: a configured file, or else a given token. -/
def tokenSource (c : Config) (token : Option String) : Option TokenSource :=
  match c.tokenFile with
  | some path => some (.file path)
  | none => token.map .fixed

/-- A configured file goes before every other token. -/
theorem tokenSource_of_file {c : Config} {path : String} (h : c.tokenFile = some path)
    (token : Option String) : tokenSource c token = some (.file path) := by
  simp [tokenSource, h]

/-- The oldest instant that an age allows. -/
def oldest (now : Time.Instant) (seconds : Nat) : Except ProgramError Time.Instant :=
  match now.secondsEarlier? seconds with
  | some t => .ok t
  | none => .error (.ageOutOfRange seconds)

/-- The options of the call. -/
def options (a : Arguments) (now : Time.Instant) : Except ProgramError CacheOptions := do
  let freshAfter ← match a.maxAge with
    | none => pure none
    | some seconds => some <$> oldest now seconds
  pure { freshAfter, expectedDigest := a.digest, timeout := a.timeout.map .ofSeconds,
         narrated := true }

/-- What is needed for the call: the cache and the options. -/
def prepare (a : Arguments) (w : World) (j : Journal) :
    Except ProgramError (Cache × CacheOptions) := do
  let c ← match Config.load w.files a.config with
    | .ok c => pure c
    | .error f => .error (.unloadable a.config f)
  let tokens ← match tokenSource c a.token with
    | some tokens => pure tokens
    | none => .error .tokenMissing
  pure (.ofConfig c tokens, ← options a (w.now j))

/-- What is written of a copy: its bytes up to the first error of reading. -/
def written (copy : Copy) : Outcome :=
  match copy.body.whole with
  | (data, none) => ⟨data, .success⟩
  | (data, some e) => ⟨data, .failure (.unreadable e)⟩

/-- How the program ends after the call. -/
def concluded : Except Halt Copy → Outcome
  | .ok copy => written copy
  | .error (.failed f) => ⟨[], .failure (.failed f)⟩
  | .error .interrupted => ⟨[], .failure .interrupted⟩

def fetch (a : Arguments) (w : World) (j : Journal) : Outcome × Journal :=
  match prepare a w j with
  | .error e => (⟨[], .failure e⟩, j)
  | .ok (cache, o) =>
    let (r, k) := cache.copyRetrying a.url o (.doubling a.retries) w j
    (concluded r, k)

def run (arguments : List String) (envToken : Option String) (w : World) (j : Journal) :
    Outcome × Journal :=
  match Request.ofArguments arguments envToken with
  | .error e => (⟨[], .misuse e⟩, j)
  | .ok .help => (⟨Bytes.ofText helpText, .success⟩, j)
  | .ok .version => (⟨Bytes.ofText versionText, .success⟩, j)
  | .ok (.fetch a) => fetch a w j

/-- Arguments that are not understood write nothing and send nothing. -/
theorem run_of_usage {arguments : List String} {envToken : Option String} {e : UsageError}
    (h : Request.ofArguments arguments envToken = .error e) (w : World) (j : Journal) :
    run arguments envToken w j = (⟨[], .misuse e⟩, j) := by
  simp [run, h]

end ContentCache.CommandLine
