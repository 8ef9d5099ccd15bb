import ContentCache.Failure
import ContentCache.Files
import ContentCache.Text.Blank

/-!
# Bearer tokens

A token source is asked for a bearer token, and may be told to pass over one that it has kept. What
it answers may depend on the local files and on what it has been asked before. There are two kinds
of sources here: a fixed token, and a file that is read anew each time.

Main definitions: `TokenSource`, `TokenSource.fixed`, `TokenSource.file`.
-/

namespace ContentCache

/-- A source of bearer tokens: from the local files, the questions asked before and whether a kept
token is to be passed over, a token or a failure. -/
structure TokenSource where
  issue : (files : Files) → (asked : List Bool) → (force : Bool) → Except Failure String

namespace TokenSource

def fixed (token : String) : TokenSource := ⟨fun _ _ _ => .ok token⟩

/-- The token in a file: its text without the blanks at either end, which must not be empty. -/
def readFile (path : String) (files : Files) : Except Failure String :=
  match files.readText path with
  | .error e => .error (.credentials ("failed to read " ++ path ++ ": " ++ e.message))
  | .ok text =>
    let token := Text.trim text
    if token.isEmpty then .error (.credentials ("token file " ++ path ++ " is empty"))
    else .ok token

/-- A source that reads a file each time it is asked. -/
def file (path : String) : TokenSource := ⟨fun files _ _ => readFile path files⟩

end TokenSource

end ContentCache
