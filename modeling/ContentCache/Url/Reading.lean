import ContentCache.HostName
import ContentCache.Url

/-!
# Reading URLs

The text of an absolute URL is read into its parts and brought into normal form on the way: blanks
at the ends and line breaks go, scheme and host lose their capitals, numeric hosts become addresses,
characters are escaped, and the segments `.` and `..` are resolved. Schemes of the web and a few
others are special: they always have a path, and a backslash counts as a slash.

Main definitions: `Url.read`, `Url.readFrom` (against a base), `Url.Error.message`.
-/

namespace ContentCache.Url

/-- Why a text is no URL. -/
inductive Error where
  | emptyHost
  /-- The host's name has no ASCII form. -/
  | hostName
  | port
  | fourAddress
  | eightAddress
  /-- A host of a scheme that is not special has a character that it may not have. -/
  | hostCharacter
  /-- The text is relative and there is nothing to resolve it against. -/
  | noBase
  /-- The text is relative and the base has no hierarchy. -/
  | flatBase
  deriving DecidableEq, Repr

def Error.message : Error → String
  | emptyHost => "empty host"
  | hostName => "invalid international domain name"
  | port => "invalid port number"
  | fourAddress => "invalid IPv4 address"
  | eightAddress => "invalid IPv6 address"
  | hostCharacter => "invalid domain character"
  | noBase => "relative URL without a base"
  | flatBase => "relative URL with a cannot-be-a-base base"

/-! ## Scheme -/

/-- The kinds of schemes. -/
inductive Kind where
  /-- Special, with a host. -/
  | web
  /-- Special, for local files. -/
  | file
  | other
  deriving DecidableEq, Repr

def Kind.ofScheme (scheme : List Char) : Kind :=
  if scheme = "file".toList then .file
  else if (usualPort (String.ofList scheme)).isSome then .web
  else .other

def Kind.isSpecial : Kind → Bool
  | .other => false
  | _ => true

/-- A character that a scheme may have after its first letter. -/
def isSchemeChar (c : Char) : Bool := c.isAlphanum || c = '+' || c = '-' || c = '.'

/-- The scheme, in small letters, and what follows the colon after it. -/
def splitScheme (cs : List Char) : Option (List Char × List Char) :=
  match cs with
  | [] => none
  | c :: _ =>
    if c.isAlpha then
      match cs.dropWhile isSchemeChar with
      | ':' :: rest => some ((cs.takeWhile isSchemeChar).map Char.toLower, rest)
      | _ => none
    else none

/-- Control characters and blanks, which do not count at the ends. -/
def isOuterBlank (c : Char) : Bool := c.toNat ≤ 32

/-- Characters that do not count anywhere. -/
def isBreak (c : Char) : Bool := c = '\t' || c = '\n' || c = '\r'

/-- The characters of a text that count. -/
def counted (cs : List Char) : List Char :=
  let inner := ((cs.dropWhile isOuterBlank).reverse.dropWhile isOuterBlank).reverse
  inner.filter fun c => !isBreak c

/-! ## Query and fragment -/

/-- What may follow a path: a query and a fragment. -/
def readTail (kind : Kind) (cs : List Char) : Option String × Option String :=
  let beforeFragment := cs.takeWhile (· ≠ '#')
  let fragment := match cs.dropWhile (· ≠ '#') with
    | '#' :: rest => some (String.ofList (escape escapesInFragment rest))
    | _ => none
  let must := if kind.isSpecial then escapesInWebQuery else escapesInQuery
  let query := match beforeFragment with
    | '?' :: rest => some (String.ofList (escape must rest))
    | _ => none
  (query, fragment)

/-! ## Path -/

/-- Whether a character ends the path. -/
def endsPath (c : Char) : Bool := c = '?' || c = '#'

/-- A slash, or for special schemes a backslash. -/
def isSlash (kind : Kind) (c : Char) : Bool := c = '/' || (kind.isSpecial && c = '\\')

/-- The pieces of a path between slashes. -/
def pathPieces (kind : Kind) (cs : List Char) : List (List Char) :=
  let step (c : Char) (acc : List Char × List (List Char)) : List Char × List (List Char) :=
    if isSlash kind c then ([], acc.1 :: acc.2) else (c :: acc.1, acc.2)
  let (first, rest) := cs.foldr step ([], [])
  first :: rest

/-- A segment with its escaped points resolved and in small letters. -/
def plainPoints : List Char → List Char
  | '%' :: '2' :: 'e' :: rest | '%' :: '2' :: 'E' :: rest => '.' :: plainPoints rest
  | c :: rest => c :: plainPoints rest
  | [] => []

/-- The segment that stands for the place it is in. -/
def isHere (segment : List Char) : Bool := plainPoints segment = ['.']

/-- The segment that stands for the place above. -/
def isAbove (segment : List Char) : Bool := plainPoints segment = ['.', '.']

/-- A letter and a colon or bar, which name a drive. -/
def isDrive (segment : List Char) : Bool :=
  match segment with
  | [c, d] => c.isAlpha && (d = ':' || d = '|')
  | _ => false

/-- The segments without the last one, unless that names a drive. -/
def leave : (segments : List (List Char)) → List (List Char)
  | [] => []
  | last :: rest => if isDrive last then last :: rest else rest

/-- Adds a piece to the segments so far, which are last first. -/
def addPiece (kind : Kind) (segments : List (List Char)) (piece : List Char) : List (List Char) :=
  let written := escape escapesInPath piece
  match kind, segments, written with
  | .file, [], [c, _] => if isDrive written then [[c, ':']] else [written]
  | _, _, _ => written :: segments

/-- Adds the pieces of a path to the segments so far: the last piece closes the path. -/
def addPieces (kind : Kind) : (segments : List (List Char)) → (pieces : List (List Char)) →
    List (List Char)
  | segments, [] => segments
  | segments, [piece] =>
    if isAbove piece then [] :: leave segments
    else if isHere piece then [] :: segments
    else addPiece kind segments piece
  | segments, piece :: rest =>
    if isAbove piece then addPieces kind (leave segments) rest
    else if isHere piece then addPieces kind segments rest
    else addPieces kind (addPiece kind segments piece) rest

/-- The segments of a file's path: empty ones at the front do not count. -/
def withoutEmptyFront : List (List Char) → List (List Char)
  | [] :: s :: rest => withoutEmptyFront (s :: rest)
  | segments => segments

/-- The path that the characters up to a query or fragment make after the segments of a base. -/
def readPath (kind : Kind) (base : List (List Char)) (cs : List Char) : Path :=
  let pieces := pathPieces kind (cs.takeWhile fun c => !endsPath c)
  let segments := (addPieces kind base.reverse pieces).reverse
  let segments := if kind = .file then withoutEmptyFront segments else segments
  .segments (segments.map String.ofList)

/-- The path after an authority: its first slash is there in any case for special schemes. -/
def readPathAfterHost (kind : Kind) (cs : List Char) : Path :=
  match cs with
  | [] => if kind.isSpecial then .segments [""] else .segments []
  | c :: rest =>
    if isSlash kind c then readPath kind [] rest
    else if !kind.isSpecial && endsPath c then .segments []
    else readPath kind [] cs

/-! ## Authority -/

/-- The host of a special scheme. -/
def readHost (cs : List Char) : Except Error Host :=
  if cs.head? = some '[' then
    if cs.getLast? = some ']' then
      match readEight? ((cs.drop 1).dropLast) with
      | some pieces => .ok (.eight pieces)
      | none => .error .eightAddress
    else .error .eightAddress
  else
    match (unescape cs).text?.bind fun name => HostName.ascii? name.toList with
    | none => .error .hostName
    | some name =>
      if name.isEmpty then .error .emptyHost
      else if endsInNumber name then
        match readFour? name with
        | some address => .ok (.four address)
        | none => .error .fourAddress
      else .ok (.name (String.ofList name))

/-- Characters that no host may have. -/
def isHostRefused (c : Char) : Bool :=
  c.toNat = 0 || "\t\n\r #/:<>?@[\\]^|".toList.contains c

/-- The host of any other scheme; none when it is empty. -/
def readOtherHost (cs : List Char) : Except Error (Option Host) :=
  if cs.head? = some '[' then some <$> readHost cs
  else if cs.any isHostRefused then .error .hostCharacter
  else if cs.isEmpty then .ok none
  else .ok (some (.name (String.ofList (escape escapesAlways cs))))

/-- The characters of an authority before the colon of the port: a colon between brackets belongs to
the host. -/
def hostPart : (inBrackets : Bool) → List Char → List Char
  | _, [] => []
  | inBrackets, c :: rest =>
    if c = ':' && !inBrackets then []
    else c :: hostPart (if c = '[' then true else if c = ']' then false else inBrackets) rest

/-- User name and password, both escaped. An empty password is none. -/
def readUser (cs : List Char) : String × Option String :=
  let user := cs.takeWhile (· ≠ ':')
  let password := (cs.dropWhile (· ≠ ':')).drop 1
  (String.ofList (escape escapesInUser user),
   if password.isEmpty then none else some (String.ofList (escape escapesInUser password)))

/-- Splits at the last `@`: what stands before it, when there is one, and what follows. -/
def splitUser (cs : List Char) : Option (List Char) × List Char :=
  if cs.contains '@' then
    let after := (cs.reverse.takeWhile (· ≠ '@')).reverse
    (some (cs.take (cs.length - after.length - 1)), after)
  else (none, cs)

def largestPort : Nat := 65535

/-- The port that follows a colon, and what stands after it: digits up to the end or a backslash. A
port without digits, or the usual one, counts as none. -/
def readPort (scheme : List Char) (cs : List Char) : Except Error (Option Nat × List Char) :=
  let digits := cs.takeWhile Char.isDigit
  let rest := cs.drop digits.length
  let number := Text.ofDigits digits
  if largestPort < number then .error .port
  else if rest.isEmpty || rest.head? = some '\\' then
    if digits.isEmpty || usualPort (String.ofList scheme) = some number then .ok (none, rest)
    else .ok (some number, rest)
  else .error .port

/-- Whether a character ends an authority. -/
def endsAuthority (kind : Kind) (c : Char) : Bool := isSlash kind c || endsPath c

/-- Reads host and port; beside the authority stands what is left before the path. -/
def readHostPort (kind : Kind) (scheme : List Char) (user : String × Option String)
    (cs : List Char) : Except Error (Authority × List Char) := do
  let hostChars := hostPart false cs
  let rest := cs.drop hostChars.length
  let host ←
    if kind.isSpecial then
      if hostChars.isEmpty then .error .emptyHost else some <$> readHost hostChars
    else readOtherHost hostChars
  if host.isNone && !rest.isEmpty then .error .emptyHost
  let (port, left) ← if rest.isEmpty then .ok (none, []) else readPort scheme (rest.drop 1)
  if host.isNone && (!user.1.isEmpty || user.2.isSome) then .error .emptyHost
  pure ({ user := user.1, password := user.2, host, port }, left)

/-- Reads what follows the two slashes before an authority. -/
def readAuthority (kind : Kind) (scheme : List Char) (cs : List Char) : Except Error Url := do
  let authorityChars := cs.takeWhile fun c => !endsAuthority kind c
  let after := cs.drop authorityChars.length
  let (userChars, hostChars) := splitUser authorityChars
  if userChars = some [] && hostChars.isEmpty && !after.isEmpty then .error .emptyHost
  let user := match userChars with
    | some u => readUser u
    | none => ("", none)
  let (authority, left) ← readHostPort kind scheme user hostChars
  let pathChars := left ++ after
  let (query, fragment) := readTail kind (pathChars.dropWhile fun c => !endsPath c)
  pure { scheme := String.ofList scheme, authority := some authority,
         path := readPathAfterHost kind pathChars, query, fragment }

/-! ## Files -/

/-- A URL of a file with a given host and the characters of its path. A path that begins with a
drive has no host. -/
def fileUrl (host : Option Host) (cs : List Char) : Url :=
  let path := readPathAfterHost .file cs
  let startsEmpty := ((cs.drop 1).head?.map (isSlash .file)).getD false
  let host := match path with
    | .segments (first :: _) => if isDrive first.toList && !startsEmpty then none else host
    | _ => host
  let (query, fragment) := readTail .file (cs.dropWhile fun c => !endsPath c)
  { scheme := "file", authority := some { host }, path, query, fragment }

/-- Reads what follows `file:`. -/
def readFile (cs : List Char) : Except Error Url :=
  match cs with
  | a :: b :: rest =>
    if isSlash .file a && isSlash .file b then
      let hostChars := rest.takeWhile fun c => !endsAuthority .file c
      let after := rest.drop hostChars.length
      if isDrive hostChars then .ok (fileUrl none ('/' :: rest))
      else if hostChars.isEmpty then .ok (fileUrl none after)
      else
        match readHost hostChars with
        | .error e => .error e
        | .ok host =>
          .ok (fileUrl (if host = .name "localhost" then none else some host) after)
    else .ok (fileUrl none (if isSlash .file a then cs else '/' :: cs))
  | [a] => .ok (fileUrl none (if isSlash .file a then cs else '/' :: cs))
  | [] => .ok (fileUrl none cs)

/-! ## Whole URLs -/

/-- Reads what follows the colon of a scheme that is not special. -/
def readOther (scheme : List Char) (cs : List Char) : Except Error Url :=
  let (query, fragment) := readTail .other (cs.dropWhile fun c => !endsPath c)
  match cs with
  | '/' :: '/' :: rest => readAuthority .other scheme rest
  | '/' :: rest =>
    .ok { scheme := String.ofList scheme, path := readPath .other [] rest, query, fragment }
  | _ =>
    let flat := cs.takeWhile fun c => !endsPath c
    .ok { scheme := String.ofList scheme,
          path := .flat (String.ofList (escape escapesAlways flat)), query, fragment }

/-- Reads what follows the colon of a scheme. -/
def readAfterScheme (scheme : List Char) (cs : List Char) : Except Error Url :=
  match Kind.ofScheme scheme with
  | .file => readFile cs
  | .web => readAuthority .web scheme (cs.dropWhile (isSlash .web))
  | .other => readOther scheme cs

def read (s : String) : Except Error Url :=
  match splitScheme (counted s.toList) with
  | none => .error .noBase
  | some (scheme, rest) => readAfterScheme scheme rest

/-! ## Relative references -/

/-- The segments of a hierarchical path. -/
def Path.names : Path → List String
  | .flat _ => []
  | .segments names => names

/-- Reads a reference without a scheme against a base with an authority and a hierarchy. -/
def readRelative (kind : Kind) (base : Url) (cs : List Char) : Except Error Url :=
  let (query, fragment) := readTail kind (cs.dropWhile fun c => !endsPath c)
  match cs with
  | [] => .ok base.withoutFragment
  | '?' :: _ => .ok { base with query, fragment }
  | '#' :: _ => .ok { base with fragment }
  | c :: rest =>
    if isSlash kind c then
      if (rest.head?.map (isSlash kind)).getD false then
        let after := match cs with
          | '/' :: '/' :: more => more
          | _ => cs.dropWhile (isSlash kind)
        readAuthority kind base.scheme.toList after
      else .ok { base with path := readPath kind [] rest, query, fragment }
    else
      let above := (base.path.names.dropLast).map String.toList
      .ok { base with path := readPath kind above cs, query, fragment }

/-- Reads a reference against a base of the web. -/
def readFrom (base : Url) (s : String) : Except Error Url :=
  let cs := counted s.toList
  let kind := Kind.ofScheme base.scheme.toList
  match splitScheme cs with
  | some (scheme, rest) =>
    let slashes := (rest.takeWhile (isSlash .web)).length
    if Kind.ofScheme scheme = .web && scheme = base.scheme.toList && slashes < 2 then
      readRelative kind base rest
    else readAfterScheme scheme rest
  | none =>
    match cs, base.path with
    | '#' :: _, _ => readRelative kind base cs
    | _, .flat _ => .error .flatBase
    | _, _ => readRelative kind base cs

end ContentCache.Url
