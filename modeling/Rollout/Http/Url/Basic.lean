import Rollout.Http.Url.Host

/-!
# URLs

Absolute URLs as the web reads and writes them. Reading brings a URL into the one form in which
it is written: blanks around it and line breaks inside are dropped, the scheme and the host are
written small, dots in the path are resolved, though none leads above a drive, a port is left
out where the scheme implies it, and characters without a place of their own are percent-encoded.
-/

namespace Rollout.Http

/-- Who is asked for a URL. -/
structure Authority where
  user : String := ""
  password : String := ""
  host : String := ""
  port : Option Nat := none
deriving DecidableEq, Inhabited

/-- An absolute URL. -/
structure Url where
  scheme : String
  authority : Option Authority := none
  path : String := ""
  query : Option String := none
  fragment : Option String := none
deriving DecidableEq, Inhabited

namespace Url

/-! ## Schemes -/

/-- The schemes of the web, with the ports they imply. Paths of these use both kinds of slashes. -/
def webSchemes : List (String × Option Nat) := [
  ("http", some 80), ("https", some 443), ("ws", some 80), ("wss", some 443), ("ftp", some 21),
  ("file", none)]

/-- Whether a scheme is one of the web's. -/
def isWeb (scheme : String) : Bool := (webSchemes.lookup scheme).isSome

/-- The port that a scheme implies. -/
def impliedPort (scheme : String) : Option Nat := (webSchemes.lookup scheme).join

/-- Whether a character is a slash for a scheme. -/
def isSlash (web : Bool) (c : Char) : Bool := c = '/' || (web && c = '\\')

/-- The scheme that a text starts with, in small letters, and what follows its colon. -/
def scheme? (cs : List Char) : Option (String × List Char) :=
  let isPart (c : Char) : Bool := c.isAlphanum || "+-.".toList.contains c
  match cs.span isPart with
  | (c :: word, ':' :: rest) =>
    if c.isAlpha then some (String.ofList ((c :: word).map Char.toLower), rest) else none
  | _ => none

/-! ## Authorities -/

/-- The parts of a list before and after the last element that meets a test. -/
def splitLast {α : Type} (p : α → Bool) (xs : List α) : Option (List α × List α) :=
  match xs.reverse.span (fun x => !p x) with
  | (_, []) => none
  | (after, _ :: before) => some (before.reverse, after.reverse)

/-- Cuts a host off at the colon before its port, which is not one in brackets. -/
def splitPort (inBrackets : Bool) : List Char → List Char × Option (List Char)
  | [] => ([], none)
  | c :: rest =>
    if c = ':' && !inBrackets then ([], some rest)
    else
      let inside := if c = '[' then true else if c = ']' then false else inBrackets
      let (host, port) := splitPort inside rest
      (c :: host, port)

/-- The port that the characters after the colon of a host write, and what is left of them. There
is none where there are no digits or the scheme implies it. A backslash after the port belongs to
the path. -/
def port? (scheme : String) (cs : List Char) : Option (Option Nat × List Char) :=
  let (digits, rest) := cs.span Char.isDigit
  if rest.head?.all (· == '\\') then
    ((Host.number? 10 digits).filter (· < 65536)).map fun n =>
      (if digits.isEmpty || impliedPort scheme == some n then none else some n, rest)
  else none

/-- Reads an authority, and gives what is left of its characters. Only a URL that is not on the
web may be without a host, and then it has nothing else of an authority either. `isLast` tells
whether the URL ends with the authority. -/
def authority? (scheme : String) (isLast : Bool) (cs : List Char) :
    Option (Authority × List Char) :=
  let (account, address) := (splitLast (· = '@') cs).getD ([], cs)
  let (user, password) := account.span (· != ':')
  let encoded (cs : List Char) : String := String.ofList (Percent.encode Percent.userSet cs)
  let (user, password) := (encoded user, encoded (password.drop 1))
  let (host, digits) := splitPort false address
  let isNamed := !(user.isEmpty && password.isEmpty)
  -- A sign for an account, and nothing on either side of it.
  let isLost := cs == ['@'] && !isLast
  if host.isEmpty && (isWeb scheme || isNamed || isLost || digits.isSome) then none
  else
    (if isWeb scheme then Host.ofWeb? host else Host.ofOther? host).bind fun host =>
      (digits.elim (some (none, [])) (port? scheme)).map fun (port, rest) =>
        ({ user := user, password := password, host := host, port := port }, rest)

/-! ## Paths -/

/-- Whether a segment of a path stands for the segment it is in. -/
def isHere (segment : String) : Bool := [".", "%2e"].contains segment.toLower

/-- Whether a segment of a path stands for the one above. -/
def isAbove (segment : String) : Bool :=
  ["..", ".%2e", "%2e.", "%2e%2e"].contains segment.toLower

/-- Whether a segment of a path names a drive: a letter, and a colon or a bar. In a path with
one kind of slashes, a backslash may follow. -/
def isDrive (segment : String) : Bool :=
  match segment.toList with
  | c :: d :: rest => c.isAlpha && (d == ':' || d == '|') && rest.head?.all (· == '\\')
  | _ => false

/-- The segments above the last of some segments. There are none above a drive. -/
def above (before : List String) : List String :=
  if before.getLast?.any isDrive then before else before.dropLast

/-- A drive as it is written, with a colon. Other segments stay as they are. -/
def driveText (segment : String) : String :=
  if segment.length = 2 && isDrive segment then String.ofList (segment.toList.take 1) ++ ":"
  else segment

/-- Puts a segment behind others. Where files are meant, the first one may name a drive. -/
def place (file : Bool) (before : List String) (segment : String) : List String :=
  before ++ [if file && before.isEmpty then driveText segment else segment]

/-- The segments of a path with dots resolved, given those before. -/
def resolveDots (file : Bool) (before : List String) : List String → List String
  | [] => before
  | [last] =>
    -- The last segment leaves a slash behind when it is resolved.
    if isAbove last then above before ++ [""]
    else if isHere last then before ++ [""]
    else place file before last
  | segment :: rest =>
    if isAbove segment then resolveDots file (above before) rest
    else if isHere segment then resolveDots file before rest
    else resolveDots file (place file before segment) rest

/-- The segments of a path. The first slash may be missing. -/
def segments (web : Bool) (cs : List Char) : List String :=
  let cs := cs.map fun c => if isSlash web c then '/' else c
  let cs := match cs with
    | '/' :: rest => rest
    | cs => cs
  (Text.partsAt '/' cs).map fun s => String.ofList (Percent.encode Percent.pathSet s)

/-- A path of segments. -/
def pathOf (segments : List String) : String := "/" ++ "/".intercalate segments

/-- A path as it is written. -/
def pathText (web : Bool) (cs : List Char) : String :=
  pathOf (resolveDots false [] (segments web cs))

/-! ## Reading and writing -/

/-- What follows the scheme of a file, up to the query. Only two slashes announce a host, which
is left out where it is the own one, and where the path starts with a drive. -/
def file? (cs : List Char) : Option (Option Authority × String) :=
  let read (host : String) (path : List Char) : Option Authority × String :=
    let segments := resolveDots true [] (segments true path)
    let isOwn := host = "localhost" || segments.head?.any isDrive
    (some { host := if isOwn then "" else host }, pathOf (segments.dropWhile (·.isEmpty)))
  match cs.span (isSlash true) with
  | ([_, _], rest) =>
    let (host, path) := rest.span (fun c => !isSlash true c)
    let text := String.ofList host
    if text.isEmpty || (text.length = 2 && isDrive text) then some (read "" rest)
    else (Host.ofWeb? host).map (read · path)
  | (slashes, rest) => some (read "" (slashes.drop 2 ++ rest))

/-- What follows a scheme, up to the query. `isLast` tells whether there is neither a query nor a
fragment. -/
def hierarchy? (scheme : String) (isLast : Bool) (cs : List Char) :
    Option (Option Authority × String) :=
  let web := isWeb scheme
  let split (cs : List Char) : Option (Option Authority × String) :=
    let (address, path) := cs.span (fun c => !isSlash web c)
    (authority? scheme (isLast && path.isEmpty) address).map fun (a, rest) =>
      (some a, if rest.isEmpty && path.isEmpty && !web then "" else pathText web (rest ++ path))
  if scheme = "file" then file? cs
  else if web then split (cs.dropWhile (isSlash web))
  else
    match cs with
    | '/' :: '/' :: rest => split rest
    | '/' :: _ => some (none, pathText web cs)
    | _ => some (none, String.ofList (Percent.encode [] cs))

/-- Reads a URL. -/
def ofText? (text : String) : Option Url :=
  let isBlank (c : Char) : Bool := c.toNat ≤ 0x20
  let cs := ((text.toList.dropWhile isBlank).reverse.dropWhile isBlank).reverse
  let cs := cs.filter (fun c => !"\t\n\r".toList.contains c)
  (scheme? cs).bind fun (scheme, rest) =>
    let (rest, fragment) := rest.span (· != '#')
    let (rest, query) := rest.span (· != '?')
    let optional (set : List Char) (cs : List Char) : Option String :=
      if cs.isEmpty then none else some (String.ofList (Percent.encode set cs.tail))
    (hierarchy? scheme (query.isEmpty && fragment.isEmpty) rest).map fun (authority, path) => {
      scheme := scheme, authority := authority, path := path
      query := optional (if isWeb scheme then Percent.webQuerySet else Percent.querySet) query
      fragment := optional Percent.fragmentSet fragment }

/-- An authority as it is written. -/
def authorityText (a : Authority) : String :=
  let account :=
    if a.user.isEmpty && a.password.isEmpty then ""
    else a.user ++ (if a.password.isEmpty then "" else ":" ++ a.password) ++ "@"
  account ++ a.host ++ (a.port.elim "" (":" ++ toString ·))

/-- What comes between the scheme and the path as it is written. A path that starts with two
slashes would be taken for an authority without one of its own. -/
def leadText (u : Url) : String :=
  match u.authority with
  | some a => "//" ++ authorityText a
  | none => if u.path.startsWith "//" then "/." else ""

/-- A URL as it is written. -/
def text (u : Url) : String :=
  u.scheme ++ ":" ++ leadText u ++ u.path
    ++ u.query.elim "" ("?" ++ ·) ++ u.fragment.elim "" ("#" ++ ·)

/-- What of a URL is sent to its host: the path and the query. -/
def target (u : Url) : String := u.path ++ u.query.elim "" ("?" ++ ·)

/-- The URL with the fields of a form at the end of its query. An empty query is dropped. -/
def withFields (u : Url) (fields : List (String × String)) : Url :=
  let given := (u.query.getD "")
  let form := Percent.encodeForm fields
  let query := if given.isEmpty || form.isEmpty then given ++ form else given ++ "&" ++ form
  { u with query := if query.isEmpty then none else some query }

end Url

end Rollout.Http
