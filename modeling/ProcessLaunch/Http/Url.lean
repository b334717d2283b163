import ProcessLaunch.Http.Host

/-!
# URLs

A URL is read without a base, and written in its normal form: dots among the segments of its path
are resolved, characters that may not stand where they stand are percent-encoded, and a socket
number that its scheme implies is left out.
-/

namespace ProcessLaunch.Http

structure Credentials where
  username : List Char
  password : Option (List Char)
deriving DecidableEq, Repr

/-- A path is a list of segments, or, behind a scheme and no slash, any text. -/
inductive UrlPath where
  | segments (list : List (List Char))
  | unstructured (text : List Char)
deriving DecidableEq, Repr

structure Url where
  scheme : String
  credentials : Option Credentials
  host : Option Host
  socket : Option Nat
  path : UrlPath
  query : Option (List Char)
  fragment : Option (List Char)
deriving DecidableEq, Repr

namespace Url

/-! ## Schemes -/

/-- The socket number that a special scheme implies.  The scheme of files is special and has
none. -/
def impliedSocket? : String → Option Nat
  | "http" => some 80
  | "https" => some 443
  | "ws" => some 80
  | "wss" => some 443
  | "ftp" => some 21
  | _ => none

def fileScheme : String := "file"

def isSpecial (scheme : String) : Bool := (impliedSocket? scheme).isSome || scheme == fileScheme

def isSchemeChar (c : Char) : Bool := c.isAlphanum || c == '+' || c == '-' || c == '.'

def scheme? (s : List Char) : Option (String × List Char) :=
  match s.takeWhile isSchemeChar, s.dropWhile isSchemeChar with
  | first :: more, ':' :: rest =>
      if first.isAlpha then some (String.ofList ((first :: more).map Char.toLower), rest) else none
  | _, _ => none

def isSlash (special : Bool) (c : Char) : Bool := c == '/' || (special && c == '\\')

def isPathEnd (c : Char) : Bool := c == '?' || c == '#'

/-! ## Authority -/

def atSign? (s : List Char) : Option (List Char × List Char) :=
  match s.reverse.takeWhile (· != '@'), s.reverse.dropWhile (· != '@') with
  | behind, _ :: before => some (before.reverse, behind.reverse)
  | _, [] => none

/-- The credentials of a text.  A password without characters is none. -/
def credentials? (s : List Char) : Option Credentials :=
  let username := percentEncode credentialsSet (s.takeWhile (· != ':'))
  let password := percentEncode credentialsSet (s.dropWhile (· != ':')).tail
  if username = [] ∧ password = [] then none
  else some ⟨username, if password = [] then none else some password⟩

/-- The host at the front of a text, up to a colon outside of brackets, and the rest. -/
def splitHost (inBrackets : Bool) : List Char → List Char × List Char
  | [] => ([], [])
  | c :: rest =>
      if c = ':' ∧ inBrackets = false then ([], c :: rest)
      else
        let (host, behind) := splitHost (c == '[' || (inBrackets && c != ']')) rest
        (c :: host, behind)

def maxSocket : Nat := 65535

def socket? (s : List Char) : Option (Option Nat × List Char) :=
  match s with
  | ':' :: rest =>
      let digits := rest.takeWhile Char.isDigit
      let behind := rest.dropWhile Char.isDigit
      let n := (Text.digitsFrom? 0 digits).getD 0
      if behind ≠ [] ∧ behind.head? ≠ some '\\' then none
      else if n > maxSocket then none
      else some (if digits = [] then none else some n, behind)
  | s => some (none, s)

structure Authority where
  credentials : Option Credentials
  host : Host
  socket : Option Nat
  behind : List Char

/-- The authority that a text denotes.  `more` says whether anything follows. -/
def authority? (scheme : String) (s : List Char) (more : Bool) : Option Authority := do
  let (userinfo, hostAndSocket) := (atSign? s).getD ([], s)
  let bareSign := s.head? = some '@' ∧ userinfo = [] ∧ hostAndSocket = [] ∧ more = true
  let (name, behind) := splitHost false hostAndSocket
  let host ← Host.parse? (isSpecial scheme) name
  let credentials := credentials? userinfo
  if host = .empty ∧ (credentials.isSome ∨ behind ≠ [] ∨ bareSign) then none
  else
    let (socket, behind) ← socket? behind
    some ⟨credentials, host, if socket = impliedSocket? scheme then none else socket, behind⟩

/-! ## Path -/

/-- Whether a segment stands for the directory that it is in. -/
def isDot (segment : List Char) : Bool :=
  ["." , "%2e"].contains (String.ofList (segment.map Char.toLower))

/-- Whether a segment stands for the directory above. -/
def isDoubleDot (segment : List Char) : Bool :=
  ["..", ".%2e", "%2e.", "%2e%2e"].contains (String.ofList (segment.map Char.toLower))

/-- Whether a segment begins like the name of a drive: a letter, a colon or a bar, and then nothing
or a backslash. -/
def beginsWithDrive : List Char → Bool
  | letter :: mark :: rest =>
      letter.isAlpha && (mark == ':' || mark == '|') && (rest == [] || rest.head? == some '\\')
  | _ => false

def isDrive (segment : List Char) : Bool := segment.length == 2 && beginsWithDrive segment

structure Walk where
  above : List (List Char)
  onDrive : Bool

namespace Walk

def start : Walk := ⟨[], false⟩

/-- Goes one directory up, but not above a drive. -/
def up (w : Walk) : Walk :=
  if w.above.head?.any beginsWithDrive then w else { w with above := w.above.tail }

def down (w : Walk) (segment : List Char) : Walk := { w with above := segment :: w.above }

/-- Goes along a segment.  The last segment of a path is empty behind dots. -/
def along (w : Walk) (segment : List Char) (last : Bool) : Walk :=
  let stop := fun (w : Walk) => if last then w.down [] else w
  if isDoubleDot segment then stop w.up
  else if isDot segment then stop w
  else w.down segment

def alongAll (w : Walk) : List (List Char) → Walk
  | [] => w
  | segment :: rest => (w.along segment rest.isEmpty).alongAll rest

def segments (w : Walk) : List (List Char) := w.above.reverse

end Walk

def turnSlashes (special : Bool) (s : List Char) : List Char :=
  s.map fun c => if isSlash special c then '/' else c

def segmentsOf (special : Bool) (s : List Char) : List (List Char) :=
  (Walk.start.alongAll (Text.pieces '/' (percentEncode pathSet (turnSlashes special s)))).segments

def pathBehind (special : Bool) : List Char → UrlPath
  | [] => .segments (if special then [[]] else [])
  | c :: rest =>
      .segments (segmentsOf special (if isSlash special c then rest else c :: rest))

/-! ## Parsing -/

def isLeftOut (c : Char) : Bool := c == '\t' || c == '\n' || c == '\r'

def visible (s : List Char) : List Char := s.filter (!isLeftOut ·)

def trimmedEnds (s : List Char) : List Char :=
  let isEdge := fun (c : Char) => c.toNat ≤ 0x20
  ((s.dropWhile isEdge).reverse.dropWhile isEdge).reverse

def ofAuthority? (scheme : String) (s : List Char) (query fragment : Option (List Char)) :
    Option Url := do
  let special := isSpecial scheme
  let isEnd := isSlash special
  let rest := s.dropWhile fun c => !isEnd c
  let authority ← authority? scheme (s.takeWhile fun c => !isEnd c)
    (rest ≠ [] ∨ query.isSome ∨ fragment.isSome)
  some {
    scheme
    credentials := authority.credentials
    host := some authority.host
    socket := authority.socket
    path := pathBehind special (authority.behind ++ rest)
    query
    fragment }

/-! ## Files -/

/-- The name of a drive and what stands behind it in a segment from which something is left out
right behind the colon. -/
def cutDrive? (segment : List Char) : Option (List Char × List Char) :=
  match segment.dropWhile isLeftOut with
  | letter :: rest =>
      match rest.dropWhile isLeftOut with
      | ':' :: c :: rest =>
          let behind := visible rest
          if letter.isAlpha ∧ isLeftOut c ∧ behind ≠ [] then some ([letter, ':'], behind) else none
      | _ => none
  | [] => none

/-- Goes along a segment of the path of a file.  At its start, a drive is written with a colon, and
one that something is left out behind is a segment of its own, with all that follows it as it
stands. -/
def Walk.alongFile (w : Walk) (segment : List Char) (last : Bool) : Walk :=
  let ordinary := percentEncode pathSet (visible segment)
  if w.above ≠ [] then w.along ordinary last
  else
    match cutDrive? segment with
    | some (drive, behind) => (w.down drive).down (percentEncode pathSet behind)
    | none =>
        if isDrive ordinary then
          { w.down (ordinary.take 1 ++ [':']) with onDrive := true }
        else w.along ordinary last

def Walk.alongFileAll (w : Walk) : List (List Char) → Walk
  | [] => w
  | segment :: rest => (w.alongFile segment rest.isEmpty).alongFileAll rest

/-- The host of a file, if its name is not that of this computer, and the segments behind it. -/
def fileHost? (name : List Char) (behind : List (List Char)) :
    Option (Host × List (List Char)) := do
  let rooted := if behind = [] then [[]] else [] :: behind
  if name = [] then some (.empty, rooted)
  else if isDrive name then some (.empty, name :: behind)
  else
    let host ← Host.parse? true name
    if host = .domain "localhost".toList then some (.empty, rooted)
    else some (host, if behind = [] then [[]] else behind)

def fileParts? (s : List Char) : Option (Host × List (List Char)) :=
  match Text.pieces '/' (turnSlashes true s) with
  | first :: second :: rest =>
      if visible first ≠ [] then some (.empty, first :: second :: rest)
      else if visible second ≠ [] then some (.empty, second :: rest)
      else
        match rest with
        | [] => some (.empty, [second])
        | name :: behind => fileHost? (visible name) behind
  | only => some (.empty, only)

/-- The URL of a file.  A file on a drive has no host, and slashes at the front of the path count
once. -/
def ofFile? (s : List Char) (query fragment : Option (List Char)) : Option Url := do
  let (host, parts) ← fileParts? s
  let walk := Walk.start.alongFileAll parts
  let segments := walk.segments.dropWhile (· == [])
  some {
    scheme := fileScheme
    credentials := none
    host := some (if walk.onDrive then .empty else host)
    socket := none
    path := .segments (if segments = [] then [[]] else segments)
    query
    fragment }

/-! ## URLs -/

def parse? (text : String) : Option Url := do
  let whole := trimmedEnds text.toList
  let (scheme, rest) ← scheme? (visible whole)
  let special := isSpecial scheme
  let beforeFragment := rest.takeWhile (· != '#')
  let fragment :=
    if beforeFragment.length = rest.length then none
    else some (percentEncode fragmentSet (rest.drop (beforeFragment.length + 1)))
  let beforeQuery := beforeFragment.takeWhile (· != '?')
  let query :=
    if beforeQuery.length = beforeFragment.length then none
    else
      some (percentEncode (if special then specialQuerySet else querySet)
        (beforeFragment.drop (beforeQuery.length + 1)))
  if scheme = fileScheme then
    ofFile? ((whole.dropWhile (· != ':')).tail.takeWhile (!isPathEnd ·)) query fragment
  else if special then ofAuthority? scheme (beforeQuery.dropWhile (isSlash true)) query fragment
  else
    match beforeQuery with
    | '/' :: '/' :: rest => ofAuthority? scheme rest query fragment
    | '/' :: rest =>
        let path := UrlPath.segments (segmentsOf false rest)
        some ⟨scheme, none, none, none, path, query, fragment⟩
    | rest =>
        let path := UrlPath.unstructured (percentEncode isControl rest)
        some ⟨scheme, none, none, none, path, query, fragment⟩

/-! ## Text -/

def pathText : UrlPath → List Char
  | .segments list => list.flatMap ('/' :: ·)
  | .unstructured text => text

def target (url : Url) : String :=
  String.ofList (pathText url.path ++ (url.query.map ('?' :: ·)).getD [])

def credentialsText (c : Credentials) : List Char :=
  c.username ++ (c.password.map (':' :: ·)).getD [] ++ ['@']

/-- The text of the part between the scheme and the path.  Without an authority, a path must not
look like one. -/
def authorityText (url : Url) : List Char :=
  match url.host with
  | some host =>
      ['/', '/'] ++ (url.credentials.map credentialsText).getD [] ++ host.text ++
        (url.socket.map fun n => ':' :: Nat.toDigits 10 n).getD []
  | none =>
      match url.path with
      | .segments ([] :: _ :: _) => ['/', '.']
      | _ => []

def text (url : Url) : String :=
  url.scheme ++ ":" ++ String.ofList url.authorityText ++ url.target ++
    String.ofList ((url.fragment.map ('#' :: ·)).getD [])

end Url

end ProcessLaunch.Http
