import PodInventory.Http.Host

namespace PodInventory.Http

open Text

/-- An absolute URL in its canonical form. -/
structure Url where
  scheme : List Char
  user : List Char
  password : Option (List Char)
  host : Option (List Char)
  port : Option Nat
  path : List Char
  query : Option (List Char)
  fragment : Option (List Char)
  deriving DecidableEq, Inhabited

namespace Url

/-- How the rest of a URL is read: as that of a web address with a default port, as that of a file,
or as that of any other scheme. -/
inductive Kind
  | web (port : Nat)
  | file
  | other
  deriving DecidableEq

def kindOf (scheme : List Char) : Kind :=
  match String.ofList scheme with
  | "http" | "ws" => .web 80
  | "https" | "wss" => .web 443
  | "ftp" => .web 21
  | "file" => .file
  | _ => .other

/-- Whether a backslash stands for a slash. -/
def Kind.lenient : Kind → Bool
  | .other => false
  | _ => true

def Kind.isSlash (k : Kind) (c : Char) : Bool := c == '/' || (k.lenient && c == '\\')

def endsPath (c : Char) : Bool := c == '?' || c == '#'

def Kind.endsAuthority (k : Kind) (c : Char) : Bool := k.isSlash c || endsPath c

def isEdge (c : Char) : Bool := c.toNat ≤ 0x20

/-- Control characters and blanks at the ends count for nothing, and neither do tabs and line ends
anywhere. -/
def stripped (s : List Char) : List Char :=
  (((s.dropWhile isEdge).reverse.dropWhile isEdge).reverse).filter
    (fun c ↦ c != '\t' && c != '\n' && c != '\r')

def isSchemeChar (c : Char) : Bool := c.isAlphanum || c == '+' || c == '-' || c == '.'

def scheme? (s : List Char) : Option (List Char × List Char) :=
  match s with
  | c :: _ =>
    if c.isAlpha then
      match s.dropWhile isSchemeChar with
      | ':' :: rest => some (Host.lower (s.takeWhile isSchemeChar), rest)
      | _ => none
    else none
  | [] => none

/-- The characters that are escaped in a path. -/
def escapedInPath (c : Char) : Bool := !isPlain c || " \"#<>?`\x7b\x7d".toList.contains c

def escapedInUser (c : Char) : Bool := escapedInPath c || "/:;=@[\\]^|".toList.contains c

def escapedInQuery (kind : Kind) (c : Char) : Bool :=
  !isPlain c || " \"#<>".toList.contains c || (kind.lenient && c == '\'')

def escapedInFragment (c : Char) : Bool := !isPlain c || " \"<>`".toList.contains c

def escapedInOpaque (c : Char) : Bool := c.toNat < 0x20 || 0x7e < c.toNat

/-- Splits a host from the port behind it. A colon within brackets belongs to the host. -/
def splitPort (inBrackets : Bool) : List Char → List Char × Option (List Char)
  | [] => ([], none)
  | c :: rest =>
    if c = ':' ∧ !inBrackets then ([], some rest)
    else
      let inside := c == '[' || (inBrackets && c != ']')
      let (host, port) := splitPort inside rest
      (c :: host, port)

/-- The port, if one is given that is not the default, with what stands behind it. Only a backslash
may. -/
def port? (default : Option Nat) (s : List Char) : Option (Option Nat × List Char) :=
  let (digits, rest) := takeDigits digit? s
  let n := ofDigits 10 digits
  if 65535 < n || rest.head?.any (· != '\\') then none
  else some (if digits.isEmpty || some n = default then none else some n, rest)

def isDot (segment : List Char) : Bool :=
  let s := Host.lower segment
  s == ['.'] || s == ['%', '2', 'e']

def isDoubleDot (segment : List Char) : Bool :=
  match Host.lower segment with
  | '.' :: rest => isDot rest
  | '%' :: '2' :: 'e' :: rest => isDot rest
  | _ => false

/-- Whether a segment names a drive. A backslash within it ends the name. -/
def isDrive : List Char → Bool
  | letter :: mark :: rest =>
    letter.isAlpha && (mark == ':' || mark == '|') && rest.head?.all (· == '\\')
  | _ => false

/-- The segments without the last one, which stays if it names a drive. The last one comes first. -/
def upward : List (List Char) → List (List Char)
  | [] => []
  | s :: before => if isDrive s then s :: before else before

/-- The segments of a path without those that only point back or nowhere. -/
def settle (before : List (List Char)) : List (List Char) → List (List Char)
  | [] => before.reverse
  | [s] =>
    if isDoubleDot s then ([] :: upward before).reverse
    else if isDot s then ([] :: before).reverse
    else (s :: before).reverse
  | s :: rest =>
    if isDoubleDot s then settle (upward before) rest
    else if isDot s then settle before rest
    else settle (s :: before) rest

/-- The segments behind the first slash, which may be missing. -/
def Kind.segments (kind : Kind) (s : List Char) : List (List Char) :=
  match s.map (fun c ↦ if kind.isSlash c then '/' else c) with
  | '/' :: rest => settle [] (splitAll '/' rest)
  | s => settle [] (splitAll '/' s)

def segmentsText (segments : List (List Char)) : List Char :=
  segments.flatMap (fun s ↦ '/' :: percentEncode escapedInPath s)

/-- Without any slash the path behind a host is empty, or for the known schemes a lone slash. -/
def pathText (kind : Kind) (s : List Char) : List Char :=
  if s.isEmpty && !kind.lenient then [] else segmentsText (kind.segments s)

/-- The path of a file with no empty segments at its front, and whether it starts with a drive. -/
def filePath (s : List Char) : List Char × Bool :=
  match Kind.file.segments s with
  | [] => (['/'], false)
  | s :: rest =>
    if isDrive s then (segmentsText ((s.take 1 ++ [':']) :: rest), true)
    else ('/' :: (segmentsText (s :: rest)).dropWhile (· == '/'), false)

/-- The path, and what stands behind it. -/
def splitPath (s : List Char) : List Char × List Char :=
  (s.takeWhile (!endsPath ·), s.dropWhile (!endsPath ·))

/-- Adds the query and the fragment. -/
def withTail (u : Url) (kind : Kind) (s : List Char) : Url :=
  let query := match s with
    | '?' :: rest => some (percentEncode (escapedInQuery kind) (rest.takeWhile (· != '#')))
    | _ => none
  let fragment := match s.dropWhile (· != '#') with
    | _ :: rest => some (percentEncode escapedInFragment rest)
    | [] => none
  { u with query, fragment }

/-- The name of a user and the password, both of which may be empty. -/
def withUser (u : Url) (s : List Char) : Url :=
  match splitFirst? ':' s with
  | none => { u with user := percentEncode escapedInUser s }
  | some (user, password) =>
    { u with
      user := percentEncode escapedInUser user
      password := if password.isEmpty then none else some (percentEncode escapedInUser password) }

/-- A URL with a host. An empty host has no port, and before it a lone colon is the only sign of a
user. -/
def hosted? (scheme : List Char) (kind : Kind) (port : Option Nat)
    (hostOf : List Char → Option (List Char)) (s : List Char) : Option Url := do
  let authority := s.takeWhile (!kind.endsAuthority ·)
  let place := afterLast '@' authority
  let user := authority.take (authority.length - place.length - 1)
  let (name, given) := splitPort false place
  let host ← hostOf name
  let isNamed := authority.contains '@' && user != [':']
  if host.isEmpty && (isNamed || given.isSome) then none
  let (port, more) ← port? port (given.getD [])
  let (path, rest) := splitPath (more ++ s.dropWhile (!kind.endsAuthority ·))
  let url : Url := ⟨scheme, [], none, some host, port, pathText kind path, none, none⟩
  return (url.withUser user).withTail kind rest

/-- A URL of a file. A drive takes the place of the host. -/
def file? (s : List Char) : Option Url := do
  let (host, s) ← match s with
    | a :: b :: rest =>
      let name := rest.takeWhile (!Kind.file.endsAuthority ·)
      if !(Kind.file.isSlash a && Kind.file.isSlash b) then some (none, s)
      else if isDrive name || name.isEmpty then some (none, rest)
      else do
        let host ← Host.web? name
        some (if host = "localhost".toList then none else some host, rest.drop name.length)
    | _ => some (none, s)
  let (path, rest) := splitPath s
  let (path, onDrive) := filePath path
  let url : Url :=
    ⟨"file".toList, [], none, if onDrive then none else host, none, path, none, none⟩
  return url.withTail .file rest

def other? (scheme : List Char) (s : List Char) : Option Url :=
  let (path, rest) := splitPath s
  let hostless (path : List Char) : Url :=
    withTail ⟨scheme, [], none, none, none, path, none, none⟩ .other rest
  match s with
  | '/' :: '/' :: rest =>
    hosted? scheme .other none (fun h ↦ if h.isEmpty then some [] else Host.opaque? h) rest
  | '/' :: _ => some (hostless (pathText .other path))
  | _ => some (hostless (percentEncode escapedInOpaque path))

/-- Reads an absolute URL. -/
def parse? (text : String) : Option Url := do
  let (scheme, rest) ← scheme? (stripped text.toList)
  match kindOf scheme with
  | .web port =>
    hosted? scheme (.web port) (some port) Host.web? (rest.dropWhile (Kind.web port).isSlash)
  | .file => file? rest
  | .other => other? scheme rest

def userText (u : Url) : List Char :=
  match u.user, u.password with
  | [], none => []
  | user, none => user ++ ['@']
  | user, some password => user ++ ':' :: password ++ ['@']

/-- The host with what stands around it. A path of two slashes without a host is kept apart. -/
def authorityText (u : Url) : List Char :=
  match u.host with
  | some h =>
    "//".toList ++ u.userText ++ h ++ (match u.port with | some p => ':' :: decimal p | none => [])
  | none =>
    if u.scheme = "file".toList then "//".toList
    else if "//".toList.isPrefixOf u.path then "/.".toList
    else []

def text (u : Url) : String :=
  .ofList (u.scheme ++ [':'] ++ u.authorityText ++ u.path
    ++ (match u.query with | some q => '?' :: q | none => [])
    ++ (match u.fragment with | some f => '#' :: f | none => []))

/-- Takes user and password out. A user that is not UTF-8 stays with its password, and one without a
name stays with a password that is not. -/
def anonymous (u : Url) : Url :=
  let password := u.password.bind (fun p ↦ ofUtf8? (percentDecode p))
  match ofUtf8? (percentDecode u.user) with
  | none => u
  | some user =>
    if user.isEmpty && password.isNone then u else { u with user := [], password := none }

/-- The length that no address of a request exceeds. -/
def lengthLimit : Nat := 65534

/-- Whether web requests can be sent to it. Some characters may stand in a host, but not in the
address of a request. -/
def isWeb (u : Url) : Bool :=
  (u.scheme == "http".toList || u.scheme == "https".toList) &&
    u.host.any (fun h ↦ !h.isEmpty && !h.any (fun c ↦ "\"`\x7b\x7d".toList.contains c)) &&
    u.text.utf8ByteSize ≤ lengthLimit

end Url

end PodInventory.Http
