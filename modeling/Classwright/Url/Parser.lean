import Classwright.Url.Basic
import Classwright.Url.Host
/-!
# Reading URLs

A URL has a scheme. Some schemes are special: their authority is never missing and backslashes count
as slashes; among them, `file` has its own rules on hosts and on drive letters. While the path is
read, `.` and `..` are resolved, also in their escaped forms.
-/
namespace Classwright.Url

inductive SchemeType where
  | file
  | special
  | other
deriving DecidableEq

def defaultPorts : List (Text × Nat) :=
  [("http", 80), ("https", 443), ("ws", 80), ("wss", 443), ("ftp", 21)]

def SchemeType.of (scheme : Text) : SchemeType :=
  if scheme = "file" then .file
  else if (defaultPorts.lookup scheme).isSome then .special
  else .other

/-- A separator of names in a path. -/
def isSeparator (s : SchemeType) (c : Char) : Bool := c == '/' || (c == '\\' && s != .other)

/-- The authority or a name ends at this character. -/
def isEnd (s : SchemeType) (c : Char) : Bool := isSeparator s c || c == '?' || c == '#'

/-! ## Path -/

/-- A letter and a colon, or a bar for the colon. -/
def isDriveLetter (t : Text) : Bool :=
  match t with
  | [letter, mark] => letter.isAlpha && (mark == ':' || mark == '|')
  | _ => false

/-- A letter and a colon. -/
def isNormalDriveLetter (t : Text) : Bool := isDriveLetter t && t.getLast? == some ':'

/-- The text begins with a drive letter, which ends with it or at a separator. -/
def startsWithDrive (t : Text) : Bool :=
  isDriveLetter (t.take 2) && (t.drop 2).head?.all fun c => isEnd .file c

/-- A name that stands for this directory. -/
def isSingleDot (name : Text) : Bool :=
  [".", "%2e"].contains (String.ofList (name.map Char.toLower))

/-- A name that stands for the parent directory. -/
def isDoubleDot (name : Text) : Bool :=
  ["..", ".%2e", "%2e.", "%2e%2e"].contains (String.ofList (name.map Char.toLower))

/-- The path up to and with its last slash, and the name behind it. -/
def cutName (path : Text) : Text × Text :=
  match path.cutLast? "/" with
  | some (before, name) => (before ++ "/", name)
  | none => ([], path)

/-- The slash at the end of a path may go: it is not the first one, and no drive letter is before
it. -/
def lastSlashMayGo (path : Text) : Bool :=
  match path.dropLast.reverse.span (· != '/') with
  | (_, []) => false
  | (name, _ :: _) => !startsWithDrive (name.reverse ++ "/")

/-- The path without its last name; a drive letter stays. -/
def shorten (s : SchemeType) (path : Text) : Text :=
  let (front, name) := cutName path
  if s == .file && (isNormalDriveLetter path || isNormalDriveLetter name) then path else front

/-- A name at the very start of a file's path: a drive letter gets its colon. -/
def driveName (name : Text) : Text := if isDriveLetter name then name.take 1 ++ [':'] else name

/-- A path after a name was read behind it, up to a slash or up to the end. -/
def addName (s : SchemeType) (path name : Text) (slash : Bool) : Text :=
  if isDoubleDot name then
    let path := if path.getLast? == some '/' && lastSlashMayGo path then path.dropLast else path
    let path := shorten s path
    if slash && path.getLast? != some '/' then path ++ "/" else path
  else if isSingleDot name then
    if path.getLast? == some '/' then path else path ++ "/"
  else
    let name := if s == .file && path == ['/'] then driveName name else name
    path ++ name ++ (if slash then ['/'] else [])

/-- Read names behind a path; `fuel` bounds their number. Gives the rest of the text too. -/
def readNames (s : SchemeType) : Nat → Text → Text → Text × Text
  | 0, path, t => (path, t)
  | fuel + 1, path, t =>
    let name := Percent.encode Percent.pathSet (t.takeWhile (!isEnd s ·))
    match t.dropWhile (!isEnd s ·) with
    | [] => (addName s path name false, [])
    | c :: rest =>
      if isSeparator s c then readNames s fuel (addName s path name true) rest
      else (addName s path name false, c :: rest)

def readPath (s : SchemeType) (t : Text) : Text × Text := readNames s (t.length + 1) "/" t

/-- The text without the separator at its start. -/
def dropSeparator (s : SchemeType) (t : Text) : Text :=
  if t.head?.any (isSeparator s) then t.drop 1 else t

/-- The path behind an authority. Only without a special scheme can it be missing. -/
def readPathStart (s : SchemeType) (t : Text) : Text × Text :=
  if s == .other && t.head?.all (fun c => c == '?' || c == '#') then ([], t)
  else readPath s (dropSeparator s t)

/-! ## Query and fragment -/

def withEnd (scheme : Text) (authority : Option Authority) (path t : Text) : Url :=
  let set := if SchemeType.of scheme == .other then Percent.querySet else Percent.specialQuerySet
  let (query, t) : Option Text × Text := match t with
    | '?' :: rest =>
      (some (Percent.encode set (rest.takeWhile (· != '#'))), rest.dropWhile (· != '#'))
    | _ => (none, t)
  let fragment : Option Text := match t with
    | '#' :: rest => some (Percent.encode Percent.fragmentSet rest)
    | _ => none
  ⟨scheme, authority, path, query, fragment⟩

/-! ## Authority -/

/-- User and password in front of a host. -/
def userText (t : Text) : Text :=
  let name := Percent.encode Percent.userSet (t.takeWhile (· != ':'))
  let word := Percent.encode Percent.userSet ((t.dropWhile (· != ':')).drop 1)
  if name.isEmpty && word.isEmpty then []
  else name ++ (if word.isEmpty then [] else ':' :: word) ++ "@"

/-- The user of an authority and the text behind it. An at sign alone needs a host. -/
def cutUser? (authority rest : Text) : Option (Text × Text) :=
  match authority.cutLast? "@" with
  | none => some ([], authority)
  | some (before, after) =>
    if before.isEmpty && after.isEmpty && !rest.isEmpty then none else some (userText before, after)

/-- The host up to a colon outside brackets. -/
def takeHost : Bool → Text → Text
  | _, [] => []
  | inside, c :: rest =>
    if c = ':' ∧ !inside then []
    else c :: takeHost (c = '[' || (inside && c != ']')) rest

/-- The port behind a host, with its colon, and the text behind it; the default port of the scheme
is left out. A backslash ends the port. -/
def port? (scheme t : Text) : Option (Text × Text) :=
  match t with
  | [] => some ([], [])
  | _ :: t => do
    let digits : Text := t.takeWhile Char.isDigit
    let rest : Text := t.drop digits.length
    if !rest.head?.all (· == '\\') then none
    if digits.isEmpty then return ([], rest)
    let port ← natBelow? 65536 digits
    return (if defaultPorts.lookup scheme = some port then [] else ':' :: natText port, rest)

/-- User, host and port, and the text behind them. Only without a special scheme can the host be
missing, and then there is neither user nor port. -/
def authority? (scheme t : Text) : Option (Authority × Text) := do
  let s := SchemeType.of scheme
  let behind : Text := t.dropWhile (!isEnd s ·)
  let (user, hostPort) ← cutUser? (t.takeWhile (!isEnd s ·)) behind
  let raw := takeHost false hostPort
  let portText : Text := hostPort.drop raw.length
  if raw.isEmpty && (s != .other || !user.isEmpty || !portText.isEmpty) then none
  let host ← if s == .other then Host.plain? raw else Host.special? raw
  let (port, rest) ← port? scheme portText
  return (⟨user, host, port⟩, rest ++ behind)

def afterSlashes? (scheme t : Text) : Option Url := do
  let (authority, rest) ← authority? scheme t
  let (path, rest) := readPathStart (SchemeType.of scheme) rest
  return withEnd scheme (some authority) path rest

/-! ## Whole URLs -/

/-- The host of a file's URL: none for this machine, or where a drive letter stands. -/
def fileHost? (t : Text) : Option Text :=
  if t.isEmpty || isDriveLetter t then some []
  else (Host.special? t).map fun (h : Text) => if h == ("localhost" : Text) then [] else h

/-- The URL of a file from its host, its path and the text behind. The path has one slash at its
start, and the host goes when a drive letter comes first. -/
def ofFile (host path rest : Text) : Url :=
  let host := if startsWithDrive (path.drop 1) then [] else host
  withEnd "file" (some { host }) ('/' :: path.dropWhile (· == '/')) rest

def fileAfterSlashes? (t : Text) : Option Url := do
  let raw : Text := t.takeWhile (!isEnd .file ·)
  let host ← fileHost? raw
  let behind : Text := if isDriveLetter raw then t else t.drop raw.length
  let (path, rest) := readPath .file (if host.isEmpty then behind else dropSeparator .file behind)
  return ofFile host path rest

def file? (t : Text) : Option Url :=
  match t with
  | a :: b :: rest =>
    if isSeparator .file a && isSeparator .file b then fileAfterSlashes? rest else some (plain t)
  | _ => some (plain t)
where
  plain (t : Text) : Url :=
    let (path, rest) := readPath .file (dropSeparator .file t)
    ofFile [] path rest

/-- A URL without a special scheme. -/
def other? (scheme t : Text) : Option Url :=
  match t.stripStart? "//" with
  | some rest => afterSlashes? scheme rest
  | none =>
    match t with
    | '/' :: rest =>
      let (path, rest) := readPath .other rest
      some (withEnd scheme none path rest)
    | _ =>
      let isPathChar (c : Char) := c != '?' && c != '#'
      some (withEnd scheme none (Percent.encode [] (t.takeWhile isPathChar))
        (t.dropWhile isPathChar))

def isSchemeChar (c : Char) : Bool := c.isAlphanum || c == '+' || c == '-' || c == '.'

/-- The text without blanks and controls at its ends, and without tabs and line ends. -/
def clean (t : Text) : Text :=
  let isEdge (c : Char) : Bool := c.toNat ≤ 0x20
  (Text.dropEndWhile isEdge (t.dropWhile isEdge)).filter fun c =>
    c != '\t' && c != '\n' && c != '\r'

/-- The URL that a text gives; a text without a scheme gives none. -/
def parse? (t : Text) : Option Url :=
  let t := clean t
  if !t.head?.any Char.isAlpha then none
  else match t.span isSchemeChar with
    | (scheme, ':' :: rest) =>
      let scheme : Text := scheme.map Char.toLower
      match SchemeType.of scheme with
      | .file => file? rest
      | .special => afterSlashes? scheme (rest.dropWhile (isSeparator .special))
      | .other => other? scheme rest
    | _ => none

end Classwright.Url
