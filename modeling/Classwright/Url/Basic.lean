import Classwright.Number.Digits
import Classwright.Path.Basic
import Classwright.Text.Utf8
/-!
# URLs

A URL in its normal form, and the two ways between URLs and paths of files.
-/
namespace Classwright.Percent

/-! ## Percent encoding

Bytes that may not stand in a part of a URL are written as a percent sign and two upper-case
hexadecimal digits. Each part has a set of ASCII characters that it escapes; controls and characters
beyond ASCII are always escaped. -/

/-- A byte as an escape. -/
def escape (b : UInt8) : Text := ['%', hexDigitUpper (b.toNat / 16), hexDigitUpper (b.toNat % 16)]

/-- A character in a part of a URL that escapes the ASCII characters in `set`. -/
def encodeChar (set : List Char) (c : Char) : Text :=
  if c.toNat < 0x20 || 0x7F ≤ c.toNat || set.contains c then (utf8OfChar c).flatMap escape
  else [c]

def encode (set : List Char) (t : Text) : Text := t.flatMap (encodeChar set)

def encodeUnit (set : List Char) : Unit8 → Text
  | .char c => encodeChar set c
  | .byte b => escape b

/-- Characters that no part but the host and the opaque path can hold. -/
def fragmentSet : List Char := [' ', '"', '<', '>', '\x60']

def pathSet : List Char := fragmentSet ++ ['#', '?', '\x7b', '\x7d']

/-- Characters escaped in a name of a file path. -/
def nameSet : List Char := pathSet ++ ['/', '%', '\\']

def querySet : List Char := [' ', '"', '#', '<', '>']

/-- Characters escaped in the query of a special scheme. -/
def specialQuerySet : List Char := querySet ++ ['\'']

/-- Characters escaped in a user name or password. -/
def userSet : List Char :=
  pathSet ++ ['/', ':', ';', '=', '@', '[', '\\', ']', '^', '|']

/-- The bytes of a text in which escapes stand for bytes. An escape that is not complete stands for
itself. -/
def decode : Text → List UInt8
  | '%' :: a :: b :: rest =>
    match hexValue? a, hexValue? b with
    | some x, some y => (x * 16 + y).toUInt8 :: decode rest
    | _, _ => 0x25 :: decode (a :: b :: rest)
  | c :: rest => utf8OfChar c ++ decode rest
  | [] => []
  termination_by t => t.length

end Classwright.Percent

namespace Classwright

/-! ## URLs -/

/-- Whom a URL asks. The user ends with its at sign and the port begins with its colon. -/
structure Authority where
  user : Text := []
  host : Text := []
  port : Text := []
deriving DecidableEq

def Authority.text (a : Authority) : Text := a.user ++ a.host ++ a.port

/-- A URL whose parts are in their normal form. -/
structure Url where
  scheme : Text
  authority : Option Authority
  /-- The path, with a slash before each of its names, or any other text for an opaque path. -/
  path : Text
  query : Option Text
  fragment : Option Text
deriving DecidableEq

namespace Url

/-- The URL as it is written. A path that would be read as an authority gets a dot in front. -/
def text (u : Url) : Text :=
  u.scheme ++ ":" ++
    (match u.authority with
      | some a => "//" ++ a.text
      | none => if u.path.startsWith "//" then "/." else []) ++
    u.path ++
    (match u.query with
      | some q => '?' :: q
      | none => []) ++
    (match u.fragment with
      | some f => '#' :: f
      | none => [])

/-- The last two units are a letter and a colon or bar, and something is before them. -/
def endsInDrive (units : List Unit8) : Bool :=
  match units.reverse with
  | .char mark :: .char letter :: _ :: _ => letter.isAlpha && (mark == ':' || mark == '|')
  | _ => false

/-- No other machine is meant. -/
def isLocal (u : Url) : Bool :=
  match u.authority with
  | some a => a.host.isEmpty || a.host == "localhost"
  | none => true

/-- The path of a file on this machine, whatever the scheme: the names of the path have to be a
list. A drive letter at the end is followed by a slash. -/
def filePath? (u : Url) : Option Path :=
  if u.isLocal ∧ u.path.head? = some '/' then
    let units := unitsOfBytes (Percent.decode u.path)
    some ⟨if endsInDrive units then units ++ [Path.slash] else units⟩
  else none

def componentText (c : Component) : Text :=
  '/' :: (Path.piece c).flatMap (Percent.encodeUnit Percent.nameSet)

/-- The URL of a file: the components of an absolute path, each behind a slash. -/
def ofFilePath? (p : Path) : Option Url :=
  if p.isAbsolute then
    let names := p.components.drop 1
    let path : Text := if names.isEmpty then "/" else names.flatMap componentText
    some ⟨"file", some {}, path, none, none⟩
  else none

def withFragment (u : Url) (f : Text) : Url :=
  { u with fragment := some (Percent.encode Percent.fragmentSet f) }

end Url
end Classwright
