/-!
# Texts

A text is a list of characters, so every scan in this library is a recursion on its data. The
functions here cut a text at a marker, strip its ends and split it into lines. A set of code points
is the increasing list of the points where membership changes.
-/
namespace Classwright

/-- Membership of a code point in the set with these turning points: an odd number of them is at most `n`. -/
def turned (turns : List Nat) (n : Nat) : Bool :=
  (turns.takeWhile (· ≤ n)).length % 2 == 1

/-- A text, character by character. -/
abbrev Text := List Char

/-- A literal stands for its characters. -/
instance : Coe String Text := ⟨String.toList⟩

namespace Text

/-! ## Cutting at a marker -/

/-- The text without the marker that it starts with. -/
def stripStart? : Text → Text → Option Text
  | t, [] => some t
  | [], _ :: _ => none
  | c :: cs, m :: ms => if m = c then stripStart? cs ms else none

theorem stripStart?_eq_some_iff {t m r : Text} : t.stripStart? m = some r ↔ t = m ++ r := by
  induction m generalizing t with
  | nil => simp [stripStart?]
  | cons a m ih =>
    cases t with
    | nil => simp [stripStart?]
    | cons c t =>
      by_cases h : a = c
      · simp [stripStart?, h, ih]
      · simp [stripStart?, h, Ne.symm h]

@[simp] theorem stripStart?_append (m t : Text) : stripStart? (m ++ t) m = some t :=
  stripStart?_eq_some_iff.2 rfl

def startsWith (t marker : Text) : Bool := (t.stripStart? marker).isSome

def stripEnd? (t marker : Text) : Option Text :=
  (stripStart? t.reverse marker.reverse).map List.reverse

theorem stripEnd?_eq_some_iff {t m r : Text} : t.stripEnd? m = some r ↔ t = r ++ m := by
  simp only [stripEnd?, Option.map_eq_some_iff, stripStart?_eq_some_iff]
  constructor
  · rintro ⟨u, hu, rfl⟩
    have := congrArg List.reverse hu
    simpa using this
  · rintro rfl
    exact ⟨r.reverse, by simp, by simp⟩

/-- The text before and after the first occurrence of `marker`. -/
def cut? : Text → Text → Option (Text × Text)
  | [], marker => (stripStart? [] marker).map ([], ·)
  | c :: rest, marker =>
    match stripStart? (c :: rest) marker with
    | some after => some ([], after)
    | none => (cut? rest marker).map fun (before, after) => (c :: before, after)

/-- The text before and after the last occurrence of `marker`. -/
def cutLast? : Text → Text → Option (Text × Text)
  | [], marker => (stripStart? [] marker).map ([], ·)
  | c :: rest, marker =>
    match cutLast? rest marker with
    | some (before, after) => some (c :: before, after)
    | none => (stripStart? (c :: rest) marker).map ([], ·)

/-- A cut loses nothing: the parts and the marker between them make up the text. -/
theorem eq_of_cut? {t m a b : Text} (h : t.cut? m = some (a, b)) : t = a ++ m ++ b := by
  induction t generalizing a with
  | nil =>
    simp only [cut?, Option.map_eq_some_iff, stripStart?_eq_some_iff] at h
    obtain ⟨r, hr, he⟩ := h
    cases he
    simpa using hr
  | cons c t ih =>
    unfold cut? at h
    split at h
    · rename_i after hs
      cases h
      simpa using stripStart?_eq_some_iff.1 hs
    · simp only [Option.map_eq_some_iff] at h
      obtain ⟨⟨u, v⟩, hu, he⟩ := h
      cases he
      simp [ih hu]

theorem eq_of_cutLast? {t m a b : Text} (h : t.cutLast? m = some (a, b)) : t = a ++ m ++ b := by
  induction t generalizing a with
  | nil =>
    simp only [cutLast?, Option.map_eq_some_iff, stripStart?_eq_some_iff] at h
    obtain ⟨r, hr, he⟩ := h
    cases he
    simpa using hr
  | cons c t ih =>
    unfold cutLast? at h
    split at h
    · rename_i u v hu
      cases h
      simp [ih hu]
    · simp only [Option.map_eq_some_iff, stripStart?_eq_some_iff] at h
      obtain ⟨r, hr, he⟩ := h
      cases he
      simpa using hr

def has (t marker : Text) : Bool := (t.cut? marker).isSome

def replaceFirst (t marker replacement : Text) : Text :=
  match t.cut? marker with
  | some (before, after) => before ++ replacement ++ after
  | none => t

/-- Occurrences of `marker` replaced from the left, after the next `skip` characters, which belong
to an occurrence already replaced. -/
def replaceAfter (marker replacement : Text) : Nat → Text → Text
  | _, [] => []
  | skip + 1, _ :: rest => replaceAfter marker replacement skip rest
  | 0, c :: rest =>
    if startsWith (c :: rest) marker then
      replacement ++ replaceAfter marker replacement (marker.length - 1) rest
    else c :: replaceAfter marker replacement 0 rest

/-- The text with every occurrence of a marker that is not empty replaced, from the left. -/
def replace (t marker replacement : Text) : Text := replaceAfter marker replacement 0 t

/-- The pieces of the text between occurrences of a separating character; never empty. -/
def splitOn (sep : Char) : Text → List Text
  | [] => [[]]
  | c :: rest =>
    if c = sep then [] :: splitOn sep rest
    else match splitOn sep rest with
      | [] => [[c]]
      | piece :: pieces => (c :: piece) :: pieces

/-- Texts in a row with a separator between neighbours. -/
def joinWith (sep : Text) : List Text → Text
  | [] => []
  | [t] => t
  | t :: ts => t ++ sep ++ joinWith sep ts

/-! ## Blanks and ends -/

/-- White space of the character standard. -/
def isBlankChar (c : Char) : Bool :=
  let n := c.toNat
  (0x9 ≤ n && n ≤ 0xD) || n == 0x20 || n == 0x85 || n == 0xA0 || n == 0x1680 ||
    (0x2000 ≤ n && n ≤ 0x200A) || n == 0x2028 || n == 0x2029 || n == 0x202F || n == 0x205F ||
    n == 0x3000

def dropEndWhile (p : Char → Bool) (t : Text) : Text := (t.reverse.dropWhile p).reverse

/-- The text without leading white space. -/
def trimStart (t : Text) : Text := t.dropWhile isBlankChar

/-- The text without trailing white space. -/
def trimEnd (t : Text) : Text := t.dropEndWhile isBlankChar

/-- The text without white space at its ends. -/
def trim (t : Text) : Text := t.trimStart.trimEnd

/-- The text has nothing but white space. -/
def isBlank (t : Text) : Bool := t.all isBlankChar

def nonEmpty? (t : Text) : Option Text := if t.isEmpty then none else some t

/-! ## Lines -/

/-- The pieces between line feeds. -/
def pieces (t : Text) : List Text := t.splitOn '\n'

/-- The line without the carriage return at its end. -/
def dropReturn (line : Text) : Text := (line.stripEnd? ['\r']).getD line

/-- Lines from the pieces between line feeds: a line feed ends a line, together with a carriage
return before it, and nothing after the last line feed is no line. -/
def linesOfPieces : List Text → List Text
  | [] => []
  | [last] => if last.isEmpty then [] else [last]
  | piece :: more => piece.dropReturn :: linesOfPieces more

def lines (t : Text) : List Text := linesOfPieces t.pieces

/-! ## Bytes of the UTF-8 form -/

/-- Number of bytes of the text in UTF-8. -/
def bytes : Text → Nat
  | [] => 0
  | c :: rest => c.utf8Size + bytes rest

/-- Number of UTF-16 units of a character. -/
def unitsOf (c : Char) : Nat := if c.toNat < 0x10000 then 1 else 2

/-- Number of UTF-16 units of the text. -/
def units : Text → Nat
  | [] => 0
  | c :: rest => unitsOf c + units rest

end Text
end Classwright
