import Mathlib.Tactic.Common
import Classwright.BuildLog.Link
import Classwright.Proofs.BuildLog.Collapse
import Classwright.Proofs.Document.LineEnds
import Classwright.Proofs.Number.Digits
import Classwright.Proofs.Url.FilePath
/-!
# Links of a log

Each line of a log has at most one link: to the place in the file that its location names, when that
file is there (`onLine?_eq_some_iff`). A path of a drive may name a file of the working directory, but there
is no link to it. A link covers the text of the location in a document with the log, whatever the lines end
with, and that text alone has the same location again (`inLog_covers_locations`).
-/
namespace Classwright

namespace Location

/-- The file that a location names in a workspace. -/
def file (l : Location) (root : Path) : Path := resolve l.path root

end Location

namespace Link

open Text

variable {tree : FileTree} {root : Path} {l : Location} {u : Url} {link : Link} {t line start message : Text} {n : Nat}

/-! ## The target of a location -/

/-- Where a location leads, when its file is there. -/
def target? (tree : FileTree) (root : Path) (l : Location) : Option Url :=
  if tree.isFile (l.file root) then (Url.ofFilePath? (l.file root)).map (·.withFragment (place l)) else none

/-- A target is there just when the file is, and its path is absolute. -/
theorem isSome_target?_iff :
    (target? tree root l).isSome = true ↔ tree.isFile (l.file root) = true ∧ (l.file root).isAbsolute = true := by
  unfold target? Url.ofFilePath?
  by_cases hfile : tree.isFile (l.file root) = true
  · by_cases habsolute : (l.file root).isAbsolute = true
    · simp [hfile, habsolute]
    · simp [hfile, habsolute]
  · simp [hfile]

/-- The URL is the one of a place in the file at a path. -/
structure PointsTo (u : Url) (path : Path) (line column : Nat) : Prop where
  scheme : u.scheme = "file" ∧ u.authority = some {} ∧ u.query = none
  path : Percent.decode u.path = FileName.bytes path.units
  fragment : u.fragment = some (natText line ++ ',' :: natText column)

theorem encode_of_plain {set : List Char} (h : ∀ c ∈ t, Percent.encodeChar set c = [c]) : Percent.encode set t = t := by
  induction t with
  | nil => rfl
  | cons c t ih =>
    have ht := ih fun x hx => h x (by simp [hx])
    rw [Percent.encode] at ht ⊢
    rw [List.flatMap_cons, h c (by simp), ht]
    rfl

theorem encodeChar_of_isDigit {c : Char} (h : c.isDigit = true) : Percent.encodeChar Percent.fragmentSet c = [c] := by
  simp only [Char.isDigit, Bool.and_eq_true, decide_eq_true_eq] at h
  have hlow : 48 ≤ c.toNat := h.1
  have hhigh : c.toNat ≤ 57 := h.2
  have hset : (Percent.fragmentSet.all fun x => x.toNat < 48 ∨ 57 < x.toNat) = true := by decide
  simp only [List.all_eq_true, decide_eq_true_eq] at hset
  have hplain : c ∉ Percent.fragmentSet := by
    intro hm
    have := hset c hm
    omega
  rw [Percent.encodeChar, if_neg]
  simp only [Bool.or_eq_true, decide_eq_true_eq, List.contains_iff_mem, hplain, or_false]
  omega

/-- Nothing in the fragment of a place is escaped. -/
theorem encode_place (l : Location) : Percent.encode Percent.fragmentSet (place l) = natText l.line ++ ',' :: natText l.column := by
  have hplace : place l = natText l.line ++ ',' :: natText l.column := by
    rw [place, List.append_assoc]
    rfl
  rw [hplace]
  apply encode_of_plain
  intro c hc
  simp only [List.mem_append, List.mem_cons] at hc
  rcases hc with hc | rfl | hc
  · exact encodeChar_of_isDigit (isDigit_of_mem_natText hc)
  · decide
  · exact encodeChar_of_isDigit (isDigit_of_mem_natText hc)

theorem exists_resolve_eq_normalize (raw : Text) (root : Path) : ∃ p : Path, Location.resolve raw root = p.normalize := by
  simp only [Location.resolve]
  split
  · exact ⟨_, rfl⟩
  · exact ⟨_, rfl⟩

theorem pointsTo_of_target? (h : target? tree root l = some u) : PointsTo u (l.file root) l.line l.column := by
  unfold target? at h
  split at h
  · obtain ⟨file, hfile, rfl⟩ := Option.map_eq_some_iff.1 h
    have habsolute := Url.isAbsolute_of_ofFilePath? hfile
    have hpath : Percent.decode file.path = FileName.bytes (l.file root).units := by
      obtain ⟨p, hp⟩ := exists_resolve_eq_normalize l.path root
      rw [Url.decode_path_of_ofFilePath? hfile]
      rw [Location.file, hp] at habsolute ⊢
      rw [Path.ofComponents_components_normalize habsolute]
    rw [Url.ofFilePath?, if_pos habsolute] at hfile
    obtain rfl := Option.some.inj hfile
    exact ⟨⟨rfl, rfl, rfl⟩, hpath, congrArg some (encode_place l)⟩
  · cases h

/-! ## The link of a line -/

theorem message?_eq_some_iff : message? line = some (start, message) ↔ start ∈ linePrefixes ∧ line = start ++ message := by
  have hlength : ∀ s ∈ linePrefixes, s.length = 8 := by decide
  unfold message?
  rw [List.findSome?_eq_some_iff]
  constructor
  · rintro ⟨before, s, after, hprefixes, hs, -⟩
    obtain ⟨m, hm, heq⟩ := Option.map_eq_some_iff.1 hs
    obtain ⟨rfl, rfl⟩ := Prod.mk.inj heq
    exact ⟨by simp [hprefixes], stripStart?_eq_some_iff.1 hm⟩
  · rintro ⟨hmem, rfl⟩
    obtain ⟨before, after, hprefixes, hnot⟩ := List.eq_append_cons_of_mem hmem
    refine ⟨before, start, after, hprefixes, by simp, ?_⟩
    intro s hs
    rw [Option.map_eq_none_iff, Option.eq_none_iff_forall_not_mem]
    intro m hm
    -- prefixes have one length, so only one of them is at the start of a line
    have hs' : s ∈ linePrefixes := by simp [hprefixes, hs]
    have heq := (List.append_inj (stripStart?_eq_some_iff.1 hm) ((hlength start hmem).trans (hlength s hs').symm)).1
    rw [heq] at hnot
    exact hnot hs

theorem onLine?_eq (tree : FileTree) (root : Path) (n : Nat) (line : Text) : onLine? tree root n line =
    (message? line).bind fun (start, message) => (Location.ofMessage? message).bind fun l =>
      (target? tree root l).map fun u => ⟨⟨.ofCounts n start.units, .ofCounts n (start.units + l.text.units)⟩, u⟩ := by
  unfold onLine? target?
  simp only [Option.bind_eq_bind, Option.pure_def]
  congr 1
  ext1 ⟨start, message⟩
  congr 1
  ext1 l
  rw [Location.file]
  cases tree.isFile (Location.resolve l.path root)
  · rfl
  · cases hfile : Url.ofFilePath? (Location.resolve l.path root) <;> simp

/-- The line has a location whose file is there, and its path is none of a drive. -/
def Linked (tree : FileTree) (root : Path) (line : Text) : Prop :=
  ∃ start ∈ linePrefixes, ∃ message l, line = start ++ message ∧ Location.ofMessage? message = some l ∧
    tree.isFile (l.file root) = true ∧ Location.hasDrive l.path.trim = false

/-- **The link of a line** is there just when the file of its location is. -/
theorem onLine?_eq_some_iff : onLine? tree root n line = some link ↔
    ∃ start ∈ linePrefixes, ∃ message l, line = start ++ message ∧ Location.ofMessage? message = some l ∧
      target? tree root l = some link.target ∧
      link.range = ⟨.ofCounts n start.units, .ofCounts n (start.units + l.text.units)⟩ := by
  simp only [onLine?_eq, Option.bind_eq_some_iff, Option.map_eq_some_iff, Prod.exists, message?_eq_some_iff]
  constructor
  · rintro ⟨start, message, ⟨hstart, hline⟩, l, hl, u, hu, rfl⟩
    exact ⟨start, hstart, message, l, hline, hl, hu, rfl⟩
  · rintro ⟨start, hstart, message, l, hline, hl, hu, hrange⟩
    exact ⟨start, message, ⟨hstart, hline⟩, l, hl, link.target, hu, by rw [← hrange]⟩

theorem exists_onLine?_iff (hroot : root.isAbsolute = true) :
    (∃ link, onLine? tree root n line = some link) ↔ Linked tree root line := by
  constructor
  · rintro ⟨link, h⟩
    obtain ⟨start, hstart, message, l, hline, hl, hu, -⟩ := onLine?_eq_some_iff.1 h
    obtain ⟨hfile, habsolute⟩ := isSome_target?_iff.1 (by rw [hu]; rfl)
    exact ⟨start, hstart, message, l, hline, hl, hfile, (Location.isAbsolute_resolve_iff hroot _).1 habsolute⟩
  · rintro ⟨start, hstart, message, l, hline, hl, hfile, hdrive⟩
    have habsolute : (l.file root).isAbsolute = true := (Location.isAbsolute_resolve_iff hroot _).2 hdrive
    obtain ⟨u, hu⟩ := Option.isSome_iff_exists.1 (isSome_target?_iff.2 ⟨hfile, habsolute⟩)
    exact ⟨⟨_, u⟩, onLine?_eq_some_iff.2 ⟨start, hstart, message, l, hline, hl, hu, rfl⟩⟩

/-! ## The links of a log -/

/-- All lines of the text have numbers of 32 bits, and so have the columns of each. -/
structure Addressable (t : Text) : Prop where
  lines : t.lines.length ≤ twoTo 32
  columns : ∀ line ∈ t.lines, Text.units line < twoTo 32

theorem line_of_onLine? (h : onLine? tree root n line = some link) : link.range.start.line = toWord n := by
  obtain ⟨start, -, message, l, -, -, -, hrange⟩ := onLine?_eq_some_iff.1 h
  rw [hrange]
  rfl

theorem mem_onLines_iff {lines : List Text} : link ∈ onLines tree root n lines ↔
    ∃ k line, lines[k]? = some line ∧ onLine? tree root (n + k) line = some link := by
  induction lines generalizing n with
  | nil => simp [onLines]
  | cons line lines ih =>
    rw [onLines, List.mem_append, Option.mem_toList, ih]
    constructor
    · rintro (h | ⟨k, line', hk, h⟩)
      · exact ⟨0, line, rfl, h⟩
      · exact ⟨k + 1, line', hk, by rw [← Nat.add_assoc, Nat.add_right_comm]; exact h⟩
    · rintro ⟨k, line', hk, h⟩
      cases k with
      | zero =>
        obtain rfl := Option.some.inj hk
        exact Or.inl h
      | succ k => exact Or.inr ⟨k, line', hk, by rwa [← Nat.add_assoc, Nat.add_right_comm] at h⟩

/-- Links come in the order of their lines, one on a line at most. -/
theorem pairwise_onLines (tree : FileTree) (root : Path) {n : Nat} {lines : List Text} (h : n + lines.length ≤ twoTo 32) :
    (onLines tree root n lines).Pairwise (·.range.start.line < ·.range.start.line) := by
  induction lines generalizing n with
  | nil => exact List.Pairwise.nil
  | cons line lines ih =>
    rw [List.length_cons] at h
    rw [onLines, List.pairwise_append]
    refine ⟨?_, ih (by omega), ?_⟩
    · cases onLine? tree root n line <;> simp
    · intro first hfirst link hlink
      obtain ⟨k, line', hk, hlast⟩ := mem_onLines_iff.1 hlink
      have hlt : k < lines.length := (List.getElem?_eq_some_iff.1 hk).1
      rw [line_of_onLine? (Option.mem_toList.1 hfirst), line_of_onLine? hlast, toWord_of_lt (by omega), toWord_of_lt (by omega)]
      omega

/-! ## Lines of a document -/

/-- A line is the start of the piece between the line feeds around it. -/
theorem exists_piece_of_line (h : t.lines[n]? = some line) : ∃ rest, t.pieces[n]? = some (line ++ rest) := by
  unfold lines at h
  generalize t.pieces = ps at h
  induction ps generalizing n with
  | nil => simp [linesOfPieces] at h
  | cons piece more ih =>
    cases more with
    | nil =>
      rw [linesOfPieces] at h
      split at h
      · simp at h
      · exact ⟨[], by rw [List.append_nil]; exact h⟩
    | cons next more =>
      have hlines : linesOfPieces (piece :: next :: more) = piece.dropReturn :: linesOfPieces (next :: more) := rfl
      rw [hlines] at h
      cases n with
      | zero =>
        obtain rfl := Option.some.inj h
        obtain ⟨rest, hrest⟩ := dropReturn_isPrefix piece
        exact ⟨rest, by rw [hrest]; rfl⟩
      | succ n => exact ih h

/-- The text that the link of a line covers is its location. -/
theorem textIn_range {d : Document} (hd : d.lineStarts = Document.lineStartsOf d.text) (ht : d.text = t)
    (hline : t.lines[n]? = some line) {a m b : Text} (hcut : line = a ++ (m ++ b)) :
    d.textIn ⟨⟨n, a.units⟩, ⟨n, a.units + m.units⟩⟩ = m := by
  obtain ⟨rest, hpiece⟩ := exists_piece_of_line hline
  rw [← ht] at hpiece
  obtain ⟨hn, hpiece⟩ := List.getElem?_eq_some_iff.1 hpiece
  have hpieces : d.text.pieces = d.text.pieces.take n ++ (line ++ rest) :: d.text.pieces.drop (n + 1) := by
    rw [← hpiece, ← List.drop_eq_getElem_cons, List.take_append_drop]
  have hlength : (d.text.pieces.take n).length = n := by rw [List.length_take]; omega
  obtain ⟨more, htext, -⟩ := exists_eq_wholeLines_append (n := n) (List.getElem?_eq_some_iff.2 ⟨hn, hpiece⟩)
  generalize d.text.pieces.take n = front at *
  have hcolumn : ∀ x y : Text, line ++ rest = x ++ y → (line ++ rest).byteColumn x.units = x.bytes := by
    intro x y hxy
    rw [hxy, byteColumn_units]
  refine Document.textIn_eq _ (a := wholeLines front ++ a) (b := b ++ rest ++ more) (by rw [htext, hcut]; simp) ?_ ?_
  · rw [Document.clampedOffset, Document.offsetOf_eq hd hpieces hlength, hcolumn a (m ++ b ++ rest) (by rw [hcut]; simp)]
    simp
  · rw [Document.clampedOffset, Document.offsetOf_eq hd hpieces hlength, ← units_append,
      hcolumn (a ++ m) (b ++ rest) (by rw [hcut]; simp)]
    simp [Nat.add_assoc]

/-- **Links cover their locations.** The links of a log come in the order of its lines, one for each line
that has a location whose file is there, unless its path is one of a drive. In a document with the log a link
covers the text of a location, and it leads to the place in the file that this text names. -/
theorem inLog_covers_locations (tree : FileTree) (root : Path) (hroot : root.isAbsolute = true) (t : Text) (ht : Addressable t) :
    (inLog tree root t).Pairwise (·.range.start.line < ·.range.start.line) ∧
    (∀ n, (∃ link ∈ inLog tree root t, link.range.start.line = n) ↔ ∃ line, t.lines[n]? = some line ∧ Linked tree root line) ∧
    ∀ link ∈ inLog tree root t, ∀ d : Document, d.Reachable → d.text = t →
      link.range.stop.line = link.range.start.line ∧
      ∃ l, l.text = d.textIn link.range ∧ Location.ofMessage? (d.textIn link.range) = some l ∧
        tree.isFile (l.file root) = true ∧ PointsTo link.target (l.file root) l.line l.column := by
  have hmem : ∀ link, link ∈ inLog tree root t ↔
      ∃ n line, t.lines[n]? = some line ∧ onLine? tree root n line = some link := by
    intro link
    rw [inLog, mem_onLines_iff]
    simp only [Nat.zero_add]
  have hnumber : ∀ {n line}, t.lines[n]? = some line → n < twoTo 32 := fun h =>
    (List.getElem?_eq_some_iff.1 h).1.trans_le ht.lines
  refine ⟨pairwise_onLines tree root (by simpa using ht.lines), ?_, ?_⟩
  · intro n
    constructor
    · rintro ⟨link, hlink, rfl⟩
      obtain ⟨n, line, hline, h⟩ := (hmem link).1 hlink
      rw [line_of_onLine? h, toWord_of_lt (hnumber hline)]
      exact ⟨line, hline, (exists_onLine?_iff hroot).1 ⟨link, h⟩⟩
    · rintro ⟨line, hline, hlinked⟩
      obtain ⟨link, h⟩ := (exists_onLine?_iff hroot).2 hlinked
      exact ⟨link, (hmem link).2 ⟨n, line, hline, h⟩, by rw [line_of_onLine? h, toWord_of_lt (hnumber hline)]⟩
  · intro link hlink d hd htext
    obtain ⟨n, line, hline, h⟩ := (hmem link).1 hlink
    obtain ⟨start, -, message, l, rfl, hl, hu, hrange⟩ := onLine?_eq_some_iff.1 h
    have hnewline : '\n' ∉ message := by
      obtain ⟨rest, hpiece⟩ := exists_piece_of_line hline
      have := notMem_of_mem_pieces (List.mem_of_getElem? hpiece)
      simp only [List.mem_append, not_or] at this
      exact this.1.2
    obtain ⟨hat, rest, hrest⟩ := ((Location.ofMessage?_eq_some_iff hnewline).1 hl).text
    -- the location ends within the line, and all columns of the line have numbers
    have hcolumn : start.units + l.text.units < twoTo 32 := by
      have := ht.columns _ (List.mem_of_getElem? hline)
      rw [← hrest, units_append, units_append] at this
      omega
    rw [Position.ofCounts_of_lt (hnumber hline) (by omega), Position.ofCounts_of_lt (hnumber hline) hcolumn] at hrange
    have hcovered : d.textIn link.range = l.text := by
      rw [hrange]
      exact textIn_range hd.lineStarts htext hline (by rw [hrest])
    have hagain : Location.ofMessage? l.text = some l := by
      refine (Location.ofMessage?_eq_some_iff ?_).2 hat
      intro hm
      exact hnewline (hrest ▸ List.mem_append_left rest hm)
    rw [hcovered, hrange]
    exact ⟨rfl, l, rfl, hagain, (isSome_target?_iff.1 (by rw [hu]; rfl)).1, pointsTo_of_target? hu⟩

/-! ## A log of two lines -/

/-- The directory `/w` with a source in it. -/
def sourceFiles : FileTree where
  root := .dir [(Text.toUnits "w", .dir [(Text.toUnits "\u00fc.c", .file (some []))])]

/-- A line without a location, one with a location in brackets, and one about a file that is not there. -/
def sourceLog : Text := "[build] cc\r\n-[Warn] ../.././\u00fc.c(12): x\r\n[build] b.c:1:2: x"

theorem addressable_sourceLog : Addressable sourceLog := by
  have hlines : sourceLog.lines.length ≤ 3 := by decide
  have hcolumns : (sourceLog.lines.all fun line => decide (Text.units line < 32)) = true := by decide
  rw [List.all_eq_true] at hcolumns
  refine ⟨hlines.trans (by decide), fun line hline => ?_⟩
  have := of_decide_eq_true (hcolumns line hline)
  exact this.trans (by decide)

theorem inLog_covers_locations_bracket : ∃ link, inLog sourceFiles (.ofText "/w") sourceLog = [link] ∧
    (Document.new "Log" sourceLog 1).textIn link.range = "../.././\u00fc.c(12)" ∧
    PointsTo link.target (.ofText "/w/\u00fc.c") 12 1 := by
  have hlog : (inLog sourceFiles (.ofText "/w") sourceLog).map (·.range) = [⟨⟨1, 8⟩, ⟨1, 23⟩⟩] := by decide +kernel
  obtain ⟨link, hlink, hrange⟩ := List.map_eq_singleton_iff.1 hlog
  obtain ⟨-, -, hcovers⟩ := inLog_covers_locations sourceFiles (.ofText "/w") (by decide) sourceLog addressable_sourceLog
  obtain ⟨-, l, -, hl, -, hpoints⟩ := hcovers link (hlink ▸ List.mem_singleton_self _) (.new "Log" sourceLog 1) (.new ..) rfl
  have htext : (Document.new "Log" sourceLog 1).textIn link.range = "../.././\u00fc.c(12)" := by
    rw [hrange]
    decide +kernel
  rw [htext] at hl
  have hlocation : Location.ofMessage? "../.././\u00fc.c(12)" =
      some ⟨"../.././\u00fc.c(12)", "../.././\u00fc.c", 12, 1⟩ := by decide +kernel
  have hfile : (Location.mk "../.././\u00fc.c(12)" "../.././\u00fc.c" 12 1).file (.ofText "/w") = .ofText "/w/\u00fc.c" := by
    decide +kernel
  obtain rfl := Option.some.inj (hl.symm.trans hlocation)
  rw [hfile] at hpoints
  exact ⟨link, hlink, htext, hpoints⟩

/-- The directory `/w` with a directory in it that is named like a drive, below which there is a source. -/
def driveFiles : FileTree where
  root := .dir [(Text.toUnits "w", .dir [(Text.toUnits "C:", .dir [(Text.toUnits "a.c", .file (some []))])])]
  working := [Text.toUnits "w"]

def driveLocation : Location := ⟨"C:/a.c:1:2", "C:/a.c", 1, 2⟩

def sourceLocation : Location := ⟨"\u00fc.c:1:2", "\u00fc.c", 1, 2⟩

/-- A location on the first line without a number of 32 bits, behind lines with nothing on them. -/
def longLog : Text := wholeLines (List.replicate (twoTo 32) []) ++ "[build] \u00fc.c:1:2".toList

theorem getElem?_lines_longLog : longLog.lines[twoTo 32]? = some "[build] \u00fc.c:1:2".toList := by
  have hblank : ∀ l ∈ List.replicate (twoTo 32) ([] : Text), '\n' ∉ l := fun l hl => by
    rw [List.eq_of_mem_replicate hl]
    exact List.not_mem_nil
  have hlength : ((List.replicate (twoTo 32) ([] : Text)).map dropReturn).length = twoTo 32 := by
    rw [List.length_map, List.length_replicate]
  rw [longLog, lines_wholeLines_append hblank, lines_of_notMem (by decide) (by decide),
    List.getElem?_append_right hlength.le, hlength, Nat.sub_self]
  rfl

/-- From the working directory the path of a drive leads to a file, but no link does. And no link stands on a
line without a number of 32 bits. -/
theorem not_inLog_covers_drive :
    (¬ ∀ (tree : FileTree) (root : Path) (t : Text), root.isAbsolute = true →
      ∀ n, (∃ link ∈ inLog tree root t, link.range.start.line = n) ↔ ∃ line, t.lines[n]? = some line ∧
        ∃ start ∈ linePrefixes, ∃ message l, line = start ++ message ∧ Location.ofMessage? message = some l ∧
          tree.isFile (l.file root) = true) ∧
    ¬ ∀ (tree : FileTree) (root : Path) (t : Text), root.isAbsolute = true →
      ∀ n, (∃ link ∈ inLog tree root t, link.range.start.line = n) ↔
        ∃ line, t.lines[n]? = some line ∧ Linked tree root line := by
  constructor
  · intro h
    have hfile : driveFiles.isFile (driveLocation.file (.ofText "/w")) = true := by decide +kernel
    have hlocation : Location.ofMessage? driveLocation.text = some driveLocation := by decide +kernel
    have hlines : lines ("[build] " ++ driveLocation.text) = ["[build] " ++ driveLocation.text] := by decide
    have hnone : inLog driveFiles (.ofText "/w") ("[build] " ++ driveLocation.text) = [] := by decide +kernel
    obtain ⟨link, hlink, -⟩ := (h driveFiles (.ofText "/w") ("[build] " ++ driveLocation.text) (by decide) 0).2
      ⟨_, by rw [hlines]; rfl, "[build] ", by decide, _, driveLocation, rfl, hlocation, hfile⟩
    rw [hnone] at hlink
    cases hlink
  · intro h
    have hlocation : Location.ofMessage? sourceLocation.text = some sourceLocation := by decide +kernel
    have hfile : sourceFiles.isFile (sourceLocation.file (.ofText "/w")) = true := by decide +kernel
    obtain ⟨link, hlink, hnumber⟩ := (h sourceFiles (.ofText "/w") longLog (by decide) (twoTo 32)).2
      ⟨_, getElem?_lines_longLog, "[build] ", by decide, _, sourceLocation, rfl, hlocation, hfile, by decide⟩
    rw [inLog, mem_onLines_iff] at hlink
    obtain ⟨n, line, -, hline⟩ := hlink
    rw [line_of_onLine? hline] at hnumber
    have hlt : toWord (0 + n) < twoTo 32 := Nat.mod_lt _ (by decide)
    omega

end Link
end Classwright
