import Mathlib.Order.Bounds.Basic
import Classwright.Proofs.Signature.Closed
/-!
# The first declaration of a name

A name in front of a parenthesis is looked for by byte offsets, and behind an occurrence that continues an
identifier the search goes on at its end. Still it finds the least offset of a whole name
(`nameOffset?_eq_some_iff`), and the declaration is in the first line of code that has one
(`declarationOffset?_least`).
-/
namespace Classwright.Declaration

open Text

variable {code name line x z : Text} {n : Nat}

/-! ## A line -/

/-- The name stands in front of a parenthesis behind so many bytes of the line, and it does not continue an
identifier there. -/
def NamedAt (name line : Text) (n : Nat) : Prop :=
  ∃ before after, line = before ++ (name ++ "(" ++ after) ∧ before.bytes = n ∧
    ∀ c, before.getLast? = some c → isIdentifierChar c = false

theorem namedAt_iff : NamedAt name line n ↔ ∃ x z, line = x ++ z ∧ IsWhole (name ++ "(") none x z ∧ x.bytes = n := by
  constructor
  · rintro ⟨x, after, rfl, rfl, hb⟩
    exact ⟨x, _, rfl, ⟨List.prefix_append .., isBoundary_or_none.2 hb⟩, rfl⟩
  · rintro ⟨x, z, rfl, ⟨⟨after, rfl⟩, hb⟩, rfl⟩
    exact ⟨x, after, rfl, rfl, isBoundary_or_none.1 hb⟩

/-- The byte offset of what the search finds. -/
def nameOffset? (line name : Text) : Option Nat :=
  (findIdentifier line (name ++ "(")).map fun (before, _) => before.bytes

/-- Of two cuts the one with fewer characters in front of it has no more bytes there. -/
theorem IsFirst.isLeast (h : IsFirst (name ++ "(") none line x z) : IsLeast {n | NamedAt name line n} x.bytes := by
  refine ⟨namedAt_iff.2 ⟨x, z, h.cut, h.whole, rfl⟩, fun n hn => ?_⟩
  obtain ⟨x', z', hcut, hwhole, rfl⟩ := namedAt_iff.1 hn
  have hlength : x.length ≤ x'.length := h.least x' z' hcut hwhole
  have hprefix : x <+: x' ++ z' := hcut ▸ h.cut ▸ List.prefix_append x z
  obtain ⟨u, rfl⟩ := List.prefix_of_prefix_length_le hprefix (List.prefix_append x' z') hlength
  rw [bytes_append]
  exact Nat.le_add_right ..

theorem nameOffset?_eq_none_iff (hp : '(' ∉ name) : nameOffset? line name = none ↔ ∀ n, ¬ NamedAt name line n := by
  rw [nameOffset?, Option.map_eq_none_iff, ← Option.not_isSome_iff_eq_none, findIdentifier_isSome_iff hp]
  constructor
  · intro h n hn
    obtain ⟨x, z, hcut, hwhole, -⟩ := namedAt_iff.1 hn
    exact h ⟨x, z, hcut, hwhole⟩
  · rintro h ⟨x, z, hcut, hwhole⟩
    exact h x.bytes (namedAt_iff.2 ⟨x, z, hcut, hwhole, rfl⟩)

/-- **The search gives the least offset** of a whole name in the line. -/
theorem nameOffset?_eq_some_iff (hp : '(' ∉ name) : nameOffset? line name = some n ↔ IsLeast {n | NamedAt name line n} n := by
  have hleast (m : Nat) (hm : nameOffset? line name = some m) : IsLeast {n | NamedAt name line n} m := by
    obtain ⟨⟨x, z⟩, hfound, rfl⟩ := Option.map_eq_some_iff.1 hm
    exact ((findIdentifier_eq_some_iff hp).1 hfound).isLeast
  refine ⟨hleast n, fun h => ?_⟩
  cases hm : nameOffset? line name with
  | none => exact absurd h.1 ((nameOffset?_eq_none_iff hp).1 hm n)
  | some m => rw [(hleast m hm).unique h]

/-- The loop over the offsets gives it, too, when it has a round for each character of the line. -/
theorem findByOffsets_eq_nameOffset? {rounds : Nat} (h : line.length < rounds) :
    findByOffsets line (name ++ "(") rounds 0 = .of (nameOffset? line name) := by
  have hne : (name ++ "(" : Text) ≠ [] := by simp
  exact findByOffsets_eq (a := []) hne h

/-! ## The code -/

/-- A line that is no comment, with the byte offset of the name in it. -/
def lineOffset? (name line : Text) : Option (Text × Nat) :=
  if isComment line then none else (nameOffset? line name).map (line, ·)

theorem lineOffset?_eq_none_iff (hp : '(' ∉ name) :
    lineOffset? name line = none ↔ (¬ "//".toList <+: line.trim → ∀ n, ¬ NamedAt name line n) := by
  rw [lineOffset?, ← isComment_iff, ← nameOffset?_eq_none_iff hp]
  by_cases hc : isComment line = true <;> simp [hc]

theorem lineOffset?_eq_some_iff (hp : '(' ∉ name) {line' : Text} : lineOffset? name line' = some (line, n) ↔
    line' = line ∧ ¬ "//".toList <+: line.trim ∧ IsLeast {n | NamedAt name line n} n := by
  rw [lineOffset?, ← isComment_iff, ← nameOffset?_eq_some_iff hp]
  constructor
  · intro h
    split at h
    · cases h
    · next hc =>
      obtain ⟨m, hm, he⟩ := Option.map_eq_some_iff.1 h
      obtain ⟨rfl, rfl⟩ := Prod.mk.inj he
      exact ⟨rfl, hc, hm⟩
  · rintro ⟨rfl, hc, hm⟩
    rw [if_neg hc, hm, Option.map_some]

/-- The line of the declaration with the byte offset of the name in it. -/
def declarationOffset? (code name : Text) : Option (Text × Nat) :=
  (declarationLine code name).map fun (before, main) => (before ++ main, before.bytes)

theorem declarationOffset?_eq (code name : Text) : declarationOffset? code name = code.lines.findSome? (lineOffset? name) := by
  have hline (line : Text) : (findIdentifier line (name ++ "(")).map (fun (before, main) => (before ++ main, before.bytes)) =
      (nameOffset? line name).map (line, ·) := by
    rw [nameOffset?, Option.map_map]
    cases hfound : findIdentifier line (name ++ "(") with
    | none => rfl
    | some cut => exact congrArg (fun t => some (t, cut.1.bytes)) (findFrom_cut hfound).1.symm
  rw [declarationOffset?, declarationLine, List.map_findSome?]
  induction code.lines with
  | nil => rfl
  | cons line lines ih =>
    rw [List.findSome?_cons, ← ih, lineOffset?]
    cases hc : isComment line with
    | true =>
      rw [List.filter_cons_of_neg (by simp [hc])]
      rfl
    | false =>
      rw [List.filter_cons_of_pos (by simp [hc]), List.findSome?_cons, Function.comp_apply, hline]
      rfl

/-- The first line of the code that is no comment and has the name, with the least offset of the name. -/
structure IsFirstDeclaration (code name line : Text) (n : Nat) : Prop where
  first : ∃ front back, code.lines = front ++ line :: back ∧
    ∀ l ∈ front, ¬ "//".toList <+: l.trim → ∀ n, ¬ NamedAt name l n
  notComment : ¬ "//".toList <+: line.trim
  least : IsLeast {n | NamedAt name line n} n

theorem declarationOffset?_eq_some_iff (hp : '(' ∉ name) :
    declarationOffset? code name = some (line, n) ↔ IsFirstDeclaration code name line n := by
  rw [declarationOffset?_eq, List.findSome?_eq_some_iff]
  constructor
  · rintro ⟨front, line', back, hlines, hline, hfront⟩
    obtain ⟨rfl, hcomment, hleast⟩ := (lineOffset?_eq_some_iff hp).1 hline
    exact ⟨⟨front, back, hlines, fun l hl => (lineOffset?_eq_none_iff hp).1 (hfront l hl)⟩, hcomment, hleast⟩
  · rintro ⟨⟨front, back, hlines, hfront⟩, hcomment, hleast⟩
    exact ⟨front, line, back, hlines, (lineOffset?_eq_some_iff hp).2 ⟨rfl, hcomment, hleast⟩,
      fun l hl => (lineOffset?_eq_none_iff hp).2 (hfront l hl)⟩

theorem declarationOffset?_eq_none_iff (hp : '(' ∉ name) : declarationOffset? code name = none ↔ ¬ Declares code name := by
  rw [declarationOffset?, Option.map_eq_none_iff, ← isSome_declarationLine_iff hp, Option.not_isSome_iff_eq_none]

/-- **The search for a name is complete and leftmost.** For a name without a parenthesis the loop over the
offsets ends, and it takes no slice that leaves the line or cuts a character. It gives the least offset of a
whole name, and none exactly when the line has no whole name. The declaration in the code is the first line
that is no comment and has a whole name, with this offset, and there is none exactly when no line has one. -/
theorem declarationOffset?_least (hp : '(' ∉ name) (code : Text) :
    (∀ line : Text,
      (∀ rounds, line.length < rounds → findByOffsets line (name ++ "(") rounds 0 = .of (nameOffset? line name)) ∧
      (∀ n, nameOffset? line name = some n ↔ IsLeast {n | NamedAt name line n} n) ∧
      (nameOffset? line name = none ↔ ∀ n, ¬ NamedAt name line n)) ∧
    lineByOffsets code name = .of (declarationOffset? code name) ∧
    (∀ line n, declarationOffset? code name = some (line, n) ↔ IsFirstDeclaration code name line n) ∧
    (declarationOffset? code name = none ↔ ¬ Declares code name) := by
  refine ⟨fun line => ⟨?_, ?_, nameOffset?_eq_none_iff hp⟩, lineByOffsets_eq code name, ?_, declarationOffset?_eq_none_iff hp⟩
  · intro rounds hrounds
    exact findByOffsets_eq_nameOffset? hrounds
  · intro n
    exact nameOffset?_eq_some_iff hp
  · intro line n
    exact declarationOffset?_eq_some_iff hp

/-- A name that is in a comment, goes on from another name and then stands in its argument. -/
def mentioned : Text := "// ab(\n  éab(ab(x)) ab(y)\nab()"

theorem declarationOffset?_least_mentioned :
    '(' ∉ "ab".toList ∧
    findByOffsets "  éab(ab(x)) ab(y)" "ab(" 19 0 = .of (some 7) ∧ IsLeast {n | NamedAt "ab" "  éab(ab(x)) ab(y)" n} 7 ∧
    lineByOffsets mentioned "ab" = .of (some ("  éab(ab(x)) ab(y)", 7)) ∧
    IsFirstDeclaration mentioned "ab" "  éab(ab(x)) ab(y)" 7 := by
  have hp : '(' ∉ "ab".toList := by decide
  have hoffset : nameOffset? "  éab(ab(x)) ab(y)" "ab" = some 7 := by decide +kernel
  have hdeclaration : declarationOffset? mentioned "ab" = some ("  éab(ab(x)) ab(y)".toList, 7) := by decide +kernel
  obtain ⟨hlines, hcode, hfirst, -⟩ := declarationOffset?_least hp mentioned
  obtain ⟨hloop, hleast, -⟩ := hlines "  éab(ab(x)) ab(y)"
  refine ⟨hp, ?_, (hleast 7).1 hoffset, ?_, (hfirst _ 7).1 hdeclaration⟩
  · rw [← hoffset]
    exact hloop 19 (by decide)
  · rw [hcode, hdeclaration]

end Classwright.Declaration
