import Mathlib.Tactic.Common
import Classwright.Proofs.PublicSection.Scan
import Classwright.Proofs.Text.Place
import Classwright.Proofs.Text.Search
import Classwright.Proofs.Text.Trim
/-!
# The first public section

What a reader of a class would call its public section, said without the scan: the first line with a
public specifier at the column of the class opens it (`Opens`), the first later line with any specifier
closes it (`Closes`), and members show their indentation on the first line between the two that is not
blank (`Indents`). The scan gives exactly this section, and new members go where it says (`finds_iff`).
Where lines are counted in 32 bits it does so up to the bound (`finds_wordPart_iff`).
-/
namespace Classwright

open Text

/-- A member of a list from index `m` on that satisfies `p` and is the first to do so. -/
theorem map_findIdx?_drop_eq_some_iff {α : Type} {p : α → Bool} {l : List α} {m j : Nat} :
    ((l.drop m).findIdx? p).map (m + ·) = some j ↔
      m ≤ j ∧ (∃ v, l[j]? = some v ∧ p v = true) ∧ ∀ k, m ≤ k → k < j → ∀ v, l[k]? = some v → p v = false := by
  rw [Option.map_eq_some_iff]
  constructor
  · rintro ⟨n, hn, rfl⟩
    obtain ⟨hlt, hp, hfirst⟩ := List.findIdx?_eq_some_iff_getElem.1 hn
    refine ⟨by omega, ⟨(l.drop m)[n], ?_, hp⟩, fun k hmk hkj v hv => ?_⟩
    · rw [← List.getElem?_drop, List.getElem?_eq_getElem hlt]
    · obtain ⟨d, rfl⟩ := Nat.exists_eq_add_of_le hmk
      rw [← List.getElem?_drop, List.getElem?_eq_some_iff] at hv
      obtain ⟨-, rfl⟩ := hv
      simpa using hfirst d (by omega)
  · rintro ⟨hm, ⟨v, hv, hp⟩, hfirst⟩
    obtain ⟨n, rfl⟩ := Nat.exists_eq_add_of_le hm
    rw [← List.getElem?_drop, List.getElem?_eq_some_iff] at hv
    obtain ⟨hlt, rfl⟩ := hv
    refine ⟨n, List.findIdx?_eq_some_iff_getElem.2 ⟨hlt, hp, fun d hd => ?_⟩, rfl⟩
    have hd' : l[m + d]? = some (l.drop m)[d] := by rw [← List.getElem?_drop, List.getElem?_eq_getElem]
    simpa using hfirst (m + d) (by omega) (by omega) _ hd'

theorem map_findIdx?_drop_eq_none_iff {α : Type} {p : α → Bool} {l : List α} {m : Nat} :
    ((l.drop m).findIdx? p).map (m + ·) = none ↔ ∀ k, m ≤ k → ∀ v, l[k]? = some v → p v = false := by
  rw [Option.map_eq_none_iff, List.findIdx?_eq_none_iff]
  constructor
  · intro h k hk v hv
    obtain ⟨d, rfl⟩ := Nat.exists_eq_add_of_le hk
    rw [← List.getElem?_drop] at hv
    exact h v (List.mem_of_getElem? hv)
  · intro h v hv
    obtain ⟨d, hd⟩ := List.mem_iff_getElem?.1 hv
    rw [List.getElem?_drop] at hd
    exact h _ (Nat.le_add_right ..) v hd

namespace Text

variable {line view word rest indent : Text} {column : Nat}

/-! ## What is seen from a column -/

/-- A line from a column on: what is left behind the shortest beginning that reaches the column, and
nothing of a line that does not reach it. -/
def SeenFrom (column : Nat) (line view : Text) : Prop :=
  ∃ before : Text, line = before ++ view ∧ (∀ a : Text, a <+: before → a ≠ before → a.units < column) ∧
    (column ≤ before.units ∨ view = [])

theorem seenFrom_fromColumn (column : Nat) (line : Text) : SeenFrom column line (line.fromColumn column) := by
  induction line generalizing column with
  | nil => exact ⟨[], rfl, fun a ha hne => absurd (List.prefix_nil.1 ha) hne, Or.inr rfl⟩
  | cons c line ih =>
    cases column with
    | zero => exact ⟨[], rfl, fun a ha hne => absurd (List.prefix_nil.1 ha) hne, Or.inl (Nat.zero_le _)⟩
    | succ column =>
      obtain ⟨before, hline, hshort, hreach⟩ := ih (column + 1 - unitsOf c)
      obtain ⟨k, hk⟩ := unitsOf_eq_succ c
      refine ⟨c :: before, congrArg (c :: ·) hline, fun a ha hne => ?_, hreach.imp_left fun h => ?_⟩
      · cases a with
        | nil => exact Nat.succ_pos _
        | cons d a =>
          obtain ⟨rfl, hprefix⟩ := List.cons_prefix_cons.1 ha
          have := hshort a hprefix fun he => hne (he ▸ rfl)
          rw [units_cons]
          omega
      · rw [units_cons]
        omega

theorem SeenFrom.eq_fromColumn (h : SeenFrom column line view) : view = line.fromColumn column := by
  obtain ⟨before, rfl, hshort, hreach⟩ := h
  induction before generalizing column with
  | nil =>
    rcases hreach with h0 | rfl
    · obtain rfl : column = 0 := Nat.le_zero.1 h0
      rw [fromColumn, splitAtColumn_zero]
      rfl
    · rfl
  | cons c before ih =>
    have hpos : 0 < column := hshort [] (List.nil_prefix) (List.cons_ne_nil _ _).symm
    obtain ⟨n, rfl⟩ := Nat.exists_eq_succ_of_ne_zero hpos.ne'
    refine @ih (n + 1 - unitsOf c) (fun a ha hne => ?_) (hreach.imp_left fun h => ?_)
    · have := hshort (c :: a) (List.cons_prefix_cons.2 ⟨rfl, ha⟩) fun he => hne (List.cons.inj he).2
      rw [units_cons] at this
      omega
    · rw [units_cons] at h
      omega

end Text

namespace PublicSection

variable {line word rest indent : Text} {ls : List Text}

/-! ## Specifiers -/

/-- The line begins with a word and a colon, or with a word, white space and `slots:`. -/
def Specifies (word line : Text) : Prop :=
  word ++ ":".toList <+: line ∨
    ∃ space : Text, space ≠ [] ∧ space.isBlank = true ∧ word ++ (space ++ "slots:".toList) <+: line

theorem endsSpecifier_iff : endsSpecifier rest = true ↔
    ":".toList <+: rest ∨ ∃ space : Text, space ≠ [] ∧ space.isBlank = true ∧ space ++ "slots:".toList <+: rest := by
  rw [endsSpecifier, Bool.or_eq_true, Bool.and_eq_true, startsWith_iff, startsWith_iff]
  refine or_congr_right ⟨fun ⟨hhead, hslots⟩ => ?_, ?_⟩
  · refine ⟨rest.takeWhile isBlankChar, ?_, ?_, ?_⟩
    · cases rest with
      | nil => cases hhead
      | cons c rest =>
        have hc : isBlankChar c = true := by simpa using hhead
        simp [hc]
    · rw [isBlank, List.all_eq_true]
      exact fun c hc => List.mem_takeWhile_imp hc
    · conv_rhs => rw [← List.takeWhile_append_dropWhile (p := isBlankChar) (l := rest)]
      exact (List.prefix_append_right_inj _).2 hslots
  · rintro ⟨space, hne, hblank, r, rfl⟩
    rw [isBlank, List.all_eq_true] at hblank
    refine ⟨?_, ?_⟩
    · cases space with
      | nil => exact absurd rfl hne
      | cons c space => simpa using hblank c List.mem_cons_self
    · rw [trimStart, List.append_assoc, List.dropWhile_append_of_pos hblank]
      exact ⟨r, rfl⟩

theorem isSpecifier_iff : isSpecifier word line = true ↔ Specifies word line := by
  rw [isSpecifier, Specifies]
  cases hs : line.stripStart? word with
  | none =>
    have hno : ¬ word <+: line := stripStart?_eq_none_iff.1 hs
    simp only [Option.any_none, Bool.false_eq_true, false_iff]
    rintro (h | ⟨space, -, -, h⟩) <;> exact hno ((List.prefix_append ..).trans h)
  | some rest =>
    obtain rfl := stripStart?_eq_some_iff.1 hs
    simp only [Option.any_some, endsSpecifier_iff, List.prefix_append_right_inj]

/-- The words of access specifiers. -/
def words : List Text := ["public", "private", "protected"]

theorem isAccess_iff : isAccess line = true ↔ ∃ word ∈ words, Specifies word line := by
  simp [isAccess, words, isSpecifier_iff, or_assoc]

/-! ## Indentation -/

/-- The indentation for members in a class at a column: the one of the first line that is not blank, and
when there is none the column and four spaces. -/
inductive Indents (column : Nat) : List Text → Text → Prop
  | shown {blank more : List Text} {indent rest : Text} {c : Char} (hblank : ∀ l ∈ blank, l.isBlank = true)
      (hindent : indent.isBlank = true) (hc : isBlankChar c = false) :
      Indents column (blank ++ (indent ++ c :: rest) :: more) indent
  | usual {ls : List Text} (hblank : ∀ l ∈ ls, l.isBlank = true) : Indents column ls (List.replicate (column + 4) ' ')

theorem indents_memberIndent? (column : Nat) (ls : List Text) :
    Indents column ls ((memberIndent? ls).getD (usualIndent column)) := by
  unfold memberIndent?
  cases hf : ls.find? (!·.isBlank) with
  | none => exact .usual fun l hl => by simpa using List.find?_eq_none.1 hf l hl
  | some l =>
    obtain ⟨hl, blank, more, rfl, hblank⟩ := List.find?_eq_some_iff_append.1 hf
    obtain ⟨c, rest, hrest⟩ : ∃ c rest, l.dropWhile isBlankChar = c :: rest := by
      refine List.exists_cons_of_ne_nil fun hnil => ?_
      rw [List.dropWhile_eq_nil_iff] at hnil
      simp [isBlank, List.all_eq_true.2 hnil] at hl
    have hc : isBlankChar c = false := by
      have := List.head?_dropWhile_not isBlankChar l
      rw [hrest] at this
      simpa using this
    have hl : l = l.takeWhile isBlankChar ++ c :: rest := by rw [← hrest, List.takeWhile_append_dropWhile]
    rw [Option.map_some, Option.getD_some]
    conv in blank ++ _ => rw [hl]
    exact .shown (fun l hl => by simpa using hblank l hl)
      (by rw [isBlank, List.all_eq_true]; exact fun c hc => List.mem_takeWhile_imp hc) hc

theorem Indents.eq {column : Nat} (h : Indents column ls indent) : indent = (memberIndent? ls).getD (usualIndent column) := by
  unfold memberIndent?
  cases h with
  | @shown blank more indent rest c hblank hindent hc =>
    have hf : (blank ++ (indent ++ c :: rest) :: more).find? (!·.isBlank) = some (indent ++ c :: rest) := by
      refine List.find?_eq_some_iff_append.2 ⟨?_, blank, more, rfl, fun l hl => by simp [hblank l hl]⟩
      simp [isBlank, hc]
    rw [hf, Option.map_some, Option.getD_some, takeWhile_append_cons hc, List.takeWhile_eq_self_iff.2]
    exact List.all_eq_true.1 hindent
  | usual hblank =>
    rw [List.find?_eq_none.2 fun l hl => by simp [hblank l hl]]
    rfl

end PublicSection

namespace ClassSource

open PublicSection

variable {s : ClassSource} {i j k : Nat} {v : Text}

/-! ## Lines with specifiers -/

/-- What is seen of line `k`. The class begins at its column, so its first line is seen as it is. -/
def View (s : ClassSource) (k : Nat) (v : Text) : Prop :=
  ∃ line, s.lines[k]? = some line ∧ if k = 0 then v = line else SeenFrom s.column line v

theorem view_iff : s.View k v ↔ s.views[k]? = some v := by
  unfold View views
  cases hs : s.lines with
  | nil => simp [fromClassColumn]
  | cons first rest =>
    cases k with
    | zero => simp [fromClassColumn, eq_comm]
    | succ k =>
      simp only [List.getElem?_cons_succ, Nat.add_one_ne_zero, if_false, fromClassColumn, List.getElem?_map,
        Option.map_eq_some_iff]
      refine exists_congr fun line => and_congr_right fun _ => ⟨fun h => h.eq_fromColumn.symm, ?_⟩
      rintro rfl
      exact seenFrom_fromColumn ..

def HasSpecifier (s : ClassSource) (words : List Text) (k : Nat) : Prop :=
  ∃ v, s.View k v ∧ ∃ word ∈ words, Specifies word v

/-- Line `i` is the first with a public specifier. -/
structure Opens (s : ClassSource) (i : Nat) : Prop where
  specifier : s.HasSpecifier ["public"] i
  first : ∀ k < i, ¬ s.HasSpecifier ["public"] k

/-- Line `j` is the first behind line `i` with any specifier. -/
structure Closes (s : ClassSource) (i j : Nat) : Prop where
  behind : i < j
  specifier : s.HasSpecifier words j
  first : ∀ k, i < k → k < j → ¬ s.HasSpecifier words k

theorem hasSpecifier_public_iff : s.HasSpecifier ["public"] k ↔ ∃ v, s.views[k]? = some v ∧ isPublic v = true := by
  simp [HasSpecifier, view_iff, isPublic, isSpecifier_iff]

theorem hasSpecifier_words_iff : s.HasSpecifier words k ↔ ∃ v, s.views[k]? = some v ∧ isAccess v = true := by
  simp [HasSpecifier, view_iff, isAccess_iff]

theorem opening?_eq : s.opening? = ((s.views.drop 0).findIdx? isPublic).map (0 + ·) := by simp [opening?]

theorem opens_iff : s.Opens i ↔ s.opening? = some i := by
  rw [opening?_eq, map_findIdx?_drop_eq_some_iff]
  constructor
  · rintro ⟨hi, hfirst⟩
    simp only [hasSpecifier_public_iff, not_exists, not_and, Bool.not_eq_true] at hi hfirst
    exact ⟨Nat.zero_le i, hi, fun k _ => hfirst k⟩
  · rintro ⟨-, hi, hfirst⟩
    refine ⟨hasSpecifier_public_iff.2 hi, fun k hk h => ?_⟩
    obtain ⟨v, hv, hp⟩ := hasSpecifier_public_iff.1 h
    rw [hfirst k (Nat.zero_le k) hk v hv] at hp
    cases hp

theorem opening?_eq_none_iff : s.opening? = none ↔ ∀ k, ¬ s.HasSpecifier ["public"] k := by
  rw [opening?_eq, map_findIdx?_drop_eq_none_iff]
  simp only [hasSpecifier_public_iff, not_exists, not_and, Bool.not_eq_true, Nat.zero_le, true_implies]

theorem closes_iff : s.Closes i j ↔ s.closing? i = some j := by
  rw [closing?, map_findIdx?_drop_eq_some_iff]
  constructor
  · rintro ⟨hij, hj, hfirst⟩
    simp only [hasSpecifier_words_iff, not_exists, not_and, Bool.not_eq_true] at hj hfirst
    exact ⟨hij, hj, hfirst⟩
  · rintro ⟨hij, hj, hfirst⟩
    refine ⟨hij, hasSpecifier_words_iff.2 hj, fun k hik hkj h => ?_⟩
    obtain ⟨v, hv, hp⟩ := hasSpecifier_words_iff.1 h
    rw [hfirst k hik hkj v hv] at hp
    cases hp

theorem closing?_eq_none_iff : s.closing? i = none ↔ ∀ k, i < k → ¬ s.HasSpecifier words k := by
  rw [closing?, map_findIdx?_drop_eq_none_iff]
  simp only [hasSpecifier_words_iff, not_exists, not_and, Bool.not_eq_true]
  rfl

/-! ## The section -/

/-- The first public section of a class and the place for new members, which is given when there is none. -/
inductive Finds (s : ClassSource) (otherwise : Position) : PublicSection → Position → Prop
  /-- No line opens one. -/
  | missing (hopens : ∀ k, ¬ s.HasSpecifier ["public"] k) :
      s.Finds otherwise (.missing (List.replicate (s.column + 4) ' ')) otherwise
  /-- It is closed, and covers the lines between the two specifiers. -/
  | bounded {i j : Nat} {indent : Text} (hopens : s.Opens i) (hcloses : s.Closes i j)
      (hindent : Indents s.column (s.between i j) indent) :
      s.Finds otherwise (.bounded (if j = i + 1 then .at ⟨s.firstLine + i, 0⟩
        else ⟨⟨s.firstLine + i + 1, 0⟩, ⟨s.firstLine + j - 1, 0⟩⟩) indent) ⟨s.firstLine + j, 0⟩
  /-- It is not closed, and covers the lines up to the last one. -/
  | openEnded {i : Nat} {indent : Text} (hopens : s.Opens i) (hcloses : ∀ k, i < k → ¬ s.HasSpecifier words k)
      (hindent : Indents s.column (s.between i (s.lines.length - 1)) indent) :
      s.Finds otherwise (.openEnded ⟨⟨s.firstLine + i + 1, 0⟩, ⟨s.firstLine + max (s.lines.length - 1) (i + 1), 0⟩⟩ indent)
        ⟨s.firstLine + max (s.lines.length - 1) (i + 1), 0⟩

theorem linesBetween_eq (hij : i < j) (n : Nat) : linesBetween (n + i) (n + j) =
    if j = i + 1 then .at ⟨n + i, 0⟩ else ⟨⟨n + i + 1, 0⟩, ⟨n + j - 1, 0⟩⟩ := by
  simp only [linesBetween, linesBetweenBy, id]
  split_ifs <;> first | rfl | omega

/-- Behind a section on the last line there is nothing, as in front of it. -/
theorem between_max (s : ClassSource) (i n : Nat) : s.between i (max n (i + 1)) = s.between i n := by
  unfold between
  rw [show max n (i + 1) - (i + 1) = n - (i + 1) by omega]

/-- **The scan finds the first public section,** as long as lines are counted exactly. -/
theorem finds_iff (s : ClassSource) (otherwise : Position) (p : PublicSection) (q : Position) :
    s.Finds otherwise p q ↔ s.publicPart = p ∧ s.publicPart.insertionPoint otherwise = q := by
  constructor
  · intro h
    cases h with
    | missing hopens =>
      have hpart := publicPart_eq_missing (opening?_eq_none_iff.2 hopens)
      exact ⟨hpart, by rw [hpart]; rfl⟩
    | @bounded i j indent hopens hcloses hindent =>
      have hi := opens_iff.1 hopens
      have hj := closes_iff.1 hcloses
      refine ⟨?_, by rw [insertionPoint_eq hi, row, hj, Option.getD_some]⟩
      rw [publicPart_eq hi, hj, hindent.eq, ← linesBetween_eq hcloses.behind]
      rfl
    | @openEnded i indent hopens hcloses hindent =>
      have hi := opens_iff.1 hopens
      have hj := closing?_eq_none_iff.2 hcloses
      have hrow : s.row i = max (s.lines.length - 1) (i + 1) := by rw [row, hj, Option.getD_none]
      refine ⟨?_, by rw [insertionPoint_eq hi, hrow]⟩
      rw [publicPart_eq hi, hj, hrow, between_max, hindent.eq]
      rfl
  · rintro ⟨rfl, rfl⟩
    cases hi : s.opening? with
    | none =>
      have hpart := publicPart_eq_missing hi
      rw [hpart]
      exact .missing (opening?_eq_none_iff.1 hi)
    | some i =>
      rw [insertionPoint_eq hi, publicPart_eq hi]
      have hopens := opens_iff.2 hi
      cases hj : s.closing? i with
      | some j =>
        have hcloses := closes_iff.2 hj
        rw [row, hj, Option.getD_some]
        dsimp only
        rw [linesBetween_eq hcloses.behind]
        exact .bounded hopens hcloses (indents_memberIndent? ..)
      | none =>
        rw [row, hj, Option.getD_none]
        dsimp only
        rw [between_max]
        exact .openEnded hopens (closing?_eq_none_iff.1 hj) (indents_memberIndent? ..)

/-! ## Lines of 32 bits -/

/-- The public section as an outline is answered, where lines are counted in 32 bits. -/
def wordPart (s : ClassSource) : PublicSection := ofClassBy toWord s.symbol s.text

def wordPoint (s : ClassSource) (otherwise : Position) : Position := insertionPointBy toWord s.wordPart otherwise

theorem toWord_line (h : s.firstLine + s.lines.length < twoTo 32) (hk : k ≤ s.lines.length) :
    toWord (s.firstLine + k) = s.firstLine + k := toWord_of_lt (by omega)

/-- Up to the last line behind the class, sums in 32 bits are exact. -/
theorem wordPart_eq (h : s.firstLine + s.lines.length < twoTo 32) : s.wordPart = s.publicPart := by
  cases hi : s.opening? with
  | none => rw [wordPart, ofClassBy_eq_missing toWord hi, publicPart_eq_missing hi]
  | some i =>
    have hlt : i < s.lines.length := by rw [length_lines]; exact opening_lt hi
    have hopening : toWord (s.firstLine + i) = s.firstLine + i := toWord_line h (by omega)
    have hnext : toWord (s.firstLine + i + 1) = s.firstLine + i + 1 := toWord_line h (k := i + 1) hlt
    rw [wordPart, publicPart, ofClass, ofClassBy_eq toWord hi, ofClassBy_eq id hi]
    cases hj : s.closing? i with
    | none => simp only [hopening, hnext, toWord_line h (Nat.sub_le ..), id]
    | some j =>
      have hclosing : toWord (s.firstLine + j) = s.firstLine + j :=
        toWord_line h (by rw [length_lines]; exact (closing_bounds hj).2.le)
      simp only [linesBetweenBy, hopening, hclosing, hnext, id]

theorem wordPoint_eq (h : s.firstLine + s.lines.length < twoTo 32) (otherwise : Position) :
    s.wordPoint otherwise = s.publicPart.insertionPoint otherwise := by
  rw [wordPoint, wordPart_eq h]
  cases hi : s.opening? with
  | none => rw [publicPart_eq_missing hi]; rfl
  | some i =>
    rw [publicPart_eq hi]
    cases hj : s.closing? i with
    | none => rfl
    | some j =>
      obtain ⟨hij, hlast⟩ := closing_bounds hj
      rw [← length_lines] at hlast
      have hend : (linesBetween (s.firstLine + i) (s.firstLine + j)).stop.line < s.firstLine + j := by
        rw [linesBetween_eq hij]
        split_ifs
        · exact Nat.add_lt_add_left hij _
        · show s.firstLine + j - 1 < s.firstLine + j
          omega
      simp only [insertionPointBy, insertionPoint, id]
      rw [toWord_of_lt (by omega)]

theorem bodyStartBy_toWord (h : s.firstLine + s.lines.length < twoTo 32)
    (hcolumn : ∀ line ∈ s.text.pieces, s.column + Text.units line < twoTo 32) :
    bodyStartBy toWord s.symbol s.text = bodyStart s.symbol s.text := by
  have hline {k : Nat} (hk : k ≤ s.lines.length) : toWord (s.symbol.range.start.line + k) = s.symbol.range.start.line + k :=
    toWord_line h hk
  unfold bodyStart bodyStartBy
  cases hb : braceLine? s.text.pieces with
  | none =>
    obtain ⟨front, last, ht⟩ := Text.exists_pieces_eq_concat s.text
    have hone : 1 ≤ s.lines.length := by rw [length_lines, ht]; simp
    simp only [hline hone, id]
  | some found =>
    obtain ⟨n, before, after⟩ := found
    obtain ⟨front, rest, ht, rfl⟩ := eq_of_braceLine? hb
    have hn : front.length + 1 ≤ s.lines.length := by
      rw [length_lines, ht]
      simp only [List.length_append, List.length_cons]
      omega
    have hunits := hcolumn (before ++ '\x7b' :: rest) (by rw [ht]; simp)
    rw [units_append, units_cons] at hunits
    obtain ⟨k, hk⟩ := unitsOf_eq_succ '\x7b'
    simp only [hline (Nat.le_of_succ_le hn), Nat.add_assoc, hline hn, id]
    split_ifs with hafter hfirst
    · rfl
    · rw [toWord_of_lt]
      show s.column + (units before + 1) < twoTo 32
      omega
    · rw [toWord_of_lt (by omega)]

/-- New members go to one place, if lines are counted exactly or in 32 bits. -/
theorem wordPoint_bodyStart (h : s.firstLine + s.lines.length < twoTo 32)
    (hcolumn : ∀ line ∈ s.text.pieces, s.column + Text.units line < twoTo 32) :
    s.wordPoint (bodyStartBy toWord s.symbol s.text) = s.point := by
  rw [wordPoint_eq h, bodyStartBy_toWord h hcolumn, point]

/-- **The answer to an outline** is the first public section of the class and the place for new members,
as long as the lines of the class and the one behind it have numbers of 32 bits. -/
theorem finds_wordPart_iff (s : ClassSource) (h : s.firstLine + s.lines.length < twoTo 32)
    (otherwise : Position) (p : PublicSection) (q : Position) :
    s.Finds otherwise p q ↔ s.wordPart = p ∧ s.wordPoint otherwise = q := by
  rw [wordPoint_eq h, wordPart_eq h]
  exact finds_iff s otherwise p q

/-- A class on lines that end just below the bound. -/
def belowBound : ClassSource where
  symbol := ⟨"S", .structType, ⟨⟨4294967290, 0⟩, ⟨4294967294, 2⟩⟩, []⟩
  text := "struct S \x7b\npublic slots:\n  int a;\nprivate:\n\x7d;"

theorem finds_wordPart_iff_belowBound : belowBound.firstLine + belowBound.lines.length < twoTo 32 ∧
    belowBound.Finds ⟨0, 0⟩ (.bounded (.at ⟨4294967292, 0⟩) "  ") ⟨4294967293, 0⟩ := by
  have h : belowBound.firstLine + belowBound.lines.length < twoTo 32 := by decide
  exact ⟨h, (finds_wordPart_iff belowBound h ..).2 ⟨by decide, by decide⟩⟩

/-- The same class on the last line that has a number. -/
def onBound : ClassSource where
  symbol := ⟨"S", .structType, ⟨⟨4294967295, 0⟩, ⟨4294967295, 2⟩⟩, []⟩
  text := belowBound.text

def indented : ClassSource where
  symbol := ⟨"C", .classType, ⟨⟨0, 2⟩, ⟨3, 3⟩⟩, []⟩
  text := "class C \x7b\n  public:\n    int x;\n  \x7d;"

/-- Behind the bound the numbers begin again at zero. And members show their indentation on the whole
line, not on what is seen from the column of the class. -/
theorem not_finds_wordPart_iff_onBound :
    (¬ ∀ otherwise p q, onBound.Finds otherwise p q ↔ onBound.wordPart = p ∧ onBound.wordPoint otherwise = q) ∧
    indented.Opens 1 ∧ ¬ Indents indented.column ((indented.views.drop 2).take 1) indented.wordPart.indent := by
  refine ⟨fun h => ?_, opens_iff.2 (by decide), fun h => ?_⟩
  · have hexact := (finds_iff onBound ⟨0, 0⟩ _ _).2 ⟨rfl, rfl⟩
    exact absurd ((h _ _ _).1 hexact).1 (by decide)
  · exact absurd h.eq (by decide)

end ClassSource
end Classwright
