import Classwright.Proofs.Text.Search
import Classwright.Proofs.Text.Trim
import Classwright.Signature.Declaration
/-!
# Reading a declaration

A declaration is words with spaces behind them, a name in front of a parenthesis, and specifiers at
the end. The search for the name stops behind the words (`findIdentifier_spaced`), the return type is
what follows the strongest qualifier among them (`afterQualifier_spaced`), and the specifiers are
taken off one after the other (`withoutSuffixes_append`).
-/
namespace Classwright

/-- Words, each with a space behind it. -/
def Text.spaced (words : List Text) : Text := words.flatMap (· ++ [' '])

namespace Text

variable {m b w : Text} {words : List Text}

@[simp] theorem spaced_nil : spaced [] = [] := rfl

theorem spaced_cons (w : Text) (words : List Text) : spaced (w :: words) = w ++ ' ' :: spaced words := by
  simp [spaced]

theorem isInfix_spaced_iff (hm : m ≠ []) (hs : ' ' ∉ m) : m <:+: spaced words ↔ ∃ w ∈ words, m <:+: w := by
  induction words with
  | nil => simp [hm]
  | cons w words ih => rw [spaced_cons, isInfix_append_cons_iff hs, ih, List.exists_mem_cons_iff]

/-- The first occurrence of a marker that none of the words has is behind them. -/
theorem cut?_spaced (hs : ' ' ∉ m) (h : ∀ w ∈ words, ¬ m <:+: w) (b : Text) :
    (spaced words ++ (m ++ b)).cut? m = some (spaced words, b) := by
  induction words with
  | nil => exact cut?_of_prefix m b
  | cons w words ih =>
    rw [spaced_cons, List.append_assoc, List.cons_append, cut?_append_cons hs (h w (by simp)),
      ih fun x hx => h x (by simp [hx])]
    rfl

end Text

namespace Declaration

open Text

variable {needle a b w name code line before main : Text} {words suffixes : List Text} {c : Char}

/-! ## Finding the name -/

theorem findFrom_self (hne : needle ≠ []) {previous : Option Char} (hp : isBoundary previous = true) (b : Text) :
    findFrom needle 0 previous (needle ++ b) = some ([], needle ++ b) := by
  obtain ⟨c, rest, rfl⟩ := List.exists_cons_of_ne_nil hne
  have hs : startsWith (c :: rest ++ b) (c :: rest) = true := startsWith_iff.2 (List.prefix_append ..)
  rw [List.cons_append] at hs ⊢
  rw [findFrom, if_pos hs, if_pos hp]

/-- A search that comes to a space goes on behind it. -/
theorem findFrom_append_space (hne : needle ≠ []) (hs : ' ' ∉ needle) (ha : ¬ needle <:+: a) (previous : Option Char)
    (b : Text) : findFrom needle 0 previous (a ++ ' ' :: (needle ++ b)) = some (a ++ [' '], needle ++ b) := by
  induction a generalizing previous with
  | nil =>
    have hp : ¬ startsWith (' ' :: (needle ++ b)) needle = true := by
      rw [startsWith_iff]
      intro h
      exact hne (List.prefix_nil.1 ((isPrefix_append_cons_iff (a := []) hs).1 h))
    rw [List.nil_append, findFrom, if_neg hp, findFrom_self hne (by decide)]
    rfl
  | cons c a ih =>
    rw [List.infix_cons_iff, not_or] at ha
    have hp : ¬ startsWith (c :: (a ++ ' ' :: (needle ++ b))) needle = true := by
      rw [startsWith_iff, ← List.cons_append, isPrefix_append_cons_iff hs]
      exact ha.1
    rw [List.cons_append, findFrom, if_neg hp, ih ha.2]
    rfl

/-- The first whole occurrence of a needle that none of the words has is behind them. -/
theorem findIdentifier_spaced (hne : needle ≠ []) (hs : ' ' ∉ needle) (h : ∀ w ∈ words, ¬ needle <:+: w) (b : Text) :
    findIdentifier (spaced words ++ (needle ++ b)) needle = some (spaced words, needle ++ b) := by
  rcases List.eq_nil_or_concat words with rfl | ⟨front, last, rfl⟩
  · exact findFrom_self hne rfl b
  · have e : spaced (front.concat last) = (spaced front ++ last) ++ [' '] := by simp [spaced]
    have ha : ¬ needle <:+: spaced front ++ last := by
      intro hi
      have hw : needle <:+: spaced (front.concat last) := by
        rw [e]
        exact hi.trans (List.prefix_append ..).isInfix
      obtain ⟨w, hw, hn⟩ := (isInfix_spaced_iff hne hs).1 hw
      exact h w hw hn
    rw [e, findIdentifier, List.append_assoc, List.singleton_append, findFrom_append_space hne hs ha]

/-- A line that begins with a word is no comment unless the word begins one. -/
theorem isComment_append_cons (hw : w.TightStart) (hc : c ≠ '/') (h : ¬ "//".toList <+: w) (b : Text) :
    isComment (w ++ c :: b) = false := by
  rw [isComment, (hw.append (c :: b)).trimStart, Bool.eq_false_iff, ne_eq, startsWith_iff,
    isPrefix_append_cons_iff (by simpa using hc)]
  exact h

theorem declarationLine_eq {cut : Text × Text} (hl : code.lines.filter (!isComment ·) = [line])
    (hf : findIdentifier line (name ++ "(") = some cut) : declarationLine code name = some cut := by
  rw [declarationLine, hl, List.findSome?_cons, hf]

/-! ## Return types -/

/-- A qualifier ends what is left out in front of a return type, when no stronger one is there. -/
theorem afterQualifier_eq {stronger weaker : List Text} {q : Text} (hq : qualifiers = stronger ++ q :: weaker)
    (hn : ∀ k ∈ stronger, ¬ k <:+: before) (h : before.cut? q = some (a, b)) : afterQualifier before = b := by
  have hs : stronger.findSome? (fun key => (before.cut? key).map (·.2)) = none := by
    rw [List.findSome?_eq_none_iff]
    intro k hk
    rw [cut?_eq_none_iff.2 (hn k hk)]
    rfl
  rw [afterQualifier, hq, List.findSome?_append, hs, Option.none_or, List.findSome?_cons, h]
  rfl

theorem afterQualifier_eq_self (hn : ∀ k ∈ qualifiers, ¬ k <:+: before) : afterQualifier before = before := by
  rw [afterQualifier, List.findSome?_eq_none_iff.2]
  · rfl
  · intro k hk
    rw [cut?_eq_none_iff.2 (hn k hk)]
    rfl

theorem qualifier_chars {k : Text} (hk : k ∈ qualifiers) : k ≠ [] ∧ ' ' ∉ k := by
  have h : ∀ k ∈ qualifiers, k ≠ [] ∧ ' ' ∉ k := by decide
  exact h k hk

/-- Weaker qualifiers may stand in front of the strongest one. -/
theorem afterQualifier_spaced {stronger weaker : List Text} {q type : Text} (hq : qualifiers = stronger ++ q :: weaker)
    (hw : ∀ w ∈ words, w ∈ weaker) (ht : ∀ k ∈ qualifiers, ¬ k <:+: type) :
    afterQualifier (spaced (words ++ [q, type])) = ' ' :: (type ++ [' ']) := by
  -- no qualifier is in one that comes later in the order
  have hp : qualifiers.Pairwise fun k w => ¬ k <:+: w := by decide
  rw [hq, List.pairwise_append, List.pairwise_cons] at hp
  obtain ⟨-, ⟨hqw, -⟩, hsq⟩ := hp
  have hcut : (spaced (words ++ [q, type])).cut? q = some (spaced words, ' ' :: (type ++ [' '])) := by
    have e : spaced (words ++ [q, type]) = spaced words ++ (q ++ ' ' :: (type ++ [' '])) := by simp [spaced]
    rw [e]
    exact cut?_spaced (qualifier_chars (by simp [hq])).2 (fun w h => hqw w (hw w h)) _
  refine afterQualifier_eq hq (fun k hk hi => ?_) hcut
  have hkq : k ∈ qualifiers := by simp [hq, hk]
  obtain ⟨w, hmem, hkw⟩ := (isInfix_spaced_iff (qualifier_chars hkq).1 (qualifier_chars hkq).2).1 hi
  simp only [List.mem_append, List.mem_cons, List.not_mem_nil, or_false] at hmem
  rcases hmem with hmem | rfl | rfl
  · exact hsq k hk w (List.mem_cons_of_mem _ (hw w hmem)) hkw
  · exact hsq k hk w (List.mem_cons_self ..) hkw
  · exact ht k hkq hkw

/-- The words for access, and those that may follow them in front of a return type. -/
def accessWords : List Text := ["public:", "private:", "protected:"]

def modifierWords : List Text := ["virtual", "static"]

/-- **The return type** is what follows the qualifiers, whichever of them are there. -/
theorem trim_afterQualifier {access modifier : Option Text} {type : Text} (ha : ∀ a ∈ access, a ∈ accessWords)
    (hm : ∀ m ∈ modifier, m ∈ modifierWords) (ht : ∀ k ∈ qualifiers, ¬ k <:+: type) :
    (afterQualifier (spaced (access.toList ++ modifier.toList ++ [type]))).trim = type.trim := by
  have htrim : trim (' ' :: (type ++ [' '])) = trim type := by
    rw [trim_cons_of_blank (by decide), trim_concat_of_blank (by decide)]
  cases modifier with
  | some m =>
    have hstatic : qualifiers = [] ++ "static".toList :: ("virtual".toList :: accessWords) := rfl
    have hvirtual : qualifiers = ["static".toList] ++ "virtual".toList :: accessWords := rfl
    have hacc : ∀ w ∈ access.toList, w ∈ accessWords := fun w hw => ha w (Option.mem_toList.1 hw)
    have hmem := hm m rfl
    simp only [modifierWords, List.mem_cons, List.not_mem_nil, or_false] at hmem
    rw [Option.toList_some, List.append_assoc, List.singleton_append]
    rcases hmem with rfl | rfl
    · rw [afterQualifier_spaced hvirtual hacc ht, htrim]
    · rw [afterQualifier_spaced hstatic (fun w hw => List.mem_cons_of_mem _ (hacc w hw)) ht, htrim]
  | none =>
    rw [Option.toList_none, List.append_nil]
    cases access with
    | some a =>
      obtain ⟨stronger, weaker, hq⟩ : ∃ stronger weaker, qualifiers = stronger ++ a :: weaker :=
        List.append_of_mem (List.mem_append_right ["static".toList, "virtual"] (ha a rfl))
      have hcut := afterQualifier_spaced hq (fun w (hw : w ∈ []) => absurd hw (by simp)) ht
      rw [Option.toList_some, List.singleton_append, ← List.nil_append [a, type], hcut, htrim]
    | none =>
      have e : spaced ((none : Option Text).toList ++ [type]) = type ++ ' ' :: [] := by simp [spaced]
      rw [e, afterQualifier_eq_self, trim_concat_of_blank (by decide)]
      intro k hk
      obtain ⟨h0, h1⟩ := qualifier_chars hk
      rw [isInfix_append_cons_iff h1, not_or, List.infix_nil]
      exact ⟨ht k hk, h0⟩

theorem returnType_eq {rest : Text} (ht : templateMarks.any code.has = false)
    (hl : declarationLine code name = some (before, rest)) : returnType code name = some (afterQualifier before).trim := by
  rw [returnType, ht, hl]
  rfl

/-! ## Specifiers at the end -/

theorem tightEnd_of_declarationOnly {s : Text} (hs : s ∈ declarationOnly) : s.TightEnd := by
  simp only [declarationOnly, List.mem_cons, List.not_mem_nil, or_false] at hs
  rcases hs with rfl | rfl | rfl
  · exact ⟨"overrid", 'e', rfl, by decide⟩
  · exact ⟨"fina", 'l', rfl, by decide⟩
  · exact ⟨"= ", '0', rfl, by decide⟩

/-- The specifier at the end is the one that is taken off. -/
theorem dropSuffix?_append {s : Text} (hs : s ∈ declarationOnly) (main : Text) :
    dropSuffix? (main ++ ' ' :: s) = some main.trimEnd := by
  have hcut : (main ++ ' ' :: s).stripEnd? s = some (main ++ [' ']) := stripEnd?_eq_some_iff.2 (by simp)
  have hfind : declarationOnly.findSome? ((main ++ ' ' :: s).stripEnd? ·) = some (main ++ [' ']) := by
    simp only [declarationOnly, List.mem_cons, List.not_mem_nil, or_false] at hs
    -- the specifiers differ in their last characters
    rcases hs with rfl | rfl | rfl
    · rw [declarationOnly, List.findSome?_cons, hcut]
    · have h1 : (main ++ ' ' :: "final".toList).stripEnd? "override" = none := by simp [stripEnd?, stripStart?]
      rw [declarationOnly, List.findSome?_cons, h1, List.findSome?_cons, hcut]
    · have h1 : (main ++ ' ' :: "= 0".toList).stripEnd? "override" = none := by simp [stripEnd?, stripStart?]
      have h2 : (main ++ ' ' :: "= 0".toList).stripEnd? "final" = none := by simp [stripEnd?, stripStart?]
      rw [declarationOnly, List.findSome?_cons, h1, List.findSome?_cons, h2, List.findSome?_cons, hcut]
  rw [dropSuffix?, hfind, Option.map_some, trimEnd_concat_of_blank (by decide)]

theorem dropSuffix?_eq_none (h : ∀ s ∈ declarationOnly, ¬ s <:+ main) : dropSuffix? main = none := by
  rw [dropSuffix?, Option.map_eq_none_iff, List.findSome?_eq_none_iff]
  exact fun s hs => stripEnd?_eq_none_iff.2 (h s hs)

def withSuffixes (main : Text) (suffixes : List Text) : Text := main ++ suffixes.flatMap (' ' :: ·)

theorem withSuffixes_concat (main : Text) (suffixes : List Text) (s : Text) :
    withSuffixes main (suffixes ++ [s]) = withSuffixes main suffixes ++ ' ' :: s := by
  simp [withSuffixes]

theorem length_le_withSuffixes (main : Text) (suffixes : List Text) :
    suffixes.length ≤ (withSuffixes main suffixes).length := by
  induction suffixes using List.reverseRecOn with
  | nil => simp
  | append_singleton suffixes s ih =>
    rw [withSuffixes_concat]
    simp only [List.length_append, List.length_cons, List.length_nil]
    omega

theorem tightEnd_withSuffixes (hm : main.TightEnd) (hs : ∀ s ∈ suffixes, s ∈ declarationOnly) :
    (withSuffixes main suffixes).TightEnd := by
  rcases List.eq_nil_or_concat suffixes with rfl | ⟨front, s, rfl⟩
  · simpa [withSuffixes] using hm
  · rw [List.concat_eq_append, withSuffixes_concat]
    exact TightEnd.append ((tightEnd_of_declarationOnly (hs s (by simp))).append [' ']) _

/-- Each round takes off the last specifier, so there are enough rounds. -/
theorem dropSuffixes_withSuffixes (hm : main.TightEnd) (h : ∀ s ∈ declarationOnly, ¬ s <:+ main)
    (hs : ∀ s ∈ suffixes, s ∈ declarationOnly) {fuel : Nat} (hf : suffixes.length ≤ fuel) :
    dropSuffixes fuel (withSuffixes main suffixes) = main := by
  induction suffixes using List.reverseRecOn generalizing fuel with
  | nil =>
    have e : withSuffixes main [] = main := by simp [withSuffixes]
    rw [e]
    cases fuel with
    | zero => rfl
    | succ fuel => rw [dropSuffixes, dropSuffix?_eq_none h]
  | append_singleton suffixes s ih =>
    have hs' : ∀ x ∈ suffixes, x ∈ declarationOnly := fun x hx => hs x (by simp [hx])
    rw [List.length_append, List.length_singleton] at hf
    obtain ⟨fuel, rfl⟩ : ∃ n, fuel = n + 1 := ⟨fuel - 1, by omega⟩
    rw [withSuffixes_concat, dropSuffixes, dropSuffix?_append (hs s (by simp)),
      (tightEnd_withSuffixes hm hs').trimEnd]
    exact ih hs' (by omega)

/-- **The specifiers behind a function** are left out, however many there are. -/
theorem withoutSuffixes_withSuffixes (hm : main.TightEnd) (h : ∀ s ∈ declarationOnly, ¬ s <:+ main)
    (hs : ∀ s ∈ suffixes, s ∈ declarationOnly) :
    withoutSuffixes (withSuffixes main suffixes) = main := by
  rw [withoutSuffixes, (tightEnd_withSuffixes hm hs).trimEnd]
  exact dropSuffixes_withSuffixes hm h hs (length_le_withSuffixes main suffixes)

end Declaration
end Classwright
