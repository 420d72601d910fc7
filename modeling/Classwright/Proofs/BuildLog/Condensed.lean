import Mathlib.Tactic.Common
import Classwright.Proofs.BuildLog.Collapse
import Classwright.Proofs.BuildLog.Link
/-!
# Links of condensed lines

A condensed line has the condensed location of the line that it stands for (`At.collapsed`), and its link
leads where that location leads.
-/
namespace Classwright

namespace Location

open Text

variable {t message hint : Text} {l : Location}

/-- The location with its text and path condensed. -/
def collapsed (l : Location) : Location := { l with text := collapseCurrent l.text, path := collapseCurrent l.path }

theorem not_has_colonMark_of_notMem (h : ':' ∉ t) : ¬ Has ColonMark t := by
  rintro ⟨w, ⟨l, c, -, -, rfl⟩, hi⟩
  exact h (hi.subset (by simp))

theorem notMem_digits_slash {d : Text} (h : Digits d) : '/' ∉ d ∧ '\\' ∉ d :=
  ⟨notMem_of_digits h (by decide), notMem_of_digits h (by decide)⟩

/-- **A condensed location** is found at the start of the condensed line, in front of the end of the line
that it was on. -/
theorem At.collapsed (h : l.At message) (hhint : hint <:+ message) :
    l.collapsed.At (l.collapsed.text ++ [' ', '|', '|', ' '] ++ hint) := by
  have hcolon : ∀ w, ColonMark w → '/' ∉ w ∧ '\\' ∉ w := fun w hw =>
    ⟨notMem_colonMark (by decide) (by decide) w hw, notMem_colonMark (by decide) (by decide) w hw⟩
  have hbracket : ∀ w, BracketMark w → '/' ∉ w ∧ '\\' ∉ w := fun w hw =>
    ⟨notMem_bracketMark (by decide) (by decide) (by decide) w hw, notMem_bracketMark (by decide) (by decide) (by decide) w hw⟩
  cases h with
  | @colon p l d tail n k digits numbers line first ends =>
    have hl := notMem_digits_slash digits.1
    have hd := notMem_digits_slash digits.2
    have htext : collapseCurrent (p ++ ':' :: l ++ ':' :: d) = collapseCurrent p ++ ':' :: l ++ ':' :: d := by
      rw [List.append_assoc, List.append_assoc]
      exact collapseCurrent_append (by simp [hl.1, hd.1]) (by simp [hl.2, hd.2]) p
    have hfirst : ¬ Has ColonMark (collapseCurrent p ++ ':' :: l) := by
      rw [← collapseCurrent_append (by simp [hl.1]) (by simp [hl.2])]
      exact fun hhas => first (has_of_collapseCurrent hcolon hhas)
    have hends : EndsDigits ([' ', '|', '|', ' '] ++ hint) := endsDigits_cons.2 (by decide)
    have := At.colon digits numbers (fun hm => line (mem_of_mem_collapseCurrent hm)) hfirst hends
    show At ⟨collapseCurrent (p ++ ':' :: l ++ ':' :: d), collapseCurrent p, n, k⟩
      (collapseCurrent (p ++ ':' :: l ++ ':' :: d) ++ [' ', '|', '|', ' '] ++ hint)
    rw [htext]
    simpa only [List.append_assoc] using this
  | @bracket p l tail n digits number line colon first =>
    have hl := notMem_digits_slash digits
    have htext : collapseCurrent (p ++ '(' :: l ++ [')']) = collapseCurrent p ++ '(' :: l ++ [')'] := by
      rw [List.append_assoc, List.append_assoc]
      exact collapseCurrent_append (by simp [hl.1]) (by simp [hl.2]) p
    have hcolon' : ¬ Has ColonMark (collapseCurrent p ++ '(' :: l ++ ')' :: ([' ', '|', '|'] ++ ' ' :: hint)) := by
      -- the brackets and the blank are in no mark, so they keep the parts around them apart
      have hapart : ∀ c, isDecimalDigit c = false → c ≠ ':' → ∀ s t, Has ColonMark (s ++ c :: t) ↔ Has ColonMark s ∨ Has ColonMark t :=
        fun c hdigit hc => has_append_cons_iff (notMem_colonMark hdigit hc)
      rw [hapart ')' (by decide) (by decide), hapart '(' (by decide) (by decide), hapart ' ' (by decide) (by decide)]
      rintro ((hp | hdigits) | hbars | hrest)
      · exact colon ((has_of_collapseCurrent hcolon hp).mono (by rw [List.append_assoc]; exact (List.prefix_append ..).isInfix))
      · exact not_has_colonMark_of_notMem (notMem_of_digits digits (by decide)) hdigits
      · exact not_has_colonMark_of_notMem (by decide) hbars
      · exact colon (hrest.mono hhint.isInfix)
    have := At.bracket digits number (fun hm => line (mem_of_mem_collapseCurrent hm)) hcolon'
      (fun hhas => first (has_of_collapseCurrent hbracket hhas))
    show At ⟨collapseCurrent (p ++ '(' :: l ++ [')']), collapseCurrent p, n, 1⟩
      (collapseCurrent (p ++ '(' :: l ++ [')']) ++ [' ', '|', '|', ' '] ++ hint)
    rw [htext]
    simpa only [List.append_assoc, List.cons_append, List.nil_append] using this

end Location

/-! ## Condensing a line -/

namespace BuildMessage

open Text

variable {line message hint : Text} {kind : MessageKind} {m : BuildMessage}

theorem ofLine?_eq_some_iff : ofLine? line = some m ↔ ∃ message l kind hint, line = linePrefix ++ message ∧
    Location.ofMessage? message = some l ∧ hint? line = some (kind, hint) ∧ m = ⟨kind, Location.collapseCurrent l.text, hint⟩ := by
  simp only [ofLine?, Option.bind_eq_bind, Option.bind_eq_some_iff, stripStart?_eq_some_iff, Option.pure_def, Option.some.injEq,
    Prod.exists]
  constructor
  · rintro ⟨message, hline, l, hl, kind, hint, hhint, rfl⟩
    exact ⟨message, l, kind, hint, hline, hl, hhint, rfl⟩
  · rintro ⟨message, l, kind, hint, hline, hl, hhint, rfl⟩
    exact ⟨message, hline, l, hl, kind, hint, hhint, rfl⟩

/-- Keys begin with a colon, which is not in the prefix of a line: the hint is a part of the message. -/
theorem isSuffix_of_hint? (hline : line = linePrefix ++ message) (h : hint? line = some (kind, hint)) : hint <:+ message := by
  have hkeys : ∀ kind, ∀ key ∈ keys kind, key.head? = some ':' := by
    intro kind
    cases kind <;> decide
  obtain ⟨kind', hof⟩ : ∃ kind', hintOf? kind' line = some (kind, hint) := by
    rcases Option.or_eq_some_iff.1 h with h | ⟨-, h⟩
    · exact ⟨.error, h⟩
    · exact ⟨.warning, h⟩
  obtain ⟨_, key, _, hlist, hkey, -⟩ := List.findSome?_eq_some_iff.1 hof
  obtain ⟨⟨before, after⟩, hcut, heq⟩ := Option.map_eq_some_iff.1 hkey
  obtain ⟨-, rfl⟩ := Prod.mk.inj heq
  obtain ⟨key', rfl⟩ : ∃ key', key = ':' :: key' := by
    have := hkeys kind' key (by simp [hlist])
    cases key with
    | nil => cases this
    | cons c key => exact ⟨key, by rw [Option.some.inj this]⟩
  have htext := hline.symm.trans (eq_of_cut? hcut)
  rw [List.append_assoc] at htext
  rcases List.append_eq_append_iff.1 htext with ⟨x, -, hx⟩ | ⟨x, hkeep, hx⟩
  · rw [hx]
    exact ⟨x ++ ':' :: key', by simp⟩
  · cases x with
    | nil =>
      rw [List.nil_append] at hx
      rw [← hx]
      exact ⟨':' :: key', rfl⟩
    | cons c x =>
      obtain ⟨rfl, -⟩ := List.cons.inj hx
      have hcolon : ':' ∉ linePrefix := by decide
      exact absurd (by rw [hkeep]; simp) hcolon

end BuildMessage

namespace Link

open Text

variable {line start message : Text} {l : Location} {m : BuildMessage}

theorem map_target_onLine? (hmessage : message? line = some (start, message)) (hl : Location.ofMessage? message = some l)
    (tree : FileTree) (root : Path) (n : Nat) : (onLine? tree root n line).map Link.target = target? tree root l := by
  rw [onLine?_eq, hmessage]
  simp [hl, Option.map_map, Function.comp_def]

/-- The condensed line has the condensed location. -/
theorem target_of_condensed (hline : '\n' ∉ line) (hm : BuildMessage.ofLine? line = some m) :
    ∃ message l, line = BuildMessage.linePrefix ++ message ∧ Location.ofMessage? message = some l ∧
      ∀ (tree : FileTree) (root : Path) (n : Nat),
        (onLine? tree root n line).map Link.target = target? tree root l ∧
        (onLine? tree root n m.render).map Link.target = target? tree root l.collapsed := by
  obtain ⟨message, l, kind, hint, rfl, hl, hhint, rfl⟩ := BuildMessage.ofLine?_eq_some_iff.1 hm
  have hsuffix := BuildMessage.isSuffix_of_hint? rfl hhint
  have hmessage : '\n' ∉ message := fun hm => hline (List.mem_append_right _ hm)
  have hat := (Location.ofMessage?_eq_some_iff hmessage).1 hl
  have hmark : BuildMessage.mark kind ∈ linePrefixes := by cases kind <;> decide
  have hrender : BuildMessage.render ⟨kind, Location.collapseCurrent l.text, hint⟩ =
      BuildMessage.mark kind ++ (l.collapsed.text ++ [' ', '|', '|', ' '] ++ hint) := by
    simp [BuildMessage.render, Location.collapsed]
  have hrest : '\n' ∉ l.collapsed.text ++ [' ', '|', '|', ' '] ++ hint := by
    have htext : '\n' ∉ l.text := fun hm => hmessage (hat.text.2.subset hm)
    have hhint : '\n' ∉ hint := fun hm => hmessage (hsuffix.subset hm)
    have hcollapsed : '\n' ∉ l.collapsed.text := fun hm => htext (Location.mem_of_mem_collapseCurrent hm)
    simp [hcollapsed, hhint]
  refine ⟨message, l, rfl, hl, ?_⟩
  intro tree root n
  constructor
  · exact map_target_onLine? (message?_eq_some_iff.2 ⟨by decide, rfl⟩) hl tree root n
  · rw [hrender]
    exact map_target_onLine? (message?_eq_some_iff.2 ⟨hmark, rfl⟩)
      ((Location.ofMessage?_eq_some_iff hrest).2 (hat.collapsed hsuffix)) tree root n

theorem target?_eq_none {tree : FileTree} {root : Path} (h : (l.file root).isAbsolute ≠ true) : target? tree root l = none := by
  rw [Option.eq_none_iff_forall_not_mem]
  intro u hu
  exact h (isSome_target?_iff.1 (by rw [Option.mem_def.1 hu]; rfl)).2

/-- **A condensed line links to the place of its location,** and so to the place that the line links to when
the path leads there also after it is collapsed. It does when it is settled, and it has to for both to link
to one place. -/
theorem map_target_render (hline : '\n' ∉ line) (hm : BuildMessage.ofLine? line = some m) :
    ∃ message l, line = BuildMessage.linePrefix ++ message ∧ Location.ofMessage? message = some l ∧
      ∀ (tree : FileTree) (root : Path) (n k : Nat),
        (onLine? tree root n line).map Link.target = target? tree root l ∧
        (onLine? tree root k m.render).map Link.target = target? tree root l.collapsed ∧
        (l.collapsed.file root = l.file root ∨ Location.Settled (Location.collapseCurrent l.path.trim) →
          (onLine? tree root k m.render).map Link.target = (onLine? tree root n line).map Link.target) ∧
        ∀ u, (onLine? tree root n line).map Link.target = some u → (onLine? tree root k m.render).map Link.target = some u →
          FileName.bytes (l.collapsed.file root).units = FileName.bytes (l.file root).units := by
  obtain ⟨message, l, hmessage, hl, htargets⟩ := target_of_condensed hline hm
  refine ⟨message, l, hmessage, hl, ?_⟩
  intro tree root n k
  have hcollapsed : l.collapsed.file root = Location.locate (Location.collapseCurrent (Location.collapseCurrent l.path.trim)) root :=
    Location.resolve_collapseCurrent l.path root
  have hsame : l.collapsed.file root = l.file root → target? tree root l.collapsed = target? tree root l := by
    intro h
    rw [target?, target?, h]
    rfl
  rw [(htargets tree root n).1, (htargets tree root k).2]
  refine ⟨rfl, rfl, ?_, ?_⟩
  · rintro (h | h)
    · exact hsame h
    · rcases Location.locate_of_settled h root with h | ⟨h, h'⟩
      · exact hsame (hcollapsed.trans h)
      · rw [target?_eq_none (by rwa [hcollapsed]), target?_eq_none h']
  · intro u hu hu'
    rw [← (pointsTo_of_target? hu').path, (pointsTo_of_target? hu).path]

/-! ## Two sources of one name -/

/-- The directory `/w` with a source in it, and another one in `/w/lib`. -/
def twoSources : FileTree where
  root := .dir [(Text.toUnits "w", .dir [(Text.toUnits "a.c", .file (some [])),
    (Text.toUnits "lib", .dir [(Text.toUnits "a.c", .file (some []))])])]

/-- The hint of the error looks like a location. -/
def libLine : Text := "[build] ../.././lib/a.c(3): fatal error: b(4)"

def libMessage : BuildMessage := ⟨.error, "../../lib/a.c(3)", "b(4)"⟩

theorem map_target_render_lib : '\n' ∉ libLine ∧ BuildMessage.ofLine? libLine = some libMessage ∧
    (onLine? twoSources (.ofText "/w") 0 libMessage.render).map Link.target =
      (onLine? twoSources (.ofText "/w") 0 libLine).map Link.target ∧
    (onLine? twoSources (.ofText "/w") 0 libLine).isSome := by
  have hline : '\n' ∉ libLine := by decide
  have hm : BuildMessage.ofLine? libLine = some libMessage := by decide +kernel
  obtain ⟨message, l, hmessage, hl, htargets⟩ := map_target_render hline hm
  obtain rfl : message = "../.././lib/a.c(3): fatal error: b(4)" := List.append_cancel_left (hmessage.symm.trans (by decide))
  have hlocation : Location.ofMessage? "../.././lib/a.c(3): fatal error: b(4)" =
      some ⟨"../.././lib/a.c(3)", "../.././lib/a.c", 3, 1⟩ := by decide +kernel
  obtain rfl := Option.some.inj (hl.symm.trans hlocation)
  refine ⟨hline, hm, (htargets twoSources (.ofText "/w") 0 0).2.2.1 (Or.inr (.plain ?_)), ?_⟩
  · decide +kernel
  · decide +kernel

/-- A path with a second `.` in it leads to another file after it is collapsed. -/
theorem not_map_target_render_again : ¬ ∀ (tree : FileTree) (root : Path) (line : Text) (m : BuildMessage) (n k : Nat),
    '\n' ∉ line → BuildMessage.ofLine? line = some m →
      (onLine? tree root k m.render).map Link.target = (onLine? tree root n line).map Link.target := by
  intro h
  have hm : BuildMessage.ofLine? "[build] ../.././lib/./a.c:1:2: error: x" = some ⟨.error, "../../lib/./a.c:1:2", "x"⟩ := by
    decide +kernel
  have := h twoSources (.ofText "/w") _ _ 0 0 (by decide) hm
  revert this
  decide +kernel

end Link
end Classwright
