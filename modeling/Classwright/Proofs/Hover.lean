import Classwright.Hover
import Classwright.Proofs.Text.Lines
import Classwright.Proofs.Text.Search
import Classwright.Proofs.Text.Trim
/-!
# Reading a hover block

Code that stands in a fence at the end of a hover is read back whatever is in front of it
(`fencedCode_codeBlock`), and so is the scope that a comment on its first line names.
-/
namespace Classwright.Hover

open Text

def isLineEnd (c : Char) : Bool := c == '\n' || c == '\r'

/-- The code is what the last block of a text holds: behind the rest of the line with the opening
fence, up to the last line ends in front of the closing one. Of the fences in a text the last one
closes the block, and the last one in front of it opens the block. -/
def HoldsCode (t code : Text) : Prop :=
  ∃ before info body after, t = before ++ (fence ++ (info ++ '\n' :: body)) ++ (fence ++ after) ∧
    ¬ fence <:+: fence.tail ++ after ∧ ¬ fence <:+: fence.tail ++ (info ++ '\n' :: body) ∧
    '\n' ∉ info ∧ code = dropEndWhile isLineEnd body

/-- Code in a fence that names its language. -/
def fenced (info code : Text) : Text := fence ++ (info ++ '\n' :: (code ++ "\n")) ++ fence

def codeBlock (code : Text) : Text := fence ++ "cpp\n" ++ code ++ "\n" ++ fence

variable {h : Hover} {t before code info line scope : Text}

/-! ## Code -/

theorem isBlankChar_of_isLineEnd {c : Char} (h : isLineEnd c = true) : isBlankChar c = true := by
  rcases Bool.or_eq_true_iff.1 h with h | h <;> rw [eq_of_beq h] <;> decide

/-- **The code of a text** is what its last block holds. -/
theorem fencedCode_eq_some_iff : fencedCode t = some code ↔ HoldsCode t code := by
  have hne : fence ≠ [] := by decide
  unfold fencedCode HoldsCode
  simp only [Option.bind_eq_bind, Option.bind_eq_some_iff, Prod.exists, cutLast?_eq_some_iff hne, cut?_char_eq_some_iff,
    Option.pure_def, Option.some.injEq]
  constructor
  · rintro ⟨_, after, ⟨rfl, hclose⟩, before, _, ⟨rfl, hopen⟩, info, body, ⟨rfl, hinfo⟩, rfl⟩
    exact ⟨before, info, body, after, rfl, hclose, hopen, hinfo, rfl⟩
  · rintro ⟨before, info, body, after, rfl, hclose, hopen, hinfo, rfl⟩
    exact ⟨_, after, ⟨rfl, hclose⟩, before, _, ⟨rfl, hopen⟩, info, body, ⟨rfl, hinfo⟩, rfl⟩

/-- Code in a fence is the code of a text that ends with it, also when there are fences in front of it. -/
theorem fencedCode_fenced (hi : '\n' ∉ info) (hq : '\x60' ∉ info) (hf : ¬ fence <:+: code) (before : Text) :
    fencedCode (before ++ fenced info code) = some (dropEndWhile isLineEnd code) := by
  refine fencedCode_eq_some_iff.2 ⟨before, info, code ++ ['\n'], [], ?_, by decide, ?_, hi, ?_⟩
  · unfold fenced
    simp
  · have hn : '\n' ∉ fence := by decide
    rw [← List.append_assoc, isInfix_append_cons_iff hn, isInfix_append_cons_iff hn, not_or, not_or]
    refine ⟨?_, hf, by decide⟩
    -- the line of the opening fence has no other one
    cases info with
    | nil => decide
    | cons c info =>
      have hc : c ∉ fence := by
        intro hm
        obtain rfl : c = '\x60' := by simpa [fence] using hm
        simp at hq
      rw [isInfix_append_cons_iff hc, not_or]
      exact ⟨by decide, fun hi => hq (List.mem_cons_of_mem c (hi.subset (by decide)))⟩
  · have hend : ∀ c ∈ ['\n'], isLineEnd c = true := List.forall_mem_singleton.2 rfl
    rw [dropEndWhile_append_of_pos hend]

/-- Code without line ends at its end is read back as it is. -/
theorem fencedCode_codeBlock (hf : ¬ fence <:+: code) (he : code.TightEnd) (before : Text) :
    fencedCode (before ++ codeBlock code) = some code := by
  have hblock : codeBlock code = fenced ['c', 'p', 'p'] code := by
    rw [codeBlock, fenced, List.append_assoc (fence ++ _), List.append_assoc fence]
    rfl
  rw [hblock, fencedCode_fenced (by decide) (by decide) hf, he.dropEndWhile fun c => isBlankChar_of_isLineEnd]

/-! ## Scopes -/

/-- The scope is on a line of its own. -/
theorem scopeLine_of_firstLine {rest : Text} (hc : h.code = some (scopeMark ++ scope ++ rest))
    (hrest : rest = [] ∨ ∃ more, rest = '\n' :: more) (hn : '\n' ∉ scope) (he : scope.TightEnd) :
    h.scopeLine = some (scopeMark ++ scope) := by
  have hline : '\n' ∉ scopeMark ++ scope := by
    rw [List.mem_append, not_or]
    exact ⟨by decide, hn⟩
  have htight : TightEnd (scopeMark ++ scope) := he.append scopeMark
  have htrim : trim (scopeMark ++ scope) = scopeMark ++ scope :=
    trim_of_tight (TightStart.append ⟨'/', "/ In ", rfl, by decide⟩ scope) htight
  have hlines : ∃ more, lines (scopeMark ++ scope ++ rest) = (scopeMark ++ scope) :: more := by
    rcases hrest with rfl | ⟨more, rfl⟩
    · exact ⟨[], by rw [List.append_nil, lines_of_notMem hline htight.ne_nil]⟩
    · exact ⟨lines more, by rw [lines_append_cons hline, htight.dropReturn]⟩
  obtain ⟨more, hlines⟩ := hlines
  rw [scopeLine, hc]
  simp only [Option.bind_eq_bind, Option.bind_some]
  rw [hlines, List.map_cons, htrim]
  exact List.find?_cons_of_pos (startsWith_iff.2 (List.prefix_append ..))

theorem scopeLine_of_scope (hc : h.code = some (scopeMark ++ scope ++ '\n' :: line)) (hn : '\n' ∉ scope)
    (he : scope.TightEnd) : h.scopeLine = some (scopeMark ++ scope) :=
  scopeLine_of_firstLine hc (Or.inr ⟨line, rfl⟩) hn he

theorem scopeLine_of_line (hc : h.code = some line) (hn : '\n' ∉ line) (hne : line ≠ [])
    (hs : ¬ scopeMark <+: line.trim) : h.scopeLine = none := by
  rw [scopeLine, hc]
  simp only [Option.bind_eq_bind, Option.bind_some]
  rw [lines_of_notMem hn hne, List.map_singleton, List.find?_singleton, if_neg fun hp => hs (startsWith_iff.1 hp)]

theorem className_of_scopeLine (hs : h.scopeLine = some (scopeMark ++ scope)) (ht : scope.trim = scope)
    (hne : scope ≠ []) (hn : ¬ "namespace ".toList <+: scope) : h.className = some scope := by
  have hp : ¬ startsWith (scopeMark ++ scope) namespaceMark = true := by
    rw [startsWith_iff, show namespaceMark = scopeMark ++ "namespace ".toList from rfl, List.prefix_append_right_inj]
    exact hn
  rw [className, hs]
  simp only [Option.bind_eq_bind, Option.bind_some, if_neg hp, stripStart?_append, ht, nonEmpty?, List.isEmpty_iff,
    hne, if_false]

theorem namespaceName_of_scopeLine (hs : h.scopeLine = some (namespaceMark ++ scope)) (ht : scope.trim = scope)
    (hne : scope ≠ []) : h.namespaceName = some scope := by
  rw [namespaceName, hs]
  simp only [Option.bind_eq_bind, Option.bind_some, stripStart?_append, ht, nonEmpty?, List.isEmpty_iff, hne, if_false]

/-! ## Types -/

def typeLine (type : Text) : Text := typeMark ++ (type ++ quote)

theorem between_typeLine {type : Text} (hq : '\x60' ∉ type) (rest : Text) :
    between typeMark quote (typeLine type ++ rest) = some type := by
  have hquote : Text.cut? (type ++ quote ++ rest) quote = some (type, rest) := by
    rw [List.append_assoc]
    exact cut?_char hq rest
  rw [between, typeLine, List.append_assoc, cut?_of_prefix, Option.bind_eq_bind, Option.bind_some]
  simp only [hquote, Option.bind_some, Option.pure_def]

theorem between_eq_none (hm : ¬ typeMark <:+: line) : between typeMark quote line = none := by
  rw [between, cut?_eq_none_iff.2 hm]
  rfl

/-- A line that begins with such a text is the first one. -/
theorem exists_lines_append {a : Text} (hn : '\n' ∉ a) (ht : a.TightEnd) (rest : Text) :
    ∃ x more, lines (a ++ rest) = (a ++ x) :: more := by
  by_cases hr : '\n' ∈ rest
  · obtain ⟨x, more, rfl, hx⟩ := List.eq_append_cons_of_mem hr
    refine ⟨dropReturn x, lines more, ?_⟩
    rw [← List.append_assoc, lines_append_cons (by simp [hn, hx]), ht.dropReturn_append]
  · exact ⟨rest, [], lines_of_notMem (by simp [hn, hr]) fun h => ht.ne_nil (List.append_eq_nil_iff.1 h).1⟩

/-- **The type** is the one of the first line behind the title that gives one. -/
theorem typeField_of_typeLine {title type rest : Text} {body : List Text}
    (h : Hover) (htext : h.text = title ++ '\n' :: (wholeLines body ++ (typeLine type ++ rest)))
    (htitle : '\n' ∉ title) (hbody : ∀ l ∈ body, '\n' ∉ l ∧ ¬ typeMark <:+: l) (hn : '\n' ∉ type) (hq : '\x60' ∉ type)
    (ht : type.trim = type) (hne : type ≠ []) : h.typeField = some type := by
  have hline : '\n' ∉ typeLine type := by
    rw [typeLine, List.mem_append, List.mem_append, not_or, not_or]
    exact ⟨by decide, hn, by decide⟩
  have htight : (typeLine type).TightEnd := ⟨typeMark ++ type, '\x60', by simp [typeLine, quote], by decide⟩
  have hlines : (lines (wholeLines body ++ (typeLine type ++ rest))).findSome? (between typeMark quote) = some type := by
    clear htext
    induction body with
    | nil =>
      obtain ⟨x, more, hlines⟩ := exists_lines_append hline htight rest
      rw [wholeLines, List.flatMap_nil, List.nil_append, hlines, List.findSome?_cons, between_typeLine hq]
    | cons l body ih =>
      obtain ⟨hnl, hm⟩ := hbody l (List.mem_cons_self ..)
      have hreturn : ¬ typeMark <:+: l.dropReturn := fun hi => hm (hi.trans (dropReturn_isPrefix l).isInfix)
      rw [wholeLines_cons, List.append_assoc, List.cons_append, lines_append_cons hnl, List.findSome?_cons,
        between_eq_none hreturn]
      exact ih fun x hx => hbody x (List.mem_cons_of_mem l hx)
  rw [typeField, htext, lines_append_cons htitle, List.drop_one, List.tail_cons, hlines, Option.bind_eq_bind, Option.bind_some,
    ht, nonEmpty?, if_neg (by simpa using hne)]

end Classwright.Hover
