import Mathlib.Data.List.Chain
import Classwright.Proofs.BuildLog.Condensed
import Classwright.Proofs.BuildLog.Printed
/-!
# The verdict of a compiler

A line that reports an error or a warning at a place of a file is condensed to a message with this place
(`ofLine?_text`). Keys are looked for in a fixed order and all over the line. The path holds none of them,
so kind and hint are those of the report unless a key that comes earlier in this order is in the words
behind its verdict; the hint then begins behind that key.
-/
namespace Classwright

namespace Text

variable {a b m : Text} {c d e : Char}

/-! ## Markers in which a character has another one behind it -/

/-- Behind each `c` of the marker stands an `e`. -/
def Tied (c e : Char) (m : Text) : Prop := m.IsChain (fun x y => x = c → y = e) ∧ m.getLast? ≠ some c

instance : Decidable (Tied c e m) := inferInstanceAs (Decidable (_ ∧ _))

/-- Such a marker does not reach over a `c` with another character behind it. -/
theorem isPrefix_append_pair_iff (hm : Tied c e m) (hd : d ≠ e) : m <+: a ++ c :: d :: b ↔ m <+: a := by
  refine ⟨fun hp => ?_, fun hp => hp.trans (List.prefix_append ..)⟩
  rcases List.prefix_or_prefix_of_prefix hp (List.prefix_append a (c :: d :: b)) with h | ⟨r, rfl⟩
  · exact h
  · rw [List.prefix_append_right_inj] at hp
    rcases List.prefix_cons_iff.1 hp with rfl | ⟨r, rfl, hr⟩
    · rw [List.append_nil]
    · rcases List.prefix_cons_iff.1 hr with rfl | ⟨r, rfl, -⟩
      · exact absurd (by simp) hm.2
      · exact absurd ((List.isChain_append_cons_cons.1 hm.1).2.1 rfl) hd

/-- A search goes on behind such a character. -/
theorem cut?_append_pair (hm : Tied c e m) (hd : d ≠ e) (ha : ¬ m <:+: a) (b : Text) :
    (a ++ c :: d :: b).cut? m = (cut? (d :: b) m).map fun (before, after) => (a ++ c :: before, after) := by
  induction a with
  | nil =>
    have hp : ¬ m <+: c :: d :: b := by
      have := isPrefix_append_pair_iff (a := []) (b := b) hm hd
      rw [List.nil_append] at this
      rw [this, List.prefix_nil]
      simpa using ha
    rw [List.nil_append, cut?, stripStart?_eq_none_iff.2 hp]
    rfl
  | cons x a ih =>
    rw [List.infix_cons_iff, not_or] at ha
    have hp : ¬ m <+: x :: (a ++ c :: d :: b) := by
      rw [← List.cons_append, isPrefix_append_pair_iff hm hd]
      exact ha.1
    rw [List.cons_append, cut?, stripStart?_eq_none_iff.2 hp]
    simp only [ih ha.2, Option.map_map]
    rfl

/-- A search passes over characters that are not the first one of the marker. -/
theorem cut?_append_of_head (hc : c ∉ a) (m b : Text) :
    (a ++ b).cut? (c :: m) = (b.cut? (c :: m)).map fun (before, after) => (a ++ before, after) := by
  induction a with
  | nil => cases h : b.cut? (c :: m) <;> simp [h]
  | cons x a ih =>
    simp only [List.mem_cons, not_or] at hc
    rw [List.cons_append, cut?, stripStart?, if_neg hc.1]
    simp only [ih hc.2, Option.map_map]
    rfl

end Text

namespace BuildMessage

open Text

/-! ## The order of the keys -/

def ofKind (kind : MessageKind) (keys : List Text) : List (MessageKind × Text) := keys.map (kind, ·)

/-- The keys with their kinds, in the order in which they are looked for. -/
def keysInOrder : List (MessageKind × Text) := ofKind .error (keys .error) ++ ofKind .warning (keys .warning)

def behind? (t : Text) (key : MessageKind × Text) : Option (MessageKind × Text) :=
  (t.cut? key.2).map fun (_, hint) => (key.1, hint)

theorem hint?_eq (line : Text) : hint? line = keysInOrder.findSome? (behind? line) := by
  simp only [hint?, hintOf?, keysInOrder, ofKind, List.findSome?_append, List.findSome?_map, Function.comp_def, behind?]

def word : MessageKind → Text
  | .error => "error"
  | .warning => "warning"

/-- The key with which a compiler gives its verdict. -/
def verdict (kind : MessageKind) : Text := ':' :: ' ' :: word kind ++ [':', ' ']

/-- The keys that are looked for before the one of the verdict. -/
def earlierKeys : MessageKind → List (MessageKind × Text)
  | .error => ofKind .error [": error ", ": fatal error: "]
  | .warning => ofKind .error (keys .error) ++ ofKind .warning [": 警告：", ": warning "]

theorem keysInOrder_eq (kind : MessageKind) : ∃ later, keysInOrder = earlierKeys kind ++ (kind, verdict kind) :: later := by
  cases kind
  · exact ⟨ofKind .error [": 致命错误：", ": 错误："] ++ ofKind .warning (keys .warning), by decide⟩
  · exact ⟨[], by decide⟩

/-- Each colon of a key has a blank behind it, the one that it begins with among them. -/
theorem key_shape : ∀ key ∈ keysInOrder, Tied ':' ' ' key.2 ∧ key.2.head? = some ':' ∧ 2 < key.2.length := by decide

theorem exists_key_eq {key : MessageKind × Text} (h : key ∈ keysInOrder) : ∃ more, key.2 = ':' :: more := by
  obtain ⟨-, hhead, -⟩ := key_shape key h
  cases hkey : key.2 with
  | nil => simp [hkey] at hhead
  | cons c more => exact ⟨more, by simpa [hkey] using hhead⟩

/-! ## Reports -/

/-- What a compiler reports about a place in a file. -/
structure Report where
  kind : MessageKind
  path : Text
  line : Nat
  column : Nat
  hint : Text

namespace Report

/-- The place as it is written. -/
def place (r : Report) : Text := r.path ++ ':' :: natText r.line ++ ':' :: natText r.column

def text (r : Report) : Text := linePrefix ++ r.place ++ verdict r.kind ++ r.hint

/-- The path has no mark of a place and no key in it, and the numbers are lines and columns. -/
structure Valid (r : Report) : Prop where
  noBreak : '\n' ∉ r.path
  noPlace : ∀ d, isDecimalDigit d = true → ¬ [':', d] <:+: r.path
  noKey : ∀ kind, ∀ key ∈ keys kind, ¬ key <:+: r.path
  line : r.line < twoTo 32
  column : r.column < twoTo 32

variable {r : Report}

theorem text_eq (r : Report) : r.text = linePrefix ++ r.path ++ ':' :: (natText r.line ++ ':' :: (natText r.column ++
    (verdict r.kind ++ r.hint))) := by
  simp [text, place]

end Report

/-! ## Looking for a key in a report -/

variable {t a b : Text} {key : MessageKind × Text} {r : Report}

theorem behind?_eq_none_iff : behind? t key = none ↔ ¬ key.2 <:+: t := by rw [behind?, Option.map_eq_none_iff, cut?_eq_none_iff]

theorem behind?_append (h : ':' ∉ a) (hkey : key ∈ keysInOrder) (b : Text) : behind? (a ++ b) key = behind? b key := by
  obtain ⟨more, hmore⟩ := exists_key_eq hkey
  rw [behind?, hmore, cut?_append_of_head h, Option.map_map, behind?, hmore]
  rfl

/-- The number of a place ends the search in what is in front of it. -/
theorem behind?_append_number (ha : ¬ key.2 <:+: a) (hkey : key ∈ keysInOrder) (n : Nat) (b : Text) :
    behind? (a ++ ':' :: (natText n ++ b)) key = behind? b key := by
  obtain ⟨d, digits, hn, hd, -, -, -⟩ := natText_eq n
  have hblank : digitChar d ≠ ' ' := fun h => by
    have := isDigit_digitChar d hd
    rw [h] at this
    cases this
  have hcolon : ':' ∉ natText n := fun h => by cases isDigit_of_mem_natText h
  have hskip := behind?_append hcolon hkey b
  rw [hn] at hskip ⊢
  rw [List.cons_append] at hskip ⊢
  rw [← hskip, behind?, cut?_append_pair (key_shape key hkey).1 hblank ha, Option.map_map, behind?]
  rfl

/-- The path has no key, so a key is behind the place or nowhere. -/
theorem behind?_text (h : r.Valid) (hkey : key ∈ keysInOrder) : behind? r.text key = behind? (verdict r.kind ++ r.hint) key := by
  have hpath : ¬ key.2 <:+: r.path := by
    rcases List.mem_append.1 hkey with hm | hm
    · obtain ⟨text, htext, rfl⟩ := List.mem_map.1 hm
      exact h.noKey .error text htext
    · obtain ⟨text, htext, rfl⟩ := List.mem_map.1 hm
      exact h.noKey .warning text htext
  have hfront : ¬ key.2 <:+: linePrefix ++ r.path := by
    rw [← behind?_eq_none_iff, behind?_append (by decide) hkey, behind?_eq_none_iff]
    exact hpath
  have hnil : ¬ key.2 <:+: [] := by
    obtain ⟨more, hmore⟩ := exists_key_eq hkey
    simp [hmore]
  rw [Report.text_eq, behind?_append_number hfront hkey]
  exact behind?_append_number (a := []) hnil hkey _ _

/-- A key that is looked for earlier does not begin where the verdict does. -/
theorem behind?_verdict {kind : MessageKind} (hkey : key ∈ earlierKeys kind) (hint : Text) :
    behind? (verdict kind ++ hint) key = behind? (':' :: ' ' :: hint) key := by
  have hdiffer : ∀ kind, ∀ key ∈ earlierKeys kind, ¬ key.2 <+: verdict kind ∧ ¬ verdict kind <+: key.2 := by
    intro kind
    cases kind <;> decide
  have hprefix : stripStart? (verdict kind ++ hint) key.2 = none := by
    rw [stripStart?_eq_none_iff]
    intro hp
    rcases List.prefix_or_prefix_of_prefix hp (List.prefix_append (verdict kind) hint) with h | h
    · exact (hdiffer kind key hkey).1 h
    · exact (hdiffer kind key hkey).2 h
  have hmem : key ∈ keysInOrder := by
    obtain ⟨later, heq⟩ := keysInOrder_eq kind
    rw [heq]
    exact List.mem_append_left _ hkey
  have hword : ':' ∉ ' ' :: word kind := by cases kind <;> decide
  have hskip := behind?_append hword hmem (':' :: ' ' :: hint)
  rw [← hskip, behind?, behind?]
  have hcons : verdict kind ++ hint = ':' :: (' ' :: word kind ++ ':' :: ' ' :: hint) := by simp [verdict]
  rw [hcons] at hprefix ⊢
  rw [cut?, hprefix, Option.map_map]
  rfl

theorem findSome?_ofKind_eq_none_iff (kind : MessageKind) {texts : List Text} :
    (ofKind kind texts).findSome? (behind? t) = none ↔ ∀ text ∈ texts, ¬ text <:+: t := by
  simp only [List.findSome?_eq_none_iff, behind?_eq_none_iff, ofKind, List.forall_mem_map]

theorem kind_of_findSome?_ofKind {kind : MessageKind} {texts : List Text} {found : MessageKind × Text}
    (h : (ofKind kind texts).findSome? (behind? t) = some found) : found.1 = kind := by
  obtain ⟨key, hkey, hbehind⟩ := List.exists_of_findSome?_eq_some h
  obtain ⟨text, -, rfl⟩ := List.mem_map.1 hkey
  obtain ⟨cut, -, rfl⟩ := Option.map_eq_some_iff.1 hbehind
  rfl

/-- Keys of an error come before all keys of a warning, so only they change a kind. -/
theorem kind_eq_iff (kind : MessageKind) (hint t : Text) :
    (((earlierKeys kind).findSome? (behind? t)).getD (kind, hint)).1 = kind ↔
      kind = .error ∨ ∀ key ∈ keys .error, ¬ key <:+: t := by
  cases kind with
  | error =>
    simp only [true_or, iff_true]
    cases hfound : (earlierKeys .error).findSome? (behind? t) with
    | none => rfl
    | some found => exact kind_of_findSome?_ofKind hfound
  | warning =>
    simp only [reduceCtorEq, false_or, earlierKeys, List.findSome?_append, ← findSome?_ofKind_eq_none_iff .error]
    cases herror : (ofKind .error (keys .error)).findSome? (behind? t) with
    | some found => simp [kind_of_findSome?_ofKind herror]
    | none =>
      simp only [Option.none_or, iff_true]
      cases hwarning : (ofKind .warning _).findSome? (behind? t) with
      | none => rfl
      | some found => exact kind_of_findSome?_ofKind hwarning

/-- The text behind a key is shorter than the words that the key is in. -/
theorem ne_of_behind? {kind : MessageKind} {hint rest : Text} (hkey : key ∈ keysInOrder)
    (h : behind? (':' :: ' ' :: hint) key = some (kind, rest)) : rest ≠ hint := by
  obtain ⟨⟨before, after⟩, hcut, heq⟩ := Option.map_eq_some_iff.1 h
  obtain ⟨-, rfl⟩ := Prod.mk.inj heq
  have hlength := congrArg List.length (eq_of_cut? hcut)
  have hlong := (key_shape key hkey).2.2
  simp only [List.length_cons, List.length_append] at hlength
  rintro rfl
  omega

/-- **Kind and hint of a report** are its own, unless a key that is looked for earlier is in its words. -/
theorem hint?_text (h : r.Valid) : hint? r.text =
    some (((earlierKeys r.kind).findSome? (behind? (':' :: ' ' :: r.hint))).getD (r.kind, r.hint)) := by
  obtain ⟨later, horder⟩ := keysInOrder_eq r.kind
  have hearlier : (earlierKeys r.kind).findSome? (behind? r.text) =
      (earlierKeys r.kind).findSome? (behind? (':' :: ' ' :: r.hint)) := by
    rw [← List.head?_filterMap, ← List.head?_filterMap]
    congr 1
    refine List.filterMap_congr fun key hkey => ?_
    rw [behind?_text h (by rw [horder]; exact List.mem_append_left _ hkey), behind?_verdict hkey]
  have hown : behind? r.text (r.kind, verdict r.kind) = some (r.kind, r.hint) := by
    rw [behind?_text h (by rw [horder]; simp), behind?, cut?_of_prefix]
    rfl
  rw [hint?_eq, horder, List.findSome?_append, hearlier, List.findSome?_cons, hown]
  cases (earlierKeys r.kind).findSome? (behind? (':' :: ' ' :: r.hint)) <;> rfl

/-! ## The place of a report -/

theorem ofMessage?_place (h : r.Valid) (rest : Text) (hrest : Location.EndsDigits rest) :
    Location.ofMessage? (r.place ++ rest) = some ⟨r.place, r.path, r.line, r.column⟩ :=
  Location.ofMessage?_colonText h.noBreak (fun ⟨d, hd, hi⟩ => h.noPlace d hd hi) h.line h.column hrest

/-- **The message of a report** is there and has its place. Kind and hint are those of the first key, in the
order of the keys in front of its own one, that is in the words behind the verdict, and else its own. So an
error stays an error, a warning stays one unless its words have a key of an error, and the hint is the whole
of the words unless they have an earlier key. -/
theorem ofLine?_text (h : r.Valid) : ∃ m, ofLine? r.text = some m ∧ m.file = Location.collapseCurrent r.place ∧
    (m.kind, m.hint) = ((earlierKeys r.kind).findSome? (behind? (':' :: ' ' :: r.hint))).getD (r.kind, r.hint) ∧
    (m.kind = r.kind ↔ r.kind = .error ∨ ∀ key ∈ keys .error, ¬ key <:+: ':' :: ' ' :: r.hint) ∧
    (m.hint = r.hint ↔ ∀ key ∈ earlierKeys r.kind, ¬ key.2 <:+: ':' :: ' ' :: r.hint) := by
  obtain ⟨later, horder⟩ := keysInOrder_eq r.kind
  have hplace : Location.ofMessage? (r.place ++ (verdict r.kind ++ r.hint)) = some ⟨r.place, r.path, r.line, r.column⟩ :=
    ofMessage?_place h _ (Location.endsDigits_cons.2 (by decide))
  have hline : r.text = linePrefix ++ (r.place ++ (verdict r.kind ++ r.hint)) := by simp [Report.text]
  refine ⟨⟨_, _, _⟩, ofLine?_eq_some_iff.2 ⟨_, _, _, _, hline, hplace, hint?_text h, rfl⟩, rfl, rfl, ?_, ?_⟩
  · exact kind_eq_iff r.kind r.hint _
  · cases hfound : (earlierKeys r.kind).findSome? (behind? (':' :: ' ' :: r.hint)) with
    | none =>
      simp only [List.findSome?_eq_none_iff, behind?_eq_none_iff] at hfound
      simpa using hfound
    | some found =>
      obtain ⟨_, key, _, hkeys, hbehind, -⟩ := List.findSome?_eq_some_iff.1 hfound
      have hkey : key ∈ earlierKeys r.kind := by simp [hkeys]
      refine ⟨fun hsame => ?_, fun hnone => ?_⟩
      · exact absurd hsame (ne_of_behind? (by rw [horder]; exact List.mem_append_left _ hkey) hbehind)
      · rw [behind?_eq_none_iff.2 (hnone key hkey)] at hbehind
        cases hbehind

/-- A warning whose words speak of an error. -/
def unusedReport : Report := ⟨.warning, "../lib/./a.c", 3, 9, "unused 'error': x"⟩

theorem valid_of_notMem (hbreak : '\n' ∉ r.path) (hcolon : ':' ∉ r.path) (hline : r.line < twoTo 32)
    (hcolumn : r.column < twoTo 32) : r.Valid where
  noBreak := hbreak
  noPlace _ _ hi := hcolon (hi.subset (by simp))
  noKey kind key hkey hi := by
    have hhead : ∀ kind, ∀ key ∈ keys kind, ':' ∈ key := by
      intro kind
      cases kind <;> decide
    exact hcolon (hi.subset (hhead kind key hkey))
  line := hline
  column := hcolumn

theorem ofLine?_text_unused : unusedReport.Valid ∧
    ofLine? unusedReport.text = some ⟨.warning, "../lib/a.c:3:9", "unused 'error': x"⟩ := by
  have hvalid : unusedReport.Valid := valid_of_notMem (by decide) (by decide) (by decide) (by decide)
  refine ⟨hvalid, ?_⟩
  obtain ⟨⟨kind, file, hint⟩, hm, rfl, hown, -, -⟩ := ofLine?_text hvalid
  have hnone : (earlierKeys unusedReport.kind).findSome? (behind? (':' :: ' ' :: unusedReport.hint)) = none := by decide +kernel
  have hfile : Location.collapseCurrent unusedReport.place = "../lib/a.c:3:9" := by decide +kernel
  rw [hnone] at hown
  obtain ⟨rfl, rfl⟩ := Prod.mk.inj hown
  rw [hm, hfile]
  rfl

/-- The words of a warning can make it an error and cut its hint. -/
theorem not_ofLine?_text_quoted : ¬ ∀ r : Report, r.Valid → '\n' ∉ r.hint →
    ofLine? r.text = some ⟨r.kind, Location.collapseCurrent r.place, r.hint⟩ := by
  intro h
  have hvalid : Report.Valid ⟨.warning, "a.c", 1, 2, "x: error: y"⟩ :=
    valid_of_notMem (by decide) (by decide) (by decide) (by decide)
  have := h _ hvalid (by decide)
  revert this
  decide +kernel

end BuildMessage
end Classwright
