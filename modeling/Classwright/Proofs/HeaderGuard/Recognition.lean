import Classwright.Proofs.HeaderGuard.Guarded
import Classwright.Session.Basic
/-!
# Finding a written guard again

A guard that was written is found again when no other closing directive is taken for its own
(`Guarded.settled_iff`), which depends on the text as it was (`ClosedOnce`). Once it is found again it
stays the guard of the text, whatever macros it gets later (`Settled.renameAll?`, `settled_amend`).
-/
namespace Classwright.HeaderGuard

open Text

variable {t u g : Text} {n b : Nat} {w : Lines}

/-- The guard of the text is one of the macro: it is found, and giving it this macro changes nothing. -/
def Settled (t g : Text) : Prop := (find? t).isSome ∧ t.edited? (amend t g) = some t

/-- The directive that is taken for the closing one of a guard is one of the macro, behind line `b`. -/
def Closes (t g : Text) (b : Nat) : Prop :=
  firstLine? endifBlock? (lineTails t) = none ∧
    ∃ n name, firstLine? endifLine? (lineTails t) = some (n, name) ∧ b < n ∧ Holds t n (endifText g)

/-- Besides the closing directive of its guard, the text has no `#endif` with a block comment, and none
with a line comment in front of that directive. A text without a guard has none at all. -/
structure ClosedOnce (t : Text) : Prop where
  block : ∀ n, (∀ w, find? t = some w → n ≠ w.endif) → endifBlock? (t.fromLine n) = none
  line : ∀ n, (∀ w, find? t = some w → n < w.endif) → endifLine? (t.fromLine n) = none

/-! ## The closing directive of a guard -/

theorem Guarded.find?_eq_some (hG : Guarded t g u w) (hb : firstLine? endifBlock? (lineTails u) = none)
    (hl : firstLine? endifLine? (lineTails u) = some (n, g)) (hn : w.define < n) :
    find? u = some ⟨w.ifndef, w.define, n⟩ := by
  have hc : closing? (lineTails u) = some (n, some g) := by
    rw [closing?, hb, hl]
  exact find?_eq_some_iff.2 ⟨g, some g, hG.ifndef, hG.define, hc, by simp, hG.ordered.1.le, hn.le⟩

/-- On a line next to the closing one, nothing is read behind `#endif` that was not read before. -/
theorem Guarded.eq_none {read : Text → Option Text} (hG : Guarded t g u w) (hread : LineReader read)
    (hkey : ∀ {t a}, read t = some a → endifKey <+: t) (hn : n ≠ w.endif)
    (ht : ∀ k, (∀ w', find? t = some w' → k ≠ w'.endif ∧ (n < w.endif → k < w'.endif)) → read (t.fromLine k) = none) :
    read (u.fromLine n) = none := by
  by_cases hi : n = w.ifndef
  · rw [hi]
    have hp := prefix_of_macroAfter? ((firstLine?_lineTails rfl).1 hG.ifndef).1
    exact eq_none_of_prefix hkey hp (by decide) (by decide)
  by_cases hd : n = w.define
  · rw [hd]
    have hp := prefix_of_macroAfter? ((firstLine?_lineTails rfl).1 hG.define).1
    exact eq_none_of_prefix hkey hp (by decide) (by decide)
  obtain ⟨k, hk, hnone⟩ := hG.kept n (forall_ne_iff.2 ⟨hi, hd, hn⟩)
  exact hnone read hread (ht k hk)

theorem Holds.endifBlock?_eq_none (h : Holds t n (endifText g)) : endifBlock? (t.fromLine n) = none := by
  obtain ⟨rest, hf, -⟩ := h.fromLine
  rw [hf]
  exact endifBlock?_endifText g _

section Closing

variable (hg : g.IsIdentifier)
include hg

theorem Holds.eq_of_read {d name : Text} {read : Text → Option Text} (h : Holds t n d)
    (hd : ∀ y, read (d ++ y) = macro? (g ++ y)) (hr : read (t.fromLine n) = some name) :
    name = g ∧ (returnsAt t n).length ≤ 1 := by
  rw [h.read_eq (.of_isIdentifier hg) hd, Option.ite_none_right_eq_some, Option.some.injEq] at hr
  exact ⟨hr.2.symm, hr.1⟩

/-- When the closing directive has a line comment, it is the first such one and none has a block comment. -/
theorem closing?_of_holds {closed : Option Text} (h : closing? (lineTails t) = some (n, closed))
    (hh : Holds t n (endifText g)) :
    firstLine? endifBlock? (lineTails t) = none ∧ firstLine? endifLine? (lineTails t) = some (n, g) := by
  unfold closing? at h
  cases hb : firstLine? endifBlock? (lineTails t) with
  | some found =>
    rw [hb] at h
    cases h
    have := ((firstLine?_lineTails rfl).1 hb).1
    rw [hh.endifBlock?_eq_none] at this
    cases this
  | none =>
    rw [hb] at h
    cases hl : firstLine? endifLine? (lineTails t) with
    | some found =>
      obtain ⟨m, name⟩ := found
      rw [hl] at h
      cases h
      obtain ⟨rfl, -⟩ := hh.eq_of_read hg (endifLine?_endifText (.of_isIdentifier hg)) ((firstLine?_lineTails rfl).1 hl).1
      exact ⟨rfl, rfl⟩
    | none =>
      simp only [hl, Option.map_eq_some_iff, Prod.mk.injEq] at h
      obtain ⟨m, hm, rfl, -⟩ := h
      obtain ⟨y, hy, hp⟩ := getElem?_of_lastLine? hm
      rw [getElem?_lineTails, Option.ite_none_right_eq_some, Option.some.injEq] at hy
      obtain ⟨rest, hf, -⟩ := hh.fromLine
      rw [← hy.2, hf, isBareEndif_endifText] at hp
      cases hp

theorem settled_iff (h : find? t = some w) : Settled t g ↔ ∀ d ∈ w.directives g, Holds t d.1 d.2 := by
  rw [Settled, edited?_amend_eq_self_iff h (newline_notMem_of_isIdentifier hg), h]
  simp

theorem Settled.closing (hs : Settled t g) (h : find? t = some w) :
    firstLine? endifBlock? (lineTails t) = none ∧ firstLine? endifLine? (lineTails t) = some (w.endif, g) := by
  obtain ⟨_, _, -, -, hc, -⟩ := find?_eq_some_iff.1 h
  exact closing?_of_holds hg hc ((settled_iff hg h).1 hs _ endif_mem)

theorem Settled.tidy (hs : Settled t g) : Tidy t := by
  intro w h
  have hh := (settled_iff hg h).1 hs
  obtain ⟨_, _, ha, hb, -⟩ := find?_eq_some_iff.1 h
  obtain ⟨-, hl⟩ := hs.closing hg h
  simp only [List.forall_mem_cons, List.not_mem_nil, false_imp_iff, forall_const, and_true]
  refine ⟨?_, ?_, ?_⟩
  · exact ((hh _ ifndef_mem).eq_of_read hg (macroAfter?_ifndefText (.of_isIdentifier hg)) ((firstLine?_lineTails rfl).1 ha).1).2
  · exact ((hh _ define_mem).eq_of_read hg (macroAfter?_defineText (.of_isIdentifier hg)) ((firstLine?_lineTails rfl).1 hb).1).2
  · exact ((hh _ endif_mem).eq_of_read hg (endifLine?_endifText (.of_isIdentifier hg)) ((firstLine?_lineTails rfl).1 hl).1).2

theorem Settled.closedOnce (hs : Settled t g) : ClosedOnce t := by
  obtain ⟨w, h⟩ := Option.isSome_iff_exists.1 hs.1
  obtain ⟨hb, hl⟩ := hs.closing hg h
  exact ⟨fun n _ => (firstLine?_lineTails_eq_none rfl).1 hb n,
    fun n hn => ((firstLine?_lineTails rfl).1 hl).2 n (hn w h)⟩

/-! ## A guard that was written -/

/-- **A written guard is found again** when its macro closes it. -/
theorem Guarded.settled_iff (hG : Guarded t g u w) : Settled u g ↔ Closes u g w.define := by
  constructor
  · intro hs
    obtain ⟨w', h⟩ := Option.isSome_iff_exists.1 hs.1
    obtain ⟨hb, hl⟩ := hs.closing hg h
    obtain ⟨_, _, -, hd, -⟩ := find?_eq_some_iff.1 h
    have hdefine : w'.define = w.define := by
      have := hd.symm.trans hG.define
      simp only [Option.some.injEq, Prod.mk.injEq] at this
      exact this.1
    have hlt := (lines_of_find? h).2.1
    exact ⟨hb, w'.endif, g, hl, by omega, (HeaderGuard.settled_iff hg h).1 hs _ endif_mem⟩
  · rintro ⟨hb, n, name, hl, hn, hh⟩
    obtain ⟨rfl, -⟩ := hh.eq_of_read hg (endifLine?_endifText (.of_isIdentifier hg)) ((firstLine?_lineTails rfl).1 hl).1
    refine (HeaderGuard.settled_iff hg (hG.find?_eq_some hb hl hn)).2 fun d hd => ?_
    rcases mem_directives.1 hd with rfl | rfl | rfl
    · exact hG.holds _ ifndef_mem
    · exact hG.holds _ define_mem
    · exact hh

/-- A guard that was written into a text without another closing directive is found again where it is. -/
theorem Guarded.settled (hG : Guarded t g u w) (hc : ClosedOnce t) : find? u = some w ∧ Settled u g := by
  have hb : firstLine? endifBlock? (lineTails u) = none := by
    refine (firstLine?_lineTails_eq_none rfl).2 fun n => ?_
    by_cases hn : n = w.endif
    · rw [hn]
      exact (hG.holds _ endif_mem).endifBlock?_eq_none
    · exact hG.eq_none lineReader_endifBlock? prefix_of_endifBlock? hn
        fun k hk => hc.block k fun w' hw' => (hk w' hw').1
  have hl : firstLine? endifLine? (lineTails u) = some (w.endif, g) := by
    refine (firstLine?_lineTails rfl).2 ⟨hG.endif, fun n hlt => ?_⟩
    exact hG.eq_none lineReader_endifLine? prefix_of_endifLine? (Nat.ne_of_lt hlt)
      fun k hk => hc.line k fun w' hw' => (hk w' hw').2 hlt
  have h := hG.find?_eq_some hb hl hG.ordered.2
  exact ⟨h, (HeaderGuard.settled_iff hg h).2 hG.holds⟩

/-! ## Renaming -/

/-- A header that is renamed gets another macro: its guard keeps its lines. -/
theorem Settled.amend (hs : Settled t g) {g' : Text} (hg' : g'.IsIdentifier) :
    ∃ u, t.edited? (amend t g') = some u ∧ find? u = find? t ∧ Settled u g' := by
  obtain ⟨w, h⟩ := Option.isSome_iff_exists.1 hs.1
  obtain ⟨u, hu, hG⟩ := guarded_amend hg' h (hs.tidy hg)
  obtain ⟨hf, hs'⟩ := hG.settled hg' (hs.closedOnce hg)
  exact ⟨u, hu, hf.trans h.symm, hs'⟩

end Closing

/-- A text after its guard got macros, one after the other. -/
def renameAll? (t : Text) (names : List Text) : Option Text := names.foldlM (fun t g => t.edited? (amend t g)) t

/-- **The guard of a text** stays the one that is found, whatever macros it gets. -/
theorem Settled.renameAll? {names : List Text} (hs : Settled t g) (hg : g.IsIdentifier)
    (hn : ∀ name ∈ names, name.IsIdentifier) :
    ∃ u, renameAll? t names = some u ∧ find? u = find? t ∧ Settled u (names.getLastD g) := by
  induction names generalizing t g with
  | nil => exact ⟨t, rfl, rfl, hs⟩
  | cons name names ih =>
    obtain ⟨hname, hnames⟩ := List.forall_mem_cons.1 hn
    obtain ⟨u, hu, hf, hs'⟩ := hs.amend hg hname
    obtain ⟨v, hv, hf', hlast⟩ := ih hs' hname hnames
    refine ⟨v, ?_, hf'.trans hf, ?_⟩
    · rw [HeaderGuard.renameAll?, List.foldlM_cons, hu]
      exact hv
    · rw [List.getLastD_cons]
      exact hlast

/-- A header with a guard gets no other one. -/
theorem createdEdits?_eq_none {s : Workspace} {name : Text} {url : Url} {path : Path} (hu : Url.parse? name = some url)
    (hh : Session.header? s url = some (path, t)) (h : (find? t).isSome) : Session.createdEdits? s name = none := by
  simp [Session.createdEdits?, hu, hh, h]

/-- **A guard that was written** is the first one of the text. It is found again, and giving it the same
macro changes nothing, exactly when its macro closes it. This is so when the text had no other closing
directives, and when it is so then renaming the header keeps the guard, and no other one is created. -/
theorem settled_amend (hg : g.IsIdentifier) (ht : Tidy t) :
    ∃ u w, t.edited? (amend t g) = some u ∧
      firstLine? (macroAfter? "#ifndef") (lineTails u) = some (w.ifndef, g) ∧
      firstLine? (macroAfter? "#define") (lineTails u) = some (w.define, g) ∧
      (Settled u g ↔ Closes u g w.define) ∧
      (ClosedOnce t → find? u = some w ∧ Settled u g) ∧
      (Settled u g → ∀ names : List Text, (∀ name ∈ names, name.IsIdentifier) →
        ∃ v, renameAll? u names = some v ∧ find? v = find? u ∧ Settled v (names.getLastD g) ∧
          ∀ s name url path, Url.parse? name = some url → Session.header? s url = some (path, v) →
            Session.createdEdits? s name = none) := by
  obtain ⟨u, w, hu, hG⟩ : ∃ u w, t.edited? (amend t g) = some u ∧ Guarded t g u w := by
    cases h : find? t with
    | none => exact guarded_create hg h
    | some w =>
      obtain ⟨u, hu, hG⟩ := guarded_amend hg h ht
      exact ⟨u, w, hu, hG⟩
  refine ⟨u, w, hu, hG.ifndef, hG.define, hG.settled_iff hg, hG.settled hg, fun hs names hn => ?_⟩
  obtain ⟨v, hv, hf, hlast⟩ := hs.renameAll? hg hn
  exact ⟨v, hv, hf, hlast, fun s name url path hp hh => createdEdits?_eq_none hp hh hlast.1⟩

/-- A guard with a conditional in it and bare closing directives. -/
def conditional : Text := "#ifndef OLD_H\r\n#define OLD_H\r\n#ifdef X\r\n#endif\r\n#endif\r\n"

theorem settled_amend_conditional :
    IsIdentifier "A_H" ∧ Tidy conditional ∧ ClosedOnce conditional ∧
      ∃ u v, conditional.edited? (amend conditional "A_H") = some u ∧ Settled u "A_H" ∧
        renameAll? u ["B_H", "C_H"] = some v ∧ find? v = find? u ∧ Settled v "C_H" := by
  have hg : IsIdentifier "A_H" := ⟨by decide, by decide⟩
  have hn : ∀ name ∈ (["B_H", "C_H"] : List Text), name.IsIdentifier := by
    simp only [List.forall_mem_cons]
    exact ⟨⟨by decide, by decide⟩, ⟨by decide, by decide⟩, by simp⟩
  have ht : Tidy conditional := by
    intro w h
    have hf : find? conditional = some ⟨0, 1, 4⟩ := by decide
    obtain rfl := Option.some.inj (hf.symm.trans h)
    decide
  have hc : ClosedOnce conditional :=
    ⟨fun n _ => (firstLine?_lineTails_eq_none rfl).1 (by decide) n,
      fun n _ => (firstLine?_lineTails_eq_none rfl).1 (by decide) n⟩
  obtain ⟨u, w, hu, -, -, -, hs, hr⟩ := settled_amend hg ht
  obtain ⟨v, hv, hf, hlast, -⟩ := hr (hs hc).2 ["B_H", "C_H"] hn
  exact ⟨hg, ht, hc, u, v, hu, (hs hc).2, hv, hf, hlast⟩

/-- A text with a conditional that is closed with a comment. -/
def commented : Text := "#ifdef X\n#endif // X\n"

/-- The directive of a conditional can be taken for the closing one of a guard. -/
theorem not_settled_amend_commented :
    ¬ ∀ t g : Text, g.IsIdentifier → ∃ u, t.edited? (amend t g) = some u ∧ Settled u g := by
  intro h
  obtain ⟨u, hu, hs, -⟩ := h commented "A_H" ⟨by decide, by decide⟩
  have ha : amend commented "A_H" = create commented "A_H" := by decide
  rw [ha, edited?_create, Option.some.injEq] at hu
  subst hu
  exact absurd hs (by decide)

end Classwright.HeaderGuard
