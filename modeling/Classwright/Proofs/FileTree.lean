import Mathlib.Tactic.Common
import Classwright.FileTree
/-!
# Writing a file

A file that was written holds its text (`read_write`), and nothing else changes: every other file is
where it was and as it was (`resolve_write`), and paths lead where they led (`resolve_of_write`).
-/
namespace Classwright

namespace FileNode

variable {node new : FileNode} {name : FileName} {names : List FileName}

/-- The content of the file at some names. A directory has none. -/
def fileAt? (node : FileNode) (names : List FileName) : Option (Option Text) :=
  match node.descend names with
  | some (.file t) => some t
  | _ => none

theorem descend_cons (node : FileNode) (name : FileName) (rest : List FileName) :
    node.descend (name :: rest) = (node.child? name).bind (·.descend rest) := by
  rw [descend]
  cases node.child? name <;> rfl

theorem descend_append (node : FileNode) (names more : List FileName) :
    node.descend (names ++ more) = (node.descend names).bind (·.descend more) := by
  induction names generalizing node with
  | nil => rfl
  | cons name rest ih =>
    rw [List.cons_append, descend_cons, descend_cons]
    cases node.child? name with
    | none => rfl
    | some next => exact ih next

theorem fileAt?_cons (node : FileNode) (name : FileName) (rest : List FileName) :
    node.fileAt? (name :: rest) = (node.child? name).bind (·.fileAt? rest) := by
  rw [fileAt?, descend_cons]
  cases node.child? name <;> rfl

theorem fileAt?_file_cons (t : Option Text) (name : FileName) (rest : List FileName) :
    (file t).fileAt? (name :: rest) = none := rfl

theorem lookup_cons_of_ne {other : FileName} (h : other ≠ name) (node : FileNode) (es : List (FileName × FileNode)) :
    ((name, node) :: es).lookup other = es.lookup other := by
  rw [List.lookup_cons, beq_eq_false_iff_ne.2 h]

theorem lookup_setEntry (name other : FileName) (node : FileNode) (es : List (FileName × FileNode)) :
    (setEntry name node es).lookup other = if other = name then some node else es.lookup other := by
  induction es with
  | nil =>
    rw [setEntry]
    split
    · rename_i h
      rw [h, List.lookup_cons_self]
    · rename_i h
      rw [lookup_cons_of_ne h]
  | cons e rest ih =>
    obtain ⟨n, old⟩ := e
    rw [setEntry]
    by_cases hother : other = name
    · subst hother
      rw [if_pos rfl]
      split
      · exact List.lookup_cons_self
      · rename_i hn
        split
        · exact List.lookup_cons_self
        · rw [lookup_cons_of_ne hn, ih, if_pos rfl]
    · rw [if_neg hother]
      split
      · rename_i hn
        rw [lookup_cons_of_ne hother, lookup_cons_of_ne (hn ▸ hother)]
      · split
        · rw [lookup_cons_of_ne hother]
        · rw [List.lookup_cons, List.lookup_cons, ih, if_neg hother]

theorem child?_put (node new : FileNode) (name other : FileName) (rest : List FileName) :
    (node.put new (name :: rest)).child? other =
      if other = name then some (((node.child? name).getD (.dir [])).put new rest) else node.child? other := by
  rw [put, child?, lookup_setEntry]
  cases node <;> rfl

theorem descend_put (node new : FileNode) (names : List FileName) : (node.put new names).descend names = some new := by
  induction names generalizing node with
  | nil => rfl
  | cons name rest ih => rw [descend_cons, child?_put, if_pos rfl, Option.bind_some, ih]

/-- **A new file** in a directory changes that file and no other one. -/
theorem fileAt?_put {parent : List FileName} {last : FileName} {es : List (FileName × FileNode)} {t : Option Text}
    (hparent : node.descend parent = some (.dir es)) (hlast : ∀ es', es.lookup last ≠ some (.dir es')) (names : List FileName) :
    (node.put (.file t) (parent ++ [last])).fileAt? names =
      if names = parent ++ [last] then some t else node.fileAt? names := by
  induction parent generalizing node names with
  | nil =>
    obtain rfl := Option.some.inj hparent
    cases names with
    | nil => rfl
    | cons name rest =>
      rw [List.nil_append, fileAt?_cons, child?_put, fileAt?_cons]
      by_cases hname : name = last
      · subst hname
        rw [if_pos rfl]
        cases rest with
        | nil =>
          rw [if_pos rfl]
          rfl
        | cons n rest =>
          -- below a file there is nothing, neither before nor after
          have hold : (child? name (.dir es)).bind (·.fileAt? (n :: rest)) = none := by
            cases hl : es.lookup name with
            | none => rw [child?, hl]; rfl
            | some old =>
              cases old with
              | dir es' => exact absurd hl (hlast es')
              | file t' => rw [child?, hl]; rfl
          rw [hold]
          simp [put, fileAt?_file_cons]
      · simp [hname]
  | cons p ps ih =>
    rw [descend_cons, Option.bind_eq_some_iff] at hparent
    obtain ⟨next, hnext, hparent⟩ := hparent
    cases names with
    | nil =>
      cases node with
      | file t' => cases hnext
      | dir es' => rfl
    | cons name rest =>
      rw [List.cons_append, fileAt?_cons, child?_put, fileAt?_cons]
      by_cases hname : name = p
      · subst hname
        rw [if_pos rfl, hnext, Option.getD_some, Option.bind_some, Option.bind_some, ih hparent]
        simp
      · simp [hname]

/-- The directories of a tree are directories of another one, with the same names in them and maybe more. -/
def Keeps (node after : FileNode) : Prop :=
  ∀ names es, node.descend names = some (.dir es) →
    ∃ es', after.descend names = some (.dir es') ∧ ∀ name, (es.lookup name).isSome → (es'.lookup name).isSome

theorem keeps_put {parent : List FileName} {last : FileName} {es : List (FileName × FileNode)} {t : Option Text}
    (hparent : node.descend parent = some (.dir es)) (hlast : ∀ es', es.lookup last ≠ some (.dir es')) :
    Keeps node (node.put (.file t) (parent ++ [last])) := by
  induction parent generalizing node with
  | nil =>
    obtain rfl := Option.some.inj hparent
    rintro (_ | ⟨name, rest⟩) ds hnames
    · obtain rfl : es = ds := by simpa [descend] using hnames
      refine ⟨_, rfl, fun name hname => ?_⟩
      rw [lookup_setEntry]
      split
      · rfl
      · exact hname
    · rw [descend_cons, Option.bind_eq_some_iff] at hnames
      obtain ⟨next, hnext, hrest⟩ := hnames
      have hname : name ≠ last := by
        rintro rfl
        cases next with
        | dir es' => exact hlast es' hnext
        | file t' => cases rest <;> cases hrest
      exact ⟨ds, by rw [List.nil_append, descend_cons, child?_put, if_neg hname, hnext]; exact hrest, fun _ h => h⟩
  | cons p ps ih =>
    rw [descend_cons, Option.bind_eq_some_iff] at hparent
    obtain ⟨child, hchild, hparent⟩ := hparent
    rintro (_ | ⟨name, rest⟩) ds hnames
    · obtain rfl := Option.some.inj hnames
      refine ⟨_, rfl, fun name hname => ?_⟩
      rw [lookup_setEntry]
      split
      · rfl
      · exact hname
    · rw [descend_cons, Option.bind_eq_some_iff] at hnames
      obtain ⟨next, hnext, hrest⟩ := hnames
      rw [List.cons_append, descend_cons, child?_put]
      by_cases hname : name = p
      · subst hname
        obtain rfl := Option.some.inj (hchild.symm.trans hnext)
        rw [if_pos rfl, hchild, Option.getD_some, Option.bind_some]
        exact ih hparent rest ds hrest
      · exact ⟨ds, by rw [if_neg hname, hnext]; exact hrest, fun _ h => h⟩

end FileNode

namespace FileTree

open FileNode

variable {tree after : FileTree} {p q : Path} {t : Text} {here names : List FileName}

/-! ## Walking -/

theorem walk_append (tree : FileTree) (here xs ys : List FileName) :
    tree.walk here (xs ++ ys) = (tree.walk here xs).bind (tree.walk · ys) := by
  induction xs generalizing here with
  | nil => rfl
  | cons x xs ih =>
    rw [List.cons_append, walk, walk]
    cases tree.root.descend here.reverse with
    | none => rfl
    | some node =>
      cases node with
      | file _ => rfl
      | dir es =>
        simp only
        by_cases hstay : x = [] ∨ x = Path.dot
        · rw [if_pos hstay, if_pos hstay, ih]
        · rw [if_neg hstay, if_neg hstay]
          by_cases hup : x = Path.dotDot
          · rw [if_pos hup, if_pos hup, ih]
          · rw [if_neg hup, if_neg hup]
            split
            · rfl
            · cases es.lookup x with
              | none => rfl
              | some _ => exact ih (x :: here)

/-- A walk leads to the same place where all directories are kept. -/
theorem walk_of_keeps (h : Keeps tree.root after.root) {pieces : List FileName}
    (hwalk : tree.walk here pieces = .ok names) : after.walk here pieces = .ok names := by
  induction pieces generalizing here with
  | nil => exact hwalk
  | cons x xs ih =>
    rw [walk] at hwalk ⊢
    cases hnode : tree.root.descend here.reverse with
    | none => rw [hnode] at hwalk; cases hwalk
    | some node =>
      cases node with
      | file _ => rw [hnode] at hwalk; cases hwalk
      | dir es =>
        obtain ⟨es', hafter, hes⟩ := h _ es hnode
        rw [hnode] at hwalk
        rw [hafter]
        simp only at hwalk ⊢
        split at hwalk
        · rename_i hstay
          rw [if_pos hstay]
          exact ih hwalk
        · rename_i hstay
          rw [if_neg hstay]
          split at hwalk
          · rename_i hup
            rw [if_pos hup]
            exact ih hwalk
          · rename_i hup
            rw [if_neg hup]
            split at hwalk
            · cases hwalk
            · rename_i hlong
              rw [if_neg hlong]
              cases hx : es.lookup x with
              | none => rw [hx] at hwalk; cases hwalk
              | some _ =>
                obtain ⟨_, hx'⟩ := Option.isSome_iff_exists.1 (hes x (by rw [hx]; rfl))
                rw [hx] at hwalk
                rw [hx']
                exact ih hwalk

/-! ## Where a file is written -/

/-- A file can be written at a path: the names of its directory, the name of the file in it, and what
is in the directory. -/
structure Target (tree : FileTree) (p : Path) (parent : List FileName) (last : FileName)
    (es : List (FileName × FileNode)) : Prop where
  valid : checkPath p = .ok ()
  walk : ∃ before, p.pieces = before ++ [last] ∧ tree.walk (tree.start p) before = .ok parent.reverse
  directory : tree.root.descend parent = some (.dir es)
  isName : last ≠ [] ∧ last ≠ Path.dot ∧ last ≠ Path.dotDot ∧ (FileName.bytes last).length ≤ maxName
  notDirectory : ∀ es', es.lookup last ≠ some (.dir es')

theorem reverse_eq_cons {pieces before : List FileName} {last : FileName}
    (h : (pieces.reverse.dropWhile fun piece => decide (piece = [])) = last :: before) (hend : pieces.getLast? ≠ some []) :
    pieces = before.reverse ++ [last] ∧ last ≠ [] := by
  obtain ⟨front, x, rfl⟩ : ∃ front x, pieces = front ++ [x] := by
    rcases List.eq_nil_or_concat pieces with rfl | ⟨front, x, rfl⟩
    · cases h
    · exact ⟨front, x, List.concat_eq_append⟩
  have hx : x ≠ [] := by simpa using hend
  rw [List.reverse_append, List.reverse_singleton, List.singleton_append, List.dropWhile_cons_of_neg (by simpa using hx)] at h
  obtain ⟨rfl, rfl⟩ := List.cons.inj h
  exact ⟨by rw [List.reverse_reverse], hx⟩

/-- The tree with a file in the place of what some names lead to. -/
def withFile (tree : FileTree) (names : List FileName) (t : Text) : FileTree :=
  { tree with root := tree.root.put (.file (some t)) names }

@[simp] theorem root_withFile (tree : FileTree) (names : List FileName) (t : Text) :
    (tree.withFile names t).root = tree.root.put (.file (some t)) names := rfl

/-- Paths begin where they did. -/
@[simp] theorem start_withFile (tree : FileTree) (names : List FileName) (t : Text) (p : Path) :
    (tree.withFile names t).start p = tree.start p := rfl

theorem exists_target (h : tree.write p t = .ok after) :
    ∃ parent last es, Target tree p parent last es ∧ after = tree.withFile (parent ++ [last]) t := by
  simp only [write, bind, Except.bind] at h
  split at h
  · cases h
  rename_i hvalid
  split at h
  · cases h
  rename_i last before hpieces
  cases hwalk : tree.walk (tree.start p) before.reverse with
  | error e => rw [hwalk] at h; cases h
  | ok here =>
    rw [hwalk] at h
    simp only at h
    split at h
    · rename_i es hdirectory
      split at h
      · cases h
      rename_i hname
      split at h
      · cases h
      rename_i hlong
      obtain ⟨hdot, hdotDot, hend⟩ : last ≠ Path.dot ∧ last ≠ Path.dotDot ∧ p.pieces.getLast? ≠ some [] := by
        simpa only [not_or] using hname
      obtain ⟨hpieces, hempty⟩ := reverse_eq_cons hpieces hend
      split at h
      · cases h
      · rename_i hnotDirectory
        exact ⟨here.reverse, last, es, ⟨hvalid, ⟨before.reverse, hpieces, by simpa using hwalk⟩,
          hdirectory, ⟨hempty, hdot, hdotDot, by omega⟩, hnotDirectory⟩, by simpa [withFile] using (Except.ok.inj h).symm⟩
    · cases h
    · cases h

/-- After the file was written, its path leads to it. -/
theorem Target.resolve_put {parent : List FileName} {last : FileName} {es : List (FileName × FileNode)}
    (h : Target tree p parent last es) (t : Text) :
    (tree.withFile (parent ++ [last]) t).resolve p = .ok (parent ++ [last]) := by
  obtain ⟨before, hpieces, hwalk⟩ := h.walk
  obtain ⟨hempty, hdot, hdotDot, hlength⟩ := h.isName
  have hkeeps : Keeps tree.root (tree.root.put (.file (some t)) (parent ++ [last])) := keeps_put h.directory h.notDirectory
  obtain ⟨es', hdirectory, -⟩ := hkeeps _ _ h.directory
  have hlast : es'.lookup last = some (.file (some t)) := by
    have := descend_put tree.root (.file (some t)) (parent ++ [last])
    rw [descend_append, hdirectory, Option.bind_some, descend_cons, Option.bind_eq_some_iff] at this
    obtain ⟨node, hnode, hfile⟩ := this
    rw [← Option.some.inj hfile]
    exact hnode
  have hend : (tree.withFile (parent ++ [last]) t).walk parent.reverse [last] = .ok (last :: parent.reverse) := by
    rw [FileTree.walk, List.reverse_reverse]
    simp only [root_withFile, hdirectory]
    rw [if_neg (by simp [hempty, hdot]), if_neg hdotDot, if_neg (by omega), hlast]
    rfl
  have hpath : (tree.withFile (parent ++ [last]) t).walk (tree.start p) p.pieces = .ok (last :: parent.reverse) := by
    rw [hpieces, walk_append, walk_of_keeps hkeeps hwalk]
    exact hend
  simp only [resolve, h.valid, start_withFile, hpath, bind, Except.bind]
  simp [pure, Except.pure]

/-- **A file that was written** holds its text; the names that its path leads to are those of this file
alone. -/
theorem resolve_write (h : tree.write p t = .ok after) :
    ∃ names, after.resolve p = .ok names ∧
      ∀ names', after.root.fileAt? names' = if names' = names then some (some t) else tree.root.fileAt? names' := by
  obtain ⟨parent, last, es, htarget, rfl⟩ := exists_target h
  exact ⟨parent ++ [last], htarget.resolve_put t, fileAt?_put htarget.directory htarget.notDirectory⟩

theorem read_write (h : tree.write p t = .ok after) : after.read p = .ok t := by
  obtain ⟨parent, last, es, htarget, rfl⟩ := exists_target h
  simp only [read, node, htarget.resolve_put t, bind, Except.bind, root_withFile, descend_put, pure, Except.pure]

/-- A path that led somewhere leads there still. -/
theorem resolve_of_write (h : tree.write p t = .ok after) (hq : tree.resolve q = .ok names) : after.resolve q = .ok names := by
  obtain ⟨parent, last, es, htarget, rfl⟩ := exists_target h
  have hkeeps : Keeps tree.root (tree.root.put (.file (some t)) (parent ++ [last])) :=
    keeps_put htarget.directory htarget.notDirectory
  simp only [resolve, start_withFile, bind, Except.bind] at hq ⊢
  split at hq
  · cases hq
  · cases hwalk : tree.walk (tree.start q) q.pieces with
    | error e => rw [hwalk] at hq; cases hq
    | ok here =>
      rw [hwalk] at hq
      rw [walk_of_keeps hkeeps hwalk]
      exact hq

end FileTree
end Classwright
