import Classwright.Proofs.FileTree
import Classwright.Proofs.Path.Normal
/-!
# The last name of a path

A name that is put behind a path is its last one (`fileName?_join`), and a path that leads to a file ends
in a name (`exists_fileName?_of_node`).
-/
namespace Classwright

namespace Path

variable {p : Path} {name : FileName} {front : List FileName}

/-- A path whose last piece is a name ends in this name. -/
theorem fileName?_of_pieces (h : (Component.name name).IsStep) (hp : p.pieces = front ++ [name]) :
    p.fileName? = some name := by
  obtain ⟨hne, hdot, hdotDot, -⟩ := h
  have hback : p.backwards = name :: front.reverse := by
    rw [backwards, hp, List.reverse_append, List.reverse_singleton, List.singleton_append, skipSilent,
      if_neg (by simp [hne, hdot])]
  rw [fileName?, hback]
  simp [hdot, hdotDot]

theorem isAbsolute_of_isStep (h : (Component.name name).IsStep) : isAbsolute ⟨name⟩ = false := by
  obtain ⟨hne, -, -, hslash⟩ := h
  obtain ⟨u, rest, rfl⟩ := List.exists_cons_of_ne_nil hne
  have hu : u ≠ slash := fun hu => hslash (by simp [hu])
  simp [isAbsolute, hu]

theorem pieces_eq_splitSlashes_tail (p : Path) :
    p.pieces = if p.isAbsolute then (splitSlashes p.units).tail else splitSlashes p.units := by
  obtain ⟨units⟩ := p
  rw [pieces]
  split
  · next h =>
    cases units with
    | nil => cases h
    | cons u units =>
      obtain rfl : u = slash := by simpa [isAbsolute] using h
      simp
  · rfl

theorem exists_pieces_join (h : (Component.name name).IsStep) (dir : Path) :
    ∃ front, (dir.join ⟨name⟩).pieces = front ++ [name] := by
  obtain ⟨units⟩ := dir
  have hname : splitSlashes name = [name] := splitSlashes_of_notMem h.2.2.2
  rw [join, if_neg (by simp [isAbsolute_of_isStep h])]
  split
  · next hend =>
    rcases Bool.or_eq_true .. ▸ hend with hnil | hslash
    · -- an empty path
      obtain rfl : units = [] := by simpa using hnil
      refine ⟨[], ?_⟩
      rw [pieces, List.nil_append, if_neg (by simp [isAbsolute_of_isStep h]), hname, List.nil_append]
    · -- a slash is there already
      obtain ⟨before, rfl⟩ : ∃ before, units = before ++ [slash] := by
        simpa [List.getLast?_eq_some_iff] using hslash
      rw [pieces_eq_splitSlashes_tail, List.append_assoc, List.singleton_append, splitSlashes_append_slash, hname]
      split
      · exact ⟨(splitSlashes before).tail, List.tail_append_of_ne_nil (splitSlashes_ne_nil before)⟩
      · exact ⟨splitSlashes before, rfl⟩
  · rw [pieces_eq_splitSlashes_tail, splitSlashes_append_slash, hname]
    split
    · exact ⟨(splitSlashes units).tail, List.tail_append_of_ne_nil (splitSlashes_ne_nil units)⟩
    · exact ⟨splitSlashes units, rfl⟩

/-- **A name behind a path** is its last one. -/
theorem fileName?_join (h : (Component.name name).IsStep) (dir : Path) : (dir.join ⟨name⟩).fileName? = some name := by
  obtain ⟨front, hp⟩ := exists_pieces_join h dir
  exact fileName?_of_pieces h hp

/-- A text that does not begin with a dot is a name. -/
theorem isStep_toUnits {t : Text} {c : Char} (hslash : '/' ∉ c :: t) (hc : c ≠ '.') :
    (Component.name (Text.toUnits (c :: t))).IsStep := by
  refine ⟨by simp [Text.toUnits], fun hd => ?_, fun hd => ?_, by rwa [Text.slash_mem_toUnits_iff]⟩
  · simp [Text.toUnits, dot, hc] at hd
  · simp [Text.toUnits, dotDot, hc] at hd

theorem fileNameText?_join {t : Text} (h : (Component.name t.toUnits).IsStep) (dir : Path) :
    (dir.join (ofText t)).fileNameText? = some t := by
  have hname : (dir.join (ofText t)).fileName? = some t.toUnits := fileName?_join h dir
  rw [fileNameText?, hname]
  exact text?_toUnits t

/-- What ends in a name is in a directory. -/
theorem exists_parent?_of_fileName? (h : p.fileName? = some name) : ∃ dir, p.parent? = some dir := by
  rw [fileName?] at h
  rw [parent?]
  cases hb : p.backwards with
  | nil => rw [hb] at h; cases h
  | cons last rest => exact ⟨_, rfl⟩

end Path

namespace FileTree

open FileNode Path

variable {tree : FileTree} {p : Path} {here names : List FileName} {text : Option Text} {piece : FileName}

/-- The last step of a walk that leads to a file is a name. -/
theorem isStep_of_walk (hslash : slash ∉ piece) (hw : tree.walk here [piece] = .ok names)
    (hf : tree.root.descend names.reverse = some (.file text)) : (Component.name piece).IsStep := by
  rw [walk] at hw
  cases hd : tree.root.descend here.reverse with
  | none => rw [hd] at hw; cases hw
  | some node =>
    cases node with
    | file _ => rw [hd] at hw; cases hw
    | dir es =>
      rw [hd] at hw
      simp only at hw
      split at hw
      · -- a step that stays leads to a directory
        obtain rfl := Except.ok.inj hw
        rw [hd] at hf
        cases hf
      · next hstay =>
        split at hw
        · -- a step up leads to a directory
          obtain rfl := Except.ok.inj hw
          cases here with
          | nil => rw [List.tail_nil, hd] at hf; cases hf
          | cons name here =>
            rw [List.reverse_cons, descend_append] at hd
            rw [List.tail_cons] at hf
            rw [hf] at hd
            cases hd
        · next hup => exact ⟨fun h => hstay (Or.inl h), fun h => hstay (Or.inr h), hup, hslash⟩

/-- **A path that leads to a file** ends in a name. -/
theorem exists_fileName?_of_node (h : tree.node p = .ok (.file text)) : ∃ name, p.fileName? = some name := by
  simp only [node, resolve, bind, Except.bind] at h
  split at h
  · cases h
  next names hnames =>
  split at hnames
  · cases hnames
  cases hwalk : tree.walk (tree.start p) p.pieces with
  | error e => rw [hwalk] at hnames; cases hnames
  | ok here =>
    rw [hwalk] at hnames
    obtain rfl := Except.ok.inj hnames
    have hd : tree.root.descend here.reverse = some (.file text) := by
      cases hd : tree.root.descend here.reverse with
      | none => rw [hd] at h; cases h
      | some node =>
        rw [hd] at h
        rw [Except.ok.inj h]
    obtain ⟨front, piece, hp⟩ : ∃ front piece, p.pieces = front ++ [piece] :=
      ⟨_, _, (List.dropLast_concat_getLast (splitSlashes_ne_nil _)).symm⟩
    have hmem : piece ∈ p.pieces := by simp [hp]
    have hslash : slash ∉ piece := notMem_of_mem_splitSlashes hmem
    rw [hp, walk_append] at hwalk
    cases hfront : tree.walk (tree.start p) front with
    | error e => rw [hfront] at hwalk; cases hwalk
    | ok there =>
      rw [hfront] at hwalk
      exact ⟨piece, fileName?_of_pieces (isStep_of_walk hslash hwalk hd) hp⟩

end FileTree
end Classwright
