import Mathlib
import Classwright.Proofs.CompileDatabase.Entry
import Classwright.Proofs.FileTree
import Classwright.Session.Basic
/-!
# The whole rewriting

`rewrite` is the rewriting of a database as a run of steps on the files: what was written before a fault
would stay written. It does what `strip` says (`strip_eq`), and each run ends in one of the ways of
`Fault`, with the files as they were, or with the database written (`Written`). The command and the
session go on with the files as the steps leave them (`files_stripCompileCommands`, `files_restrip`).
-/
namespace Classwright.CompileDatabase

open Json

variable {tree after : FileTree} {source target path : Path} {rules : List StripRule} {patterns : List ReadRule}
  {data text : Text} {entries : List Json} {e : StripError} {n : Nat}

/-! ## Steps on the files -/

/-- A run of steps on the files, of which one may fail. -/
abbrev OnFiles := ExceptT StripError (StateM FileTree)

def OnFiles.runOn {α : Type} (steps : OnFiles α) (tree : FileTree) : Except StripError α × FileTree := steps.run.run tree

def readFile (path : Path) : OnFiles Text := do
  match (← get).read path with
  | .ok t => return t
  | .error e => throw (.file path e)

/-- A file is written as a whole, or not at all. -/
def writeFile (path : Path) (t : Text) : OnFiles Unit := do
  match (← get).write path t with
  | .ok after => set after
  | .error e => throw (.file path e)

/-- A step that looks at no file. -/
def settle {α : Type} (result : Except StripError α) : OnFiles α := ExceptT.mk (pure result)

/-- Rewrite a database into another file: all steps, in their order. -/
def rewrite (source target : Path) (rules : List StripRule) : OnFiles Nat := do
  let data ← readFile source
  if isEmptyFile data then return 0
  let (text, changed) ← settle (stripText source rules data)
  writeFile target text
  return changed

/-- Further steps go on with the files as they are; after a fault there are none. -/
theorem runOn_bind {α β : Type} (steps : OnFiles α) (next : α → OnFiles β) (tree : FileTree) :
    (steps >>= next).runOn tree =
      match steps.runOn tree with
      | (.ok a, after) => (next a).runOn after
      | (.error e, after) => (.error e, after) := by
  simp only [OnFiles.runOn, ExceptT.run_bind, StateT.run_bind]
  rcases steps.run.run tree with ⟨_ | a, after⟩ <;> rfl

theorem runOn_readFile (path : Path) (tree : FileTree) :
    (readFile path).runOn tree = ((tree.read path).mapError (StripError.file path), tree) := by
  change (match tree.read path with | .ok t => pure t | .error e => throw (.file path e) : OnFiles Text).runOn tree = _
  cases tree.read path <;> rfl

theorem runOn_writeFile (path : Path) (t : Text) (tree : FileTree) :
    (writeFile path t).runOn tree =
      match tree.write path t with
      | .ok after => (.ok (), after)
      | .error e => (.error (.file path e), tree) := by
  change (match tree.write path t with | .ok after => set after | .error e => throw (.file path e) : OnFiles Unit).runOn tree = _
  cases tree.write path t <;> rfl

theorem runOn_settle {α : Type} (result : Except StripError α) (tree : FileTree) :
    (settle result).runOn tree = (result, tree) := rfl

theorem runOn_rewrite (tree : FileTree) (source target : Path) (rules : List StripRule) :
    (rewrite source target rules).runOn tree =
      match tree.read source with
      | .error e => (.error (.file source e), tree)
      | .ok data =>
        if isEmptyFile data then (.ok 0, tree)
        else match stripText source rules data with
          | .error e => (.error e, tree)
          | .ok (text, changed) =>
            match tree.write target text with
            | .error e => (.error (.file target e), tree)
            | .ok after => (.ok changed, after) := by
  rw [rewrite, runOn_bind, runOn_readFile]
  cases tree.read source with
  | error e => rfl
  | ok data =>
    simp only [Except.mapError]
    split
    · rfl
    · rw [runOn_bind, runOn_settle]
      cases stripText source rules data with
      | error e => rfl
      | ok stripped =>
        obtain ⟨text, changed⟩ := stripped
        simp only [runOn_bind, runOn_writeFile]
        cases tree.write target text <;> rfl

/-- **The steps do** what the rewriting gives. -/
theorem strip_eq (tree : FileTree) (source target : Path) (rules : List StripRule) :
    strip tree source target rules =
      ((rewrite source target rules).runOn tree).1.map (((rewrite source target rules).runOn tree).2, ·) := by
  rw [runOn_rewrite, strip]
  cases tree.read source with
  | error e => rfl
  | ok data =>
    simp only [Except.mapError, bind, Except.bind]
    split
    · rfl
    · cases stripText source rules data with
      | error e => rfl
      | ok stripped =>
        obtain ⟨text, changed⟩ := stripped
        simp only
        cases tree.write target text <;> rfl

/-! ## Rules -/

def Reads (rule : StripRule) (r : ReadRule) : Prop :=
  Matcher.read? rule.pattern = some r.pattern ∧ r.replacement = rule.replacement

/-- The first rule whose pattern is none. -/
def firstBad? (rules : List StripRule) : Option StripRule :=
  rules.find? fun rule => (Matcher.read? rule.pattern).isNone

theorem readRules_cons (rule : StripRule) (rules : List StripRule) :
    readRules (rule :: rules) =
      match Matcher.read? rule.pattern with
      | none => .error (.badPattern rule.pattern)
      | some p => (readRules rules).map (⟨p, rule.replacement⟩ :: ·) := by
  rw [readRules]
  cases Matcher.read? rule.pattern with
  | none => rfl
  | some p => cases readRules rules <;> rfl

theorem readRules_eq_ok : readRules rules = .ok patterns ↔ List.Forall₂ Reads rules patterns := by
  induction rules generalizing patterns with
  | nil => simp [readRules, eq_comm]
  | cons rule rules ih =>
    rw [readRules_cons, List.forall₂_cons_left_iff]
    cases hread : Matcher.read? rule.pattern with
    | none => simp [Reads, hread]
    | some p =>
      constructor
      · intro h
        cases hrest : readRules rules with
        | error e => rw [hrest] at h; cases h
        | ok rest =>
          rw [hrest] at h
          cases h
          exact ⟨_, rest, ⟨hread, rfl⟩, ih.1 hrest, rfl⟩
      · rintro ⟨⟨p', replacement⟩, rest, ⟨hp, rfl⟩, hrest, rfl⟩
        obtain rfl := Option.some.inj (hread.symm.trans hp)
        rw [ih.2 hrest]
        rfl

theorem readRules_eq_error :
    readRules rules = .error e ↔ ∃ rule, firstBad? rules = some rule ∧ e = .badPattern rule.pattern := by
  induction rules with
  | nil => simp [readRules, firstBad?]
  | cons rule rules ih =>
    rw [readRules_cons, firstBad?, List.find?_cons]
    cases Matcher.read? rule.pattern with
    | none => simp [eq_comm]
    | some p =>
      have hmap : (readRules rules).map ((⟨p, rule.replacement⟩ : ReadRule) :: ·) = .error e ↔ readRules rules = .error e := by
        cases readRules rules <;> simp [Except.map]
      exact hmap.trans ih

/-! ## The text that is written -/

def rewritten (patterns : List ReadRule) (entries : List Json) : Json :=
  .arr (entries.map (mapCommand (stripCommand patterns)))

/-- Number of entries whose command is another one after that. -/
def countChanged (patterns : List ReadRule) (entries : List Json) : Nat :=
  entries.countP fun entry => command? (mapCommand (stripCommand patterns) entry) != command? entry

theorem stripText_of_rules (h : List.Forall₂ Reads rules patterns) (path : Path) (data : Text) :
    stripText path rules data =
      match Json.read? data with
      | none => .error (.notJson path)
      | some (.arr entries) => .ok ((rewritten patterns entries).write, countChanged patterns entries)
      | some _ => .error (.notArray path) := by
  rw [stripText, readRules_eq_ok.2 h]
  simp only [bind, Except.bind]
  cases hread : Json.read? data with
  | none => rfl
  | some j =>
    cases j with
    | arr entries =>
      have hentries : ∀ entry ∈ entries, stripEntry patterns entry = mapCommand (stripCommand patterns) entry := by
        cases canonical_of_read? hread with
        | arr h => exact fun entry hentry => stripEntry_eq (h entry hentry) patterns
      have hchanged : entries.countP (isChanged patterns) = countChanged patterns entries :=
        congrArg (entries.countP ·) (funext (isChanged_eq patterns))
      simp only [pure, Except.pure, rewritten, List.map_congr_left hentries, hchanged]
    | _ => rfl

/-- The database is read from what is written, if doubles are. -/
theorem read?_rewritten (h : Json.read? data = some (.arr entries)) (hdoubles : ∀ d ∈ (Json.arr entries).doubles, d.Survives)
    (patterns : List ReadRule) : Json.read? (rewritten patterns entries).write = some (rewritten patterns entries) := by
  cases canonical_of_read? h with
  | arr hentries =>
    refine read?_write (.arr fun j hj => ?_) fun d hd => hdoubles d ?_
    · obtain ⟨entry, hentry, rfl⟩ := List.mem_map.1 hj
      exact canonical_mapCommand (hentries entry hentry) _
    · rw [rewritten, doubles, mem_doublesOfItems] at hd
      obtain ⟨j, hj, hd⟩ := hd
      obtain ⟨entry, hentry, rfl⟩ := List.mem_map.1 hj
      rw [doubles, mem_doublesOfItems]
      exact ⟨entry, hentry, doubles_mapCommand _ entry ▸ hd⟩

/-! ## How a run ends -/

theorem isEmptyFile_iff : isEmptyFile data = true ↔ data = [] ∨ data = ['\n'] := by
  simp [isEmptyFile]

/-- There is something in the file. -/
structure Holds (tree : FileTree) (source : Path) (data : Text) : Prop where
  read : tree.read source = .ok data
  notEmpty : ¬ (data = [] ∨ data = ['\n'])

/-- What can be wrong. The first fault that there is in this order ends the run. -/
inductive Fault (tree : FileTree) (source target : Path) (rules : List StripRule) : StripError → Prop
  | unreadable {e : FileError} (read : tree.read source = .error e) : Fault tree source target rules (.file source e)
  | badPattern {data : Text} {rule : StripRule} (holds : Holds tree source data) (bad : firstBad? rules = some rule) :
    Fault tree source target rules (.badPattern rule.pattern)
  | notJson {data : Text} {patterns : List ReadRule} (holds : Holds tree source data)
    (reads : List.Forall₂ Reads rules patterns) (json : Json.read? data = none) :
    Fault tree source target rules (.notJson source)
  | notArray {data : Text} {patterns : List ReadRule} {j : Json} (holds : Holds tree source data)
    (reads : List.Forall₂ Reads rules patterns) (json : Json.read? data = some j) (shape : ∀ entries, j ≠ .arr entries) :
    Fault tree source target rules (.notArray source)
  | unwritable {data : Text} {patterns : List ReadRule} {entries : List Json} {e : FileError} (holds : Holds tree source data)
    (reads : List.Forall₂ Reads rules patterns) (json : Json.read? data = some (.arr entries))
    (write : tree.write target (rewritten patterns entries).write = .error e) :
    Fault tree source target rules (.file target e)

/-- The database is in its place with its commands rewritten, and nothing else has changed: no other
file, and no way to one. -/
structure Written (tree : FileTree) (target : Path) (rules : List StripRule) (data : Text) (changed : Nat)
    (after : FileTree) (patterns : List ReadRule) (entries : List Json) : Prop where
  reads : List.Forall₂ Reads rules patterns
  json : Json.read? data = some (.arr entries)
  written : after.read target = .ok (rewritten patterns entries).write
  changed_eq : changed = countChanged patterns entries
  others : ∃ names, after.resolve target = .ok names ∧
    ∀ names', names' ≠ names → after.root.fileAt? names' = tree.root.fileAt? names'
  ways : ∀ path names, tree.resolve path = .ok names → after.resolve path = .ok names

theorem isEmptyFile_of_holds (h : Holds tree source data) : isEmptyFile data = false :=
  Bool.eq_false_iff.2 fun hempty => h.notEmpty (isEmptyFile_iff.1 hempty)

theorem runOn_of_holds (h : Holds tree source data) :
    (rewrite source target rules).runOn tree =
      match stripText source rules data with
      | .error e => (.error e, tree)
      | .ok (text, changed) =>
        match tree.write target text with
        | .error e => (.error (.file target e), tree)
        | .ok after => (.ok changed, after) := by
  rw [runOn_rewrite, h.read]
  simp only [isEmptyFile_of_holds h]
  rfl

/-- A fault ends the run with the files as they were. -/
theorem Fault.runOn_eq (h : Fault tree source target rules e) : (rewrite source target rules).runOn tree = (.error e, tree) := by
  cases h with
  | unreadable read => rw [runOn_rewrite, read]
  | badPattern holds bad =>
    rw [runOn_of_holds holds, stripText, readRules_eq_error.2 ⟨_, bad, rfl⟩]
    rfl
  | notJson holds reads json => rw [runOn_of_holds holds, stripText_of_rules reads, json]
  | @notArray _ _ j holds reads json shape =>
    rw [runOn_of_holds holds, stripText_of_rules reads, json]
    cases j with
    | arr entries => exact absurd rfl (shape entries)
    | _ => rfl
  | unwritable holds reads json write =>
    rw [runOn_of_holds holds, stripText_of_rules reads, json]
    simp only [write]

/-- **Each run** meets a fault, or the file is empty, or the database is written. -/
theorem runOn_cases (tree : FileTree) (source target : Path) (rules : List StripRule) :
    (∃ e, Fault tree source target rules e) ∨
    (∃ data, tree.read source = .ok data ∧ (data = [] ∨ data = ['\n'])) ∨
    ∃ data changed after patterns entries, Holds tree source data ∧
      (rewrite source target rules).runOn tree = (.ok changed, after) ∧
      Written tree target rules data changed after patterns entries := by
  cases hread : tree.read source with
  | error e => exact Or.inl ⟨_, .unreadable hread⟩
  | ok data =>
    by_cases hempty : data = [] ∨ data = ['\n']
    · exact Or.inr (Or.inl ⟨data, rfl, hempty⟩)
    have holds : Holds tree source data := ⟨hread, hempty⟩
    cases hrules : readRules rules with
    | error e =>
      obtain ⟨rule, hbad, -⟩ := readRules_eq_error.1 hrules
      exact Or.inl ⟨_, .badPattern holds hbad⟩
    | ok patterns =>
      have reads := readRules_eq_ok.1 hrules
      cases hjson : Json.read? data with
      | none => exact Or.inl ⟨_, .notJson holds reads hjson⟩
      | some j =>
        by_cases harr : ∃ entries, j = .arr entries
        · obtain ⟨entries, rfl⟩ := harr
          cases hwrite : tree.write target (rewritten patterns entries).write with
          | error e => exact Or.inl ⟨_, .unwritable holds reads hjson hwrite⟩
          | ok after =>
            refine Or.inr (Or.inr ⟨data, countChanged patterns entries, after, patterns, entries, holds, ?_, ?_⟩)
            · rw [runOn_of_holds holds, stripText_of_rules reads, hjson]
              simp only [hwrite]
            · obtain ⟨names, hnames, hfiles⟩ := FileTree.resolve_write hwrite
              exact ⟨reads, hjson, FileTree.read_write hwrite, rfl,
                ⟨names, hnames, fun names' hne => by rw [hfiles, if_neg hne]⟩,
                fun path names => FileTree.resolve_of_write hwrite⟩
        · exact Or.inl ⟨_, .notArray holds reads hjson fun entries heq => harr ⟨entries, heq⟩⟩

theorem eq_of_error (h : (rewrite source target rules).runOn tree = (.error e, after)) : after = tree := by
  rw [runOn_rewrite] at h
  cases hread : tree.read source with
  | error _ => rw [hread] at h; exact (Prod.mk.inj h).2.symm
  | ok data =>
    simp only [hread] at h
    split at h
    · cases h
    · split at h
      · exact (Prod.mk.inj h).2.symm
      · split at h
        · exact (Prod.mk.inj h).2.symm
        · cases h

/-- **Rewriting a database is atomic** and touches only commands. A fault leaves all files as they were, and so
does an empty file, whatever the rules are. Otherwise the target holds the source's array with its commands
rewritten, which is read from there if printing and reading keep the doubles in it. -/
theorem rewrite_atomic {result : Except StripError Nat}
    (h : (rewrite source target rules).runOn tree = (result, after)) :
    strip tree source target rules = result.map (after, ·) ∧
    (∀ e, result = .error e ↔ Fault tree source target rules e) ∧
    (∀ e, result = .error e → after = tree) ∧
    (∀ data, tree.read source = .ok data → data = [] ∨ data = ['\n'] → result = .ok 0 ∧ after = tree) ∧
    ∀ data changed, tree.read source = .ok data → ¬ (data = [] ∨ data = ['\n']) → result = .ok changed →
      ∃ patterns entries, Written tree target rules data changed after patterns entries ∧
        ((∀ d ∈ (Json.arr entries).doubles, d.Survives) →
          Json.read? (rewritten patterns entries).write = some (rewritten patterns entries)) := by
  have hfault : ∀ e, Fault tree source target rules e → result = .error e := fun e he => by
    rw [he.runOn_eq] at h
    exact (Prod.mk.inj h).1.symm
  have hempty : ∀ data, tree.read source = .ok data → data = [] ∨ data = ['\n'] → result = .ok 0 ∧ after = tree := by
    intro data hread hdata
    rw [runOn_rewrite, hread] at h
    simp only [isEmptyFile_iff.2 hdata] at h
    obtain ⟨rfl, rfl⟩ := Prod.mk.inj h
    exact ⟨rfl, rfl⟩
  have herror : ∀ e, result = .error e → Fault tree source target rules e := fun e he => by
    obtain ⟨e', he'⟩ | ⟨data, hread, hdata⟩ | ⟨_, changed, _, _, _, _, hrun, _⟩ := runOn_cases tree source target rules
    · obtain rfl := Except.error.inj (he.symm.trans (hfault e' he'))
      exact he'
    · cases he.symm.trans (hempty data hread hdata).1
    · cases he.symm.trans (Prod.mk.inj (h.symm.trans hrun)).1
  refine ⟨?_, fun e => ⟨herror e, hfault e⟩, fun e he => eq_of_error (he ▸ h), hempty, ?_⟩
  · rw [strip_eq, h]
  · intro data changed hread hdata hresult
    -- of the three ways to end, this result leaves the last one
    obtain ⟨e, he⟩ | ⟨data', hread', hdata'⟩ | ⟨data', changed', after', patterns, entries, holds, hrun, hwritten⟩ :=
      runOn_cases tree source target rules
    · cases hresult.symm.trans (hfault e he)
    · obtain rfl := Except.ok.inj (hread.symm.trans hread')
      exact absurd hdata' hdata
    · obtain rfl := Except.ok.inj (hread.symm.trans holds.read)
      obtain ⟨hok, rfl⟩ := Prod.mk.inj (h.symm.trans hrun)
      obtain rfl := Except.ok.inj (hresult.symm.trans hok)
      exact ⟨patterns, entries, hwritten, fun hdoubles => read?_rewritten hwritten.json hdoubles patterns⟩

/-- A database with one command. -/
def flagged : List Json :=
  [.obj [("command", .str "g++ -m x"), ("weight", .double ⟨false, 6755399441055744, -52⟩)], .int 7]

def flaggedText : Text := "[\x7b\"command\":\"g++ -m x\",\"weight\":1.5\x7d,7]"

/-- A directory with it in a file. -/
def withFlagged : FileTree where
  root := .dir [("a".toList.map .char, .file (some flaggedText))]

/-- Rules that take out an option and then name another compiler. -/
def flagRules : List StripRule := [⟨" -m", []⟩, ⟨"^g[+]+", "clang"⟩]

theorem survives_flagged : ∀ d ∈ (Json.arr flagged).doubles, d.Survives := by decide +kernel

theorem read?_flaggedText : Json.read? flaggedText = some (.arr flagged) := by
  have hwrite : (Json.arr flagged).write = flaggedText := by decide +kernel
  have hcanonical : Canonical 127 (.arr flagged) := by
    refine .arr (List.forall_mem_cons.2 ⟨.obj ?_ ?_, List.forall_mem_singleton.2 (.int (by decide) (by decide))⟩)
    · exact List.pairwise_pair.2 (by decide)
    · exact List.forall_mem_cons.2 ⟨.str _, List.forall_mem_singleton.2 (.double _)⟩
  rw [← hwrite]
  exact read?_write hcanonical survives_flagged

theorem exists_flagRules : ∃ patterns, readRules flagRules = .ok patterns ∧ stripCommand patterns "g++ -m x" = "clang x" := by
  have hread : (readRules flagRules).toOption.map (stripCommand · "g++ -m x") = some "clang x" := by cbv
  cases hrules : readRules flagRules with
  | error e => rw [hrules] at hread; cases hread
  | ok patterns =>
    rw [hrules] at hread
    exact ⟨patterns, rfl, Option.some.inj hread⟩

theorem runOn_flagged (h : readRules flagRules = .ok patterns) (hcommand : stripCommand patterns "g++ -m x" = "clang x") :
    ((rewrite (.ofText "/a") (.ofText "/a") flagRules).runOn withFlagged).1 = .ok 1 := by
  have holds : Holds withFlagged (.ofText "/a") flaggedText := ⟨by decide +kernel, by decide +kernel⟩
  have hwrite : ∀ t, withFlagged.write (.ofText "/a") t = .ok { root := .dir [("a".toList.map .char, .file (some t))] } :=
    fun _ => rfl
  have hcount : countChanged patterns flagged = 1 := by
    have hcommands : flagged.map command? = [some ("g++ -m x" : Text), none] := by decide +kernel
    calc countChanged patterns flagged
        = (flagged.map command?).countP (fun command => command.map (stripCommand patterns) != command) := by
          simp only [countChanged, command?_mapCommand, List.countP_map, Function.comp_def]
      _ = 1 := by
          simp only [hcommands, List.countP_cons, List.countP_nil, Option.map_some, Option.map_none, hcommand]
          rfl
  rw [runOn_of_holds holds, stripText_of_rules (readRules_eq_ok.1 h), read?_flaggedText]
  simp only [hwrite, hcount]

/-- The file is rewritten in its place. -/
theorem rewrite_atomic_flag : ∃ after patterns,
    (rewrite (.ofText "/a") (.ofText "/a") flagRules).runOn withFlagged = (.ok 1, after) ∧
    stripCommand patterns "g++ -m x" = "clang x" ∧
    Written withFlagged (.ofText "/a") flagRules flaggedText 1 after patterns flagged ∧
    Json.read? (rewritten patterns flagged).write = some (rewritten patterns flagged) := by
  obtain ⟨patterns, hrules, hcommand⟩ := exists_flagRules
  have hresult := runOn_flagged hrules hcommand
  rcases hrun : (rewrite (.ofText "/a") (.ofText "/a") flagRules).runOn withFlagged with ⟨result, after⟩
  rw [hrun] at hresult
  obtain rfl : result = .ok 1 := hresult
  obtain ⟨-, -, -, -, hwritten⟩ := rewrite_atomic hrun
  obtain ⟨patterns', entries, h, hparses⟩ := hwritten flaggedText 1 (by decide +kernel) (by decide +kernel) rfl
  obtain rfl : patterns' = patterns := Except.ok.inj ((readRules_eq_ok.2 h.reads).symm.trans hrules)
  obtain rfl : entries = flagged := Json.arr.inj (Option.some.inj (h.json.symm.trans read?_flaggedText))
  exact ⟨after, patterns', rfl, hcommand, h, hparses survives_flagged⟩

/-! ## Where it is called -/

section

variable {w : Workspace} {root : Path}

theorem stripDatabase_eq (hroot : w.roots.head? = some root) (hrules : w.settings.strip.rulesFor? Workspace.platform = some rules) :
    w.stripDatabase =
      (strip w.files (Workspace.databasePaths w.settings root).1 (Workspace.databasePaths w.settings root).2 rules).map some := by
  rw [Workspace.stripDatabase, hroot, hrules]

/-- The command has the files as the steps leave them, and fails only when they leave them alone. -/
theorem files_stripCompileCommands (hroot : w.roots.head? = some root)
    (hrules : w.settings.strip.rulesFor? Workspace.platform = some rules) (argument : Json) :
    let after := ((rewrite (Workspace.databasePaths w.settings root).1 (Workspace.databasePaths w.settings root).2 rules).runOn
      w.files).2
    match Command.stripCompileCommands.run w argument with
    | .ok outcome => outcome.files = after
    | .error _ => w.files = after := by
  rw [Command.run, stripDatabase_eq hroot hrules, strip_eq]
  rcases hrun : (rewrite _ _ rules).runOn w.files with ⟨_ | changed, after⟩
  · exact (eq_of_error hrun).symm
  · rfl

/-- The session goes on with the files as the steps leave them. -/
theorem files_restrip {s : Session} (hroot : s.workspace.roots.head? = some root)
    (hrules : s.workspace.settings.strip.rulesFor? Workspace.platform = some rules) :
    s.restrip.1.workspace.files = ((rewrite (Workspace.databasePaths s.workspace.settings root).1
      (Workspace.databasePaths s.workspace.settings root).2 rules).runOn s.workspace.files).2 := by
  rw [Session.restrip, stripDatabase_eq hroot hrules, strip_eq]
  rcases hrun : (rewrite _ _ rules).runOn s.workspace.files with ⟨_ | changed, after⟩
  · exact (eq_of_error hrun).symm
  · rfl

end

end Classwright.CompileDatabase
