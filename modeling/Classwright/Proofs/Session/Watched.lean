import Mathlib.Tactic.Common
import Classwright.Proofs.Json.Fields
import Classwright.Proofs.Path.Normal
import Classwright.Proofs.Url.Resolved
import Classwright.Session.Basic
/-!
# Watched files

An event names the database when its path and the one that is configured lead to the same place.
Events come with `..` resolved (`FileEvent.resolved_of_parse?`), and the configured path is compared with
them component by component as it is written. So the session rewrites the database when an event names it, unless `..` is in the
configured path: for resolved events (`filesChanged_names`), and so for those of a notification
(`filesChanged_of_decodeWatched`).
-/
namespace Classwright

open Session

/-- The event is about a file that is there, and the path of that file leads where this one does. -/
def FileEvent.Names (path : Path) (e : FileEvent) : Prop :=
  e.kind ≠ deletedKind ∧ ∃ p, e.url.filePath? = some p ∧ p.Alike path

/-- There is no `..` left in the path of the event. -/
def FileEvent.Resolved (e : FileEvent) : Prop := ∀ p, e.url.filePath? = some p → .parent ∉ p.components

/-- Reading the URL of an event resolves it. Only a slash that is escaped can hide a `..` until the path is decoded. -/
theorem FileEvent.resolved_of_parse? {t : Text} {e : FileEvent} (h : Url.parse? t = some e.url)
    (hslash : ¬ Percent.EscapesSlash e.url.path) : e.Resolved := by
  intro p hp
  exact Url.parent_notMem_of_parse? h hslash hp

theorem Url.exists_parse?_of_decode : Fields.Reads Url.decode fun u => ∃ t, Url.parse? t = some u := by
  intro j u hu
  cases j with
  | str t =>
    simp only [Url.decode] at hu
    split at hu
    · next v hv =>
      obtain rfl := Except.ok.inj hu
      exact ⟨t, hv⟩
    · cases hu
  | _ => cases hu

/-- The events of a notification have URLs that were read. -/
theorem FileEvent.exists_parse?_of_decodeWatched {j : Json} {events : List FileEvent} (h : decodeWatched j = .ok events) :
    ∀ e ∈ events, ∃ t, Url.parse? t = some e.url := by
  have hfields : Fields.Gives (FileEvent.mk <$> Fields.required "uri" Url.decode) fun g =>
      ∀ kind, ∃ t, Url.parse? t = some (g kind).url :=
    (Fields.gives_required Url.exists_parse?_of_decode).map fun u hu _ => hu
  have hkind : Fields.Gives (Fields.required "type" Json.asInt32) fun _ => True :=
    Fields.gives_required fun _ _ _ => trivial
  have hevent : Fields.Reads FileEvent.decode fun e => ∃ t, Url.parse? t = some e.url :=
    Fields.reads_record (hfields.seq hkind fun g kind hg _ => hg kind)
  exact Fields.reads_record (Fields.gives_required (Fields.reads_asListOf hevent)) j events h

namespace Session

variable {s : Session} {root path : Path} {e : FileEvent} {events : List FileEvent}

def database (s : Session) (root : Path) : Path := (Workspace.databasePaths s.workspace.settings root).1

theorem touches_iff : FileEvent.touches path e = true ↔
    e.kind ≠ deletedKind ∧ ∃ p, e.url.filePath? = some p ∧ p.components = path.components := by
  simp only [FileEvent.touches, Bool.and_eq_true, bne_iff_ne, Option.any_eq_true, beq_iff_eq]

/-- What is compared component by component leads to the same place. -/
theorem names_of_touches (h : FileEvent.touches path e = true) : e.Names path := by
  obtain ⟨hkind, p, hp, heq⟩ := touches_iff.1 h
  refine ⟨hkind, p, hp, ?_⟩
  show Path.normalComponents p.components = Path.normalComponents path.components
  rw [heq]

/-- A resolved event that names a path is about it just when there is no `..` in that path. -/
theorem touches_iff_of_resolved (h : e.Resolved) : FileEvent.touches path e = true ↔ e.Names path ∧ .parent ∉ path.components := by
  constructor
  · intro htouches
    refine ⟨names_of_touches htouches, ?_⟩
    obtain ⟨-, p, hp, heq⟩ := touches_iff.1 htouches
    rw [← heq]
    exact h p hp
  · rintro ⟨⟨hkind, p, hp, halike⟩, hpath⟩
    refine touches_iff.2 ⟨hkind, p, hp, ?_⟩
    exact (Path.components_eq_iff_alike (Url.isAbsolute_of_filePath? hp) (h p hp) hpath).2 halike

theorem filesChanged_eq (hroot : s.workspace.roots.head? = some root) (henable : s.workspace.settings.strip.enable = true)
    (events : List FileEvent) :
    s.filesChanged events = if events.any (FileEvent.touches (s.database root)) then s.restrip else (s, []) := by
  simp only [filesChanged, touchesDatabase, hroot, henable, Option.any_some, Bool.true_and]
  rfl

theorem any_touches_iff (h : ∀ e ∈ events, e.Resolved) : events.any (FileEvent.touches path) = true ↔
    (∃ e ∈ events, e.Names path) ∧ .parent ∉ path.components := by
  rw [List.any_eq_true]
  constructor
  · rintro ⟨e, he, htouches⟩
    obtain ⟨hnames, hpath⟩ := (touches_iff_of_resolved (h e he)).1 htouches
    exact ⟨⟨e, he, hnames⟩, hpath⟩
  · rintro ⟨⟨e, he, hnames⟩, hpath⟩
    exact ⟨e, he, (touches_iff_of_resolved (h e he)).2 ⟨hnames, hpath⟩⟩

/-- **A notification about watched files** without escaped slashes makes the session rewrite the database just when
one of its events names it and there is no `..` in its configured path. -/
theorem filesChanged_of_decodeWatched {j : Json} (hroot : s.workspace.roots.head? = some root)
    (henable : s.workspace.settings.strip.enable = true) (hread : decodeWatched j = .ok events)
    (hslash : ∀ e ∈ events, ¬ Percent.EscapesSlash e.url.path) :
    ((∃ e ∈ events, e.Names (s.database root)) ∧ .parent ∉ (s.database root).components → s.filesChanged events = s.restrip) ∧
    (¬ ((∃ e ∈ events, e.Names (s.database root)) ∧ .parent ∉ (s.database root).components) →
      s.filesChanged events = (s, [])) := by
  have hresolved : ∀ e ∈ events, e.Resolved := by
    intro e he
    obtain ⟨t, ht⟩ := FileEvent.exists_parse?_of_decodeWatched hread e he
    exact FileEvent.resolved_of_parse? ht (hslash e he)
  rw [filesChanged_eq hroot henable, ← any_touches_iff hresolved]
  exact ⟨fun h => if_pos h, fun h => if_neg h⟩

/-- **Events that name the database** make the session rewrite it, unless its configured path goes up.
Without such an event nothing happens. -/
theorem filesChanged_names (hroot : s.workspace.roots.head? = some root)
    (henable : s.workspace.settings.strip.enable = true) (events : List FileEvent) :
    ((∀ e ∈ events, ¬ e.Names (s.database root)) → s.filesChanged events = (s, [])) ∧
    ((∃ e ∈ events, e.Resolved ∧ e.Names (s.database root)) → .parent ∉ (s.database root).components →
      s.filesChanged events = s.restrip) ∧
    ((∀ e ∈ events, e.Resolved) → .parent ∈ (s.database root).components → s.filesChanged events = (s, [])) := by
  rw [filesChanged_eq hroot henable]
  refine ⟨?_, ?_, ?_⟩
  · intro hnone
    rw [if_neg]
    rw [List.any_eq_true]
    rintro ⟨e, he, htouches⟩
    exact hnone e he (names_of_touches htouches)
  · rintro ⟨e, he, hresolved, hnames⟩ hpath
    rw [if_pos]
    exact List.any_eq_true.2 ⟨e, he, (touches_iff_of_resolved hresolved).2 ⟨hnames, hpath⟩⟩
  · intro hresolved hpath
    rw [if_neg]
    rw [any_touches_iff hresolved]
    exact fun h => h.2 hpath

/-! ## The configured directory -/

/-- Up to the first folded character beyond ASCII, only capitals fold to something else. -/
theorem foldChar_of_lt {c : Char} (h : c.toNat < 0xB5) (hcapital : ¬ (0x41 ≤ c.toNat ∧ c.toNat ≤ 0x5A)) : foldChar c = c := by
  have hkeys : ∀ pair ∈ foldPairs, (0x41 ≤ pair.1 ∧ pair.1 ≤ 0x5A) ∨ 0xB5 ≤ pair.1 := by decide +kernel
  unfold foldChar
  cases hlookup : foldPairs.lookup c.toNat with
  | none => rfl
  | some target =>
    obtain ⟨before, after, hpairs, -⟩ := List.lookup_eq_some_iff.1 hlookup
    rcases hkeys (c.toNat, target) (by simp [hpairs]) with hkey | hkey
    · exact absurd hkey hcapital
    · exact absurd hkey (by simpa using h)

/-- Nothing but a dollar sign folds to one. -/
theorem foldChar_ne_dollar {c : Char} (h : c ≠ '$') : foldChar c ≠ '$' := by
  have htargets : ∀ pair ∈ foldPairs, Char.ofNat pair.2 ≠ '$' := by decide +kernel
  unfold foldChar
  cases hlookup : foldPairs.lookup c.toNat with
  | none => exact h
  | some target =>
    obtain ⟨before, after, hpairs, -⟩ := List.lookup_eq_some_iff.1 hlookup
    exact htargets (c.toNat, target) (by simp [hpairs])

/-- A setting without a dollar sign has nothing to fill. -/
theorem fillAfter_of_notMem {t : Text} (h : '$' ∉ t) (folder : Text) : CompileDatabase.fillAfter folder 0 t = t := by
  induction t with
  | nil => rfl
  | cons c t ih =>
    simp only [List.mem_cons, not_or] at h
    have hstrip : CompileDatabase.stripFolded? (c :: t) CompileDatabase.rootPlaceholder = none := by
      show (if '$' = foldChar c then _ else none) = none
      rw [if_neg (foldChar_ne_dollar (Ne.symm h.1)).symm]
    rw [CompileDatabase.fillAfter, hstrip, ih h.2]

theorem stripFolded?_append (w t : Text) : CompileDatabase.stripFolded? (w ++ t) (w.map foldChar) = some t := by
  induction w with
  | nil => cases t <;> rfl
  | cons c w ih => simp [CompileDatabase.stripFolded?, ih]

theorem fillAfter_append (folder w t : Text) :
    CompileDatabase.fillAfter folder w.length (w ++ t) = CompileDatabase.fillAfter folder 0 t := by
  induction w with
  | nil => rfl
  | cons c w ih => exact ih

/-- The placeholder at the start of a setting, in any case, is the root. -/
theorem fillAfter_placeholder {w : Text} (h : w.map foldChar = CompileDatabase.rootPlaceholder) (folder t : Text) :
    CompileDatabase.fillAfter folder 0 (w ++ t) = folder ++ CompileDatabase.fillAfter folder 0 t := by
  have hlength : w.length = CompileDatabase.rootPlaceholder.length := by rw [← h, List.length_map]
  cases w with
  | nil => cases hlength
  | cons c w =>
    have hstrip := stripFolded?_append (c :: w) t
    rw [h] at hstrip
    rw [List.cons_append] at hstrip ⊢
    rw [CompileDatabase.fillAfter, hstrip, ← hlength]
    exact congrArg (folder ++ ·) (fillAfter_append folder w t)

/-! ## A workspace with its build beside it -/

/-- The directory `/w` with an empty database in `build`, beside the root `/w/app`. -/
def besideFiles : FileTree where
  root :=
    let entry (name : Text) (node : FileNode) := (name.toUnits, node)
    .dir [entry "w" (.dir [entry "app" (.dir []),
      entry "build" (.dir [entry CompileDatabase.fileName (.file (some []))])])]

def besideRoot : Path := .ofText "/w/app"

/-- A session in `/w/app` that is told where the database is. -/
def beside (dir : Text) : Session where
  phase := .running
  workspace :=
    { settings := { Settings.usual with strip := { StripSettings.usual with enable := true, dir } }
      documents := .empty, roots := [besideRoot], files := besideFiles }

/-- The directory beside the root, by way of the one above. -/
def aboveDir : Text := CompileDatabase.rootPlaceholder ++ "/../build"

/-- The database beside the root was changed. -/
def besideEvent : FileEvent := ⟨⟨"file", some {}, "/w/build/compile_commands.json", none, none⟩, 2⟩

theorem database_beside_eq (dir : Text) : (beside dir).database besideRoot = CompileDatabase.inDirectory dir besideRoot := rfl

theorem database_beside {dir : Text} (h : '$' ∉ dir) :
    (beside dir).database besideRoot = (Path.ofText dir).join (.ofText CompileDatabase.fileName) := by
  rw [database_beside_eq, CompileDatabase.inDirectory, CompileDatabase.directory, fillAfter_of_notMem h]

theorem database_above : (beside aboveDir).database besideRoot = .ofText "/w/app/../build/compile_commands.json" := by
  have hplain : (CompileDatabase.rootPlaceholder.all fun c => c.toNat < 0xB5 ∧ ¬ (0x41 ≤ c.toNat ∧ c.toNat ≤ 0x5A)) = true := by
    decide +kernel
  simp only [List.all_eq_true, decide_eq_true_eq] at hplain
  have hplaceholder : CompileDatabase.rootPlaceholder.map foldChar = CompileDatabase.rootPlaceholder :=
    (List.map_congr_left fun c hc => foldChar_of_lt (hplain c hc).1 (hplain c hc).2).trans (List.map_id _)
  rw [database_beside_eq, CompileDatabase.inDirectory, CompileDatabase.directory, aboveDir, fillAfter_placeholder hplaceholder,
    fillAfter_of_notMem (by decide)]
  decide +kernel

/-- An empty database is left alone, and the user is told. -/
theorem restrip_beside {dir : Text} (h : besideFiles.read ((beside dir).database besideRoot) = .ok []) :
    (beside dir).restrip = (beside dir, [.log ("Stripped " ++ natText 0 ++ " compile commands")]) := by
  have hstrip : (beside dir).workspace.stripDatabase = .ok (some (besideFiles, 0)) := by
    show (CompileDatabase.strip besideFiles ((beside dir).database besideRoot) _ []).map some = _
    rw [CompileDatabase.strip, h]
    rfl
  rw [restrip, hstrip]
  rfl

theorem filePath?_besideEvent : besideEvent.url.filePath? = some (.ofText "/w/build/compile_commands.json") := by decide +kernel

theorem resolved_besideEvent : besideEvent.Resolved := by
  intro p hp
  rw [filePath?_besideEvent] at hp
  obtain rfl := Option.some.inj hp
  decide

/-- The database is rewritten when its directory is spelled out in another way, and not when another
directory is meant. -/
theorem filesChanged_names_beside :
    (beside "/w/./build//").filesChanged [besideEvent] = (beside "/w/./build//").restrip ∧
    (beside "/w/./build//").restrip = (beside "/w/./build//", [.log ("Stripped " ++ natText 0 ++ " compile commands")]) ∧
    (beside "/w/app/build").filesChanged [besideEvent] = (beside "/w/app/build", []) := by
  have hdatabase : (beside "/w/./build//").database besideRoot = _ := database_beside (by decide)
  refine ⟨?_, restrip_beside (by rw [hdatabase]; decide +kernel), ?_⟩
  · refine (filesChanged_names rfl rfl [besideEvent]).2.1
      ⟨_, List.mem_singleton_self _, resolved_besideEvent, by decide, _, filePath?_besideEvent, ?_⟩ ?_
    · rw [hdatabase]
      unfold Path.Alike
      decide +kernel
    · rw [hdatabase]
      decide +kernel
  · refine (filesChanged_names rfl rfl [besideEvent]).1 ?_
    intro e he
    obtain rfl := List.mem_singleton.1 he
    rintro ⟨-, p, hp, halike⟩
    rw [filePath?_besideEvent] at hp
    obtain rfl := Option.some.inj hp
    rw [database_beside (by decide)] at halike
    revert halike
    unfold Path.Alike
    decide +kernel

/-- A database that is reached through the directory above the root is not recognised. -/
theorem not_filesChanged_names_above : ¬ ∀ (s : Session) (root : Path) (events : List FileEvent),
    s.workspace.roots.head? = some root → s.workspace.settings.strip.enable = true →
    ((∃ e ∈ events, e.Resolved ∧ e.Names (s.database root)) → s.filesChanged events = s.restrip) ∧
    ((∀ e ∈ events, ¬ e.Names (s.database root)) → s.filesChanged events = (s, [])) := by
  intro h
  have hnames : besideEvent.Names ((beside aboveDir).database besideRoot) := by
    refine ⟨by decide, _, filePath?_besideEvent, ?_⟩
    rw [database_above]
    unfold Path.Alike
    decide +kernel
  have hrun := (h (beside aboveDir) besideRoot [besideEvent] rfl rfl).1
    ⟨_, List.mem_singleton_self _, resolved_besideEvent, hnames⟩
  have htouches : [besideEvent].any (FileEvent.touches ((beside aboveDir).database besideRoot)) = false := by
    rw [database_above]
    decide +kernel
  rw [filesChanged_eq rfl rfl, htouches, restrip_beside (by rw [database_above]; decide +kernel)] at hrun
  cases congrArg (·.2) hrun

end Session
end Classwright
