import Mathlib.Tactic.Common
import Classwright.Proofs.Json.Fields
import Classwright.Session.Dispatch
/-!
# Guards of new and renamed headers

A session that keeps guards answers a notification about files with one request for edits, or with
nothing when there is nothing to edit (`AskFor`). The request has the edits of exactly those listed URLs
that name a header whose text is at hand, and for a new header, whose text has no guard. An entry that is
none of these takes nothing from the others, and neither the order of the list nor repetitions in it
matter (`notify_guards`). What names a header is the path of a URL, whatever its scheme
(`not_created_of_scheme`).
-/
namespace Classwright.Session

variable {s : Session} {w : Workspace} {u : Url} {path : Path} {text : Text} {es : List TextEdit}
  {edits? : Text → Option (Url × List TextEdit)} {edits : Url → List TextEdit → Prop} {files files' : List Text}
  {messages messages' : List ClientMessage} {read : Decoder (List Text)} {method : Text}

/-! ## Headers -/

/-- The text of a file: what is open under its URL, or else what is on the disk. -/
def HasText (w : Workspace) (u : Url) (path : Path) (text : Text) : Prop :=
  match w.documents.get? u with
  | some d => d.text = text
  | none => w.files.read path = .ok text

/-- The URL names a header, and its text is at hand. -/
structure NamesHeader (w : Workspace) (u : Url) (path : Path) (text : Text) : Prop where
  filePath : u.filePath? = some path
  isHeader : path.isHeader = true
  hasText : HasText w u path text

/-- The text that a header is read with. -/
def currentText? (w : Workspace) (u : Url) (path : Path) : Option Text :=
  match w.documents.get? u with
  | some d => some d.text
  | none => (w.files.read path).toOption

theorem currentText?_eq_some_iff : currentText? w u path = some text ↔ HasText w u path text := by
  unfold currentText? HasText
  cases w.documents.get? u with
  | some d => exact Option.some_inj
  | none => cases w.files.read path <;> simp [Except.toOption]

theorem header?_eq : header? w u =
    u.filePath?.bind fun path => if path.isHeader then (currentText? w u path).map (path, ·) else none := by
  unfold header? currentText?
  refine congrArg (Option.bind _) (funext fun path => ?_)
  cases path.isHeader with
  | false => rfl
  | true =>
    cases w.documents.get? u with
    | some d => rfl
    | none => cases w.files.read path <;> rfl

theorem header?_eq_some_iff : header? w u = some (path, text) ↔ NamesHeader w u path text := by
  rw [header?_eq, Option.bind_eq_some_iff]
  constructor
  · rintro ⟨p, hp, hread⟩
    split at hread
    · next hheader =>
      obtain ⟨t, ht, heq⟩ := Option.map_eq_some_iff.1 hread
      cases heq
      exact ⟨hp, hheader, currentText?_eq_some_iff.1 ht⟩
    · cases hread
  · rintro ⟨hp, hheader, htext⟩
    exact ⟨path, hp, by rw [if_pos hheader, currentText?_eq_some_iff.2 htext]; rfl⟩

/-- The text of a header and its path are the only ones. -/
theorem NamesHeader.unique {path' : Path} {text' : Text} (h : NamesHeader w u path text) (h' : NamesHeader w u path' text') :
    path = path' ∧ text = text' := by
  have heq := (header?_eq_some_iff.2 h).symm.trans (header?_eq_some_iff.2 h')
  simpa using heq

/-- The macro for a header: the pattern of the settings with the name of the file, which is empty when it
is no text. -/
def macroFor (w : Workspace) (path : Path) : Text :=
  HeaderGuard.nameOf (path.fileNameText?.getD []) w.settings.templates.guardPattern

/-- The edits that put a guard around a new header without one. -/
def Creates (w : Workspace) (u : Url) (es : List TextEdit) : Prop :=
  ∃ path text, NamesHeader w u path text ∧ HeaderGuard.find? text = none ∧
    es = HeaderGuard.create text (macroFor w path)

/-- The edits that give the guard of a renamed header its new macro. -/
def Amends (w : Workspace) (u : Url) (es : List TextEdit) : Prop :=
  ∃ path text, NamesHeader w u path text ∧ es = HeaderGuard.amend text (macroFor w path)

theorem createdEdits?_eq_some_iff {t : Text} :
    createdEdits? w t = some (u, es) ↔ Url.parse? t = some u ∧ Creates w u es := by
  unfold createdEdits?
  simp only [Option.bind_eq_bind, Option.bind_eq_some_iff, Prod.exists, header?_eq_some_iff]
  constructor
  · rintro ⟨u', hu, path, text, hheader, hedits⟩
    split at hedits
    · cases hedits
    · next hfind =>
      cases hedits
      exact ⟨hu, path, text, hheader, by simpa using hfind, rfl⟩
  · rintro ⟨hu, path, text, hheader, hfind, rfl⟩
    refine ⟨u, hu, path, text, hheader, ?_⟩
    rw [hfind]
    rfl

theorem renamedEdits?_eq_some_iff {t : Text} :
    renamedEdits? w t = some (u, es) ↔ Url.parse? t = some u ∧ Amends w u es := by
  unfold renamedEdits?
  simp only [Option.bind_eq_bind, Option.bind_eq_some_iff, Prod.exists, header?_eq_some_iff]
  constructor
  · rintro ⟨u', hu, path, text, hheader, hedits⟩
    cases hedits
    exact ⟨hu, path, text, hheader, rfl⟩
  · rintro ⟨hu, path, text, hheader, rfl⟩
    exact ⟨u, hu, path, text, hheader, rfl⟩

theorem Creates.unique {es' : List TextEdit} (h : Creates w u es) (h' : Creates w u es') : es = es' := by
  obtain ⟨path, text, hheader, -, rfl⟩ := h
  obtain ⟨path', text', hheader', -, rfl⟩ := h'
  obtain ⟨rfl, rfl⟩ := hheader.unique hheader'
  rfl

theorem Amends.unique {es' : List TextEdit} (h : Amends w u es) (h' : Amends w u es') : es = es' := by
  obtain ⟨path, text, hheader, rfl⟩ := h
  obtain ⟨path', text', hheader', rfl⟩ := h'
  obtain ⟨rfl, rfl⟩ := hheader.unique hheader'
  rfl

/-! ## One request for all edits -/

/-- The messages that ask for the edits of listed URLs. -/
inductive AskFor (edits : Url → List TextEdit → Prop) (files : List Text) : List ClientMessage → Prop
  /-- No listed URL has edits. -/
  | nothing (h : ∀ t ∈ files, ∀ u, Url.parse? t = some u → ∀ es, ¬ edits u es) : AskFor edits files []
  /-- One request has them all, and no others. -/
  | once {changes : List (Url × List TextEdit)} (hne : changes ≠ [])
      (h : ∀ u es, (u, es) ∈ changes ↔ (∃ t ∈ files, Url.parse? t = some u) ∧ edits u es) :
      AskFor edits files [.applyEdits changes]

theorem AskFor.exists_mem {t : Text} (h : AskFor edits files messages) (ht : t ∈ files) (hu : Url.parse? t = some u) (he : edits u es) :
    ∃ changes, messages = [.applyEdits changes] ∧ (u, es) ∈ changes := by
  cases h with
  | nothing hnone => exact absurd he (hnone t ht u hu es)
  | @once changes _ hmem => exact ⟨changes, rfl, (hmem u es).2 ⟨⟨t, ht, hu⟩, he⟩⟩

/-- The same edits are asked for, in any order. -/
inductive SameRequest : List ClientMessage → List ClientMessage → Prop
  | nothing : SameRequest [] []
  | once {changes changes' : List (Url × List TextEdit)} (h : ∀ change, change ∈ changes ↔ change ∈ changes') :
      SameRequest [.applyEdits changes] [.applyEdits changes']

theorem askFor_guardMessages (hauto : w.settings.autoCreateHeaderGuard = true)
    (hedits : ∀ t u es, edits? t = some (u, es) ↔ Url.parse? t = some u ∧ edits u es) (files : List Text) :
    AskFor edits files (guardMessages w edits? files) := by
  have hmem : ∀ u es, (u, es) ∈ files.filterMap edits? ↔ (∃ t ∈ files, Url.parse? t = some u) ∧ edits u es := by
    intro u es
    simp only [List.mem_filterMap, hedits]
    constructor
    · rintro ⟨t, ht, hu, he⟩
      exact ⟨⟨t, ht, hu⟩, he⟩
    · rintro ⟨⟨t, ht, hu⟩, he⟩
      exact ⟨t, ht, hu, he⟩
  unfold guardMessages
  rw [if_pos hauto]
  dsimp only
  split
  · next hempty =>
    rw [List.isEmpty_iff] at hempty
    rw [hempty] at hmem
    exact .nothing fun t ht u hu es he => List.not_mem_nil ((hmem u es).2 ⟨⟨t, ht, hu⟩, he⟩)
  · next hne => exact .once (by simpa using hne) hmem

/-- What is asked for depends on the listed texts, not on their order or number. -/
theorem AskFor.sameRequest (h : AskFor edits files messages) (h' : AskFor edits files' messages')
    (hfiles : ∀ t, t ∈ files ↔ t ∈ files') : SameRequest messages messages' := by
  cases h with
  | nothing hnone =>
    cases h' with
    | nothing => exact .nothing
    | @once changes' hne hmem' =>
      obtain ⟨⟨u, es⟩, hchange⟩ := List.exists_mem_of_ne_nil _ hne
      obtain ⟨⟨t, ht, hu⟩, he⟩ := (hmem' u es).1 hchange
      exact absurd he (hnone t ((hfiles t).2 ht) u hu es)
  | @once changes hne hmem =>
    cases h' with
    | nothing hnone =>
      obtain ⟨⟨u, es⟩, hchange⟩ := List.exists_mem_of_ne_nil _ hne
      obtain ⟨⟨t, ht, hu⟩, he⟩ := (hmem u es).1 hchange
      exact absurd he (hnone t ((hfiles t).1 ht) u hu es)
    | @once changes' _ hmem' =>
      refine .once fun ⟨u, es⟩ => ?_
      simp only [hmem, hmem', hfiles]

/-- An entry without edits does not count. -/
theorem guardMessages_append_cons (hedits : ∀ t u es, edits? t = some (u, es) ↔ Url.parse? t = some u ∧ edits u es)
    {bad : Text} (hbad : ∀ u, Url.parse? bad = some u → ∀ es, ¬ edits u es) (front back : List Text) :
    guardMessages w edits? (front ++ bad :: back) = guardMessages w edits? (front ++ back) := by
  have hnone : edits? bad = none := by
    rw [Option.eq_none_iff_forall_ne_some]
    rintro ⟨u, es⟩ h
    obtain ⟨hu, he⟩ := (hedits bad u es).1 h
    exact hbad u hu es he
  unfold guardMessages
  rw [List.filterMap_append, List.filterMap_cons_none hnone, ← List.filterMap_append]

/-! ## Notifications -/

/-- A notification about files that can be read leads to one request for edits. -/
structure Guards (s : Session) (method : Text) (read : Decoder (List Text)) (edits : Url → List TextEdit → Prop) : Prop where
  /-- The session stays as it is, and asks for the edits of the listed URLs. -/
  asks : ∀ note files, read note = .ok files →
    ∃ messages, s.notify method (some note) = (s, messages) ∧ AskFor edits files messages
  /-- There is one list of edits for a URL. -/
  single : ∀ u es es', edits u es → edits u es' → es = es'
  /-- Without an entry that has no edits, the same happens. -/
  others : ∀ note note' front bad back, read note = .ok (front ++ bad :: back) → read note' = .ok (front ++ back) →
    (∀ u, Url.parse? bad = some u → ∀ es, ¬ edits u es) → s.notify method (some note) = s.notify method (some note')
  /-- Neither order nor repetitions matter. -/
  order : ∀ note note' files files', read note = .ok files → read note' = .ok files' → (∀ t, t ∈ files ↔ t ∈ files') →
    SameRequest (s.notify method (some note)).2 (s.notify method (some note')).2

theorem guards_of_notify (hauto : s.workspace.settings.autoCreateHeaderGuard = true)
    (hedits : ∀ t u es, edits? t = some (u, es) ↔ Url.parse? t = some u ∧ edits u es)
    (hsingle : ∀ u es es', edits u es → edits u es' → es = es')
    (hnotify : ∀ note files, read note = .ok files →
      s.notify method (some note) = (s, guardMessages s.workspace edits? files)) : Guards s method read edits where
  asks note files hread := ⟨_, hnotify note files hread, askFor_guardMessages hauto hedits files⟩
  single := hsingle
  others note note' front bad back hread hread' hbad := by
    rw [hnotify note _ hread, hnotify note' _ hread', guardMessages_append_cons hedits hbad]
  order note note' files files' hread hread' hfiles := by
    rw [hnotify note _ hread, hnotify note' _ hread']
    exact (askFor_guardMessages hauto hedits files).sameRequest (askFor_guardMessages hauto hedits files') hfiles

/-- Parameters that can be read are heard. -/
theorem heard_of_read {α : Type} {decode : Decoder α} {note : Json} {a : α} (hread : decode note = .ok a)
    (event : α → Session × List ClientMessage) : s.heard decode (some note) event = event a := by
  have hparams : readParams decode (some note) = some a := by
    rw [readParams, Option.bind_some, hread]
    rfl
  rw [heard, hparams]

theorem notify_created (hrun : s.phase = .running) (note : Json) (files : List Text) (hread : decodeCreated note = .ok files) :
    s.notify "workspace/didCreateFiles" (some note) = (s, guardMessages s.workspace (createdEdits? s.workspace) files) := by
  rw [notify, if_pos hrun]
  exact heard_of_read hread _

theorem notify_renamed (hrun : s.phase = .running) (note : Json) (files : List Text) (hread : decodeRenamed note = .ok files) :
    s.notify "workspace/didRenameFiles" (some note) = (s, guardMessages s.workspace (renamedEdits? s.workspace) files) := by
  rw [notify, if_pos hrun]
  exact heard_of_read hread _

/-- **New and renamed headers** get their guards, each of them and nothing else. -/
theorem notify_guards (hrun : s.phase = .running) (hauto : s.workspace.settings.autoCreateHeaderGuard = true) :
    Guards s "workspace/didCreateFiles" decodeCreated (Creates s.workspace) ∧
      Guards s "workspace/didRenameFiles" decodeRenamed (Amends s.workspace) :=
  ⟨guards_of_notify hauto (fun _ _ _ => createdEdits?_eq_some_iff) (fun _ _ _ => Creates.unique) (notify_created hrun),
    guards_of_notify hauto (fun _ _ _ => renamedEdits?_eq_some_iff) (fun _ _ _ => Amends.unique) (notify_renamed hrun)⟩

/-! ## The parameters of the notifications -/

def createdNote (files : List Text) : Json := .obj [("files", .arr (files.map fun t => .obj [("uri", .str t)]))]

/-- Files that were renamed, with the old and the new URL of each. -/
def renamedNote (files : List (Text × Text)) : Json :=
  .obj [("files", .arr (files.map fun (old, new) => .obj [("newUri", .str new), ("oldUri", .str old)]))]

theorem decodeCreated_createdNote (files : List Text) : decodeCreated (createdNote files) = .ok files := by
  have hread := mapM_map_eq_ok (f := Fields.record (Fields.required "uri" Json.asText)) (g := fun t => Json.obj [("uri", .str t)])
    (k := id) (fun t => rfl) files
  rw [List.map_id] at hread
  show Except.mapError _ (Except.mapError _ (List.mapM _ _)) = _
  rw [hread]
  rfl

theorem decodeRenamed_renamedNote (files : List (Text × Text)) : decodeRenamed (renamedNote files) = .ok (files.map (·.2)) := by
  show Except.mapError _ (Except.mapError _ (List.mapM _ _)) = _
  rw [mapM_map_eq_ok (k := (·.2)) fun (old, new) => rfl]
  rfl

/-! ## A session that keeps guards -/

/-- A session with an empty header on the disk. -/
def keeper : Session where
  phase := .running
  workspace :=
    { settings := { Settings.usual with autoCreateHeaderGuard := true }
      documents := .empty, roots := [], files := { root := .dir [(Text.toUnits "a.h", .file (some []))] } }

theorem namesHeader_keeper {u : Url} (h : u.filePath? = some (.ofText "/a.h")) : NamesHeader keeper.workspace u (.ofText "/a.h") [] where
  filePath := h
  isHeader := by decide
  hasText := by
    show keeper.workspace.files.read _ = _
    decide

/-- The header on the disk as an editor names it. -/
def keptUrl : Url := ⟨"file", some {}, "/a.h", none, none⟩

theorem parse?_keptUrl : Url.parse? "file:///a.h".toList = some keptUrl := by decide +kernel

theorem creates_keptUrl : Creates keeper.workspace keptUrl (HeaderGuard.create [] (macroFor keeper.workspace (.ofText "/a.h"))) :=
  ⟨_, _, namesHeader_keeper (by decide +kernel), by decide, rfl⟩

theorem amends_keptUrl : Amends keeper.workspace keptUrl (HeaderGuard.amend [] (macroFor keeper.workspace (.ofText "/a.h"))) :=
  ⟨_, _, namesHeader_keeper (by decide +kernel), rfl⟩

/-- An entry that is no URL is passed over, and the header behind it gets its guard. -/
theorem notify_guards_keeper :
    keeper.phase = .running ∧ keeper.workspace.settings.autoCreateHeaderGuard = true ∧
    (∃ changes es, keeper.notify "workspace/didCreateFiles" (some (createdNote ["a.h", "file:///a.h"])) =
        (keeper, [.applyEdits changes]) ∧ (keptUrl, es) ∈ changes) ∧
    ∃ changes es, keeper.notify "workspace/didRenameFiles" (some (renamedNote [("file:///b.h", "file:///a.h")])) =
        (keeper, [.applyEdits changes]) ∧ (keptUrl, es) ∈ changes := by
  obtain ⟨hcreated, hrenamed⟩ := notify_guards (s := keeper) rfl rfl
  refine ⟨rfl, rfl, ?_, ?_⟩
  · obtain ⟨messages, hnotify, hask⟩ := hcreated.asks _ _ (decodeCreated_createdNote ["a.h", "file:///a.h"])
    obtain ⟨changes, rfl, hmem⟩ := hask.exists_mem (by simp) parse?_keptUrl creates_keptUrl
    exact ⟨changes, _, hnotify, hmem⟩
  · obtain ⟨messages, hnotify, hask⟩ := hrenamed.asks _ _ (decodeRenamed_renamedNote [("file:///b.h", "file:///a.h")])
    obtain ⟨changes, rfl, hmem⟩ := hask.exists_mem (List.mem_singleton_self _) parse?_keptUrl amends_keptUrl
    exact ⟨changes, _, hnotify, hmem⟩

/-- A header that is named by a URL of another scheme gets a guard as well. -/
theorem not_created_of_scheme : ¬ ∀ (s : Session) (files : List Text) (changes : List (Url × List TextEdit)),
    s.phase = .running → s.workspace.settings.autoCreateHeaderGuard = true →
    (s.notify "workspace/didCreateFiles" (some (createdNote files))).2 = [.applyEdits changes] →
    ∀ u es, (u, es) ∈ changes → u.scheme = "file" := by
  intro h
  have hparse : Url.parse? "untitled:/a.h".toList = some ⟨"untitled", none, "/a.h", none, none⟩ := by decide +kernel
  have hcreates : Creates keeper.workspace ⟨"untitled", none, "/a.h", none, none⟩ _ :=
    ⟨_, _, namesHeader_keeper (by decide +kernel), by decide, rfl⟩
  have hask : AskFor (Creates keeper.workspace) ["untitled:/a.h"] 
      (guardMessages keeper.workspace (createdEdits? keeper.workspace) ["untitled:/a.h"]) :=
    askFor_guardMessages rfl (fun _ _ _ => createdEdits?_eq_some_iff) ["untitled:/a.h"]
  obtain ⟨changes, hmessages, hmem⟩ := hask.exists_mem (List.mem_singleton_self _) hparse hcreates
  have hnotify := notify_created (s := keeper) rfl _ _ (decodeCreated_createdNote ["untitled:/a.h"])
  have hscheme := h keeper ["untitled:/a.h"] changes rfl rfl (by rw [hnotify]; exact hmessages) _ _ hmem
  exact absurd hscheme (by decide)

end Classwright.Session
