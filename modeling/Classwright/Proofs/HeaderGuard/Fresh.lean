import Mathlib.Data.Bool.AllAny
import Classwright.Proofs.HeaderGuard.Guarded
import Classwright.Proofs.HeaderGuard.MacroName
import Classwright.Proofs.Path.LastName
import Classwright.Proofs.Session.Guards
import Classwright.Scaffold
/-!
# Guards of new headers

The guard of a new header is made from the name of its class, while a header that was created or renamed is
given the macro of its file name. Both are the same macro (`nameOf_append`), and the guard is found again
around whatever the template has put in it, as long as no line there closes a conditional (`Stands.of_pieces`).
So neither the amending of a guard nor a notification about the file changes the new header
(`NewFile.header_stands`).
-/
namespace Classwright

open Text

namespace HeaderGuard

variable {t g name ext pattern : Text} {w : Lines} {front : List Text}

/-! ## Plain names -/

/-- Neither white space nor a character that divides file names. -/
def IsPlain (c : Char) : Prop := isBlankChar c = false ∧ c ≠ '.' ∧ c ≠ '/' ∧ c ≠ '\\'

instance (c : Char) : Decidable (IsPlain c) :=
  inferInstanceAs (Decidable (isBlankChar c = false ∧ c ≠ '.' ∧ c ≠ '/' ∧ c ≠ '\\'))

theorem notMem_of_isPlain {c : Char} (h : ∀ d ∈ t, IsPlain d) (hc : ¬ IsPlain c) : c ∉ t := fun hm => hc (h c hm)

/-- Of a file only the dot in front of the extension divides the name. -/
theorem notMem_file {c : Char} (hname : ∀ d ∈ name, IsPlain d) (hext : ∀ d ∈ ext, IsPlain d) (hc : ¬ IsPlain c)
    (hdot : c ≠ '.') : c ∉ name ++ '.' :: ext := by
  simp only [List.mem_append, List.mem_cons, not_or]
  exact ⟨notMem_of_isPlain hname hc, hdot, notMem_of_isPlain hext hc⟩

theorem stem_baseName (hname : ∀ c ∈ name, IsPlain c) : stem (baseName name) = name := by
  rw [baseName_of_notMem (notMem_of_isPlain hname (by decide)) (notMem_of_isPlain hname (by decide)),
    stem_of_notMem_tail fun hm => notMem_of_isPlain hname (by decide) (List.mem_of_mem_tail hm)]

/-- **An extension does not count** for the macro of a file. -/
theorem nameOf_append (hne : name ≠ []) (hname : ∀ c ∈ name, IsPlain c) (hext : ∀ c ∈ ext, IsPlain c) (pattern : Text) :
    nameOf (name ++ '.' :: ext) pattern = nameOf name pattern := by
  have hbase : baseName (name ++ '.' :: ext) = name ++ '.' :: ext :=
    baseName_of_notMem (notMem_file hname hext (by decide) (by decide)) (notMem_file hname hext (by decide) (by decide))
  rw [nameOf, nameOf, hbase, stem_append hne (notMem_of_isPlain hext (by decide)), stem_baseName hname]

/-- The macro of a file with a name is a word. -/
theorem word_nameOf (hstem : stem (baseName name) ≠ []) (hpattern : Word pattern) : Word (nameOf name pattern) := by
  unfold nameOf replaceFirst
  cases hcut : pattern.cut? placeholder with
  | none => exact hpattern
  | some cut =>
    obtain ⟨before, after⟩ := cut
    have hp : pattern = before ++ placeholder ++ after := eq_of_cut? hcut
    refine ⟨by simp [hstem], fun c hc => ?_⟩
    simp only [List.mem_append, List.mem_map] at hc
    rcases hc with (hc | ⟨d, -, rfl⟩) | hc
    · exact hpattern.2 c (by simp [hp, hc])
    · exact isBlankChar_of_isMacroChar (isMacroChar_macroChar d)
    · exact hpattern.2 c (by simp [hp, hc])

/-! ## A text that is a guard -/

/-- The guard of a text: it is found on these lines, all three directives are those of the macro, and
giving it the macro changes nothing. -/
structure Stands (t g : Text) (w : Lines) : Prop where
  found : find? t = some w
  ifndef : firstLine? (macroAfter? "#ifndef") (lineTails t) = some (w.ifndef, g)
  define : firstLine? (macroAfter? "#define") (lineTails t) = some (w.define, g)
  closing : closing? (lineTails t) = some (w.endif, some g)
  directives : ∀ d ∈ w.directives g, t.pieces[d.1]? = some d.2
  amended : t.edited? (amend t g) = some t

/-- A line from which on the text begins with a directive begins with it. -/
theorem exists_line_of_prefix {key : Text} {n : Nat} (hk : '\n' ∉ key) (hne : key ≠ []) (h : key <+: t.fromLine n) :
    ∃ line, t.pieces[n]? = some line ∧ key <+: line := by
  cases hline : t.pieces[n]? with
  | none =>
    rw [fromLine_eq_nil (List.getElem?_eq_none_iff.1 hline)] at h
    exact absurd (List.prefix_nil.1 h) hne
  | some line =>
    obtain ⟨rest, hfrom, hrest⟩ := exists_fromLine_eq hline
    refine ⟨line, rfl, ?_⟩
    rw [hfrom] at h
    rcases hrest with rfl | ⟨z, rfl⟩
    · rwa [List.append_nil] at h
    · exact (isPrefix_append_cons_iff hk).1 h

section Written

variable (hp : t.pieces = ifndefText g :: defineText g :: (front ++ [endifText g, []]))
include hp

theorem getElem?_of_mem_directives {d : Nat × Text} (hd : d ∈ (⟨0, 1, front.length + 2⟩ : Lines).directives g) :
    t.pieces[d.1]? = some d.2 := by
  rw [hp]
  rcases mem_directives.1 hd with rfl | rfl | rfl
  · rfl
  · rfl
  · simp

/-- No other line begins like the closing one. -/
theorem eq_of_endifKey_prefix (hfront : ∀ l ∈ front, ¬ endifKey <+: l) {n : Nat} (hn : endifKey <+: t.fromLine n) :
    n = front.length + 2 := by
  obtain ⟨line, hline, hkey⟩ := exists_line_of_prefix (by decide) (by decide) hn
  rw [hp] at hline
  rcases n with _ | _ | n
  · obtain rfl := Option.some.inj hline
    exact absurd hkey <| not_prefix_of_prefix (List.prefix_append "#ifndef ".toList g) (by decide) (by decide)
  · obtain rfl := Option.some.inj hline
    exact absurd hkey <| not_prefix_of_prefix (List.prefix_append "#define ".toList g) (by decide) (by decide)
  rw [List.getElem?_cons_succ, List.getElem?_cons_succ] at hline
  rcases Nat.lt_trichotomy n front.length with hlt | rfl | hgt
  · rw [List.getElem?_append_left hlt] at hline
    exact absurd hkey (hfront line (List.mem_of_getElem? hline))
  · rfl
  · -- behind it there is only the end of the text
    obtain ⟨k, rfl⟩ := Nat.exists_eq_add_of_lt hgt
    rw [List.getElem?_append_right (by omega), show front.length + k + 1 - front.length = k + 1 by omega] at hline
    cases k with
    | zero =>
      obtain rfl := Option.some.inj hline
      exact absurd hkey (by decide)
    | succ k => cases hline

/-- **A text is a guard** when it is written around lines that close no conditional, whatever else they are. -/
theorem Stands.of_pieces (hg : Word g) (hfront : ∀ l ∈ front, ¬ endifKey <+: l) :
    Stands t g ⟨0, 1, front.length + 2⟩ := by
  have hholds : ∀ d ∈ (⟨0, 1, front.length + 2⟩ : Lines).directives g, Holds t d.1 d.2 ∧ (returnsAt t d.1).length ≤ 1 := by
    intro d hd
    have hline : t.pieces[d.1]? = some (d.2 ++ []) := by rw [getElem?_of_mem_directives hp hd, List.append_nil]
    obtain ⟨h1, h2⟩ := holds_of_getElem? (tightEnd_of_mem hg hd) (by simp) hline
    exact ⟨h1, by simp [h2]⟩
  obtain ⟨hi, hd, he⟩ := reads_of_holds hg hholds
  have hifndef : firstLine? (macroAfter? "#ifndef") (lineTails t) = some (0, g) :=
    (firstLine?_lineTails rfl).2 ⟨hi, fun m hm => absurd hm (Nat.not_lt_zero m)⟩
  have hdefine : firstLine? (macroAfter? "#define") (lineTails t) = some (1, g) := by
    refine (firstLine?_lineTails rfl).2 ⟨hd, fun m hm => ?_⟩
    obtain rfl : m = 0 := Nat.lt_one_iff.1 hm
    exact eq_none_of_prefix prefix_of_macroAfter? (prefix_of_macroAfter? hi) (by decide) (by decide)
  have hblock : firstLine? endifBlock? (lineTails t) = none := by
    refine (firstLine?_lineTails_eq_none rfl).2 fun n => ?_
    rw [Option.eq_none_iff_forall_ne_some]
    intro name hname
    obtain rfl := eq_of_endifKey_prefix hp hfront (prefix_of_endifBlock? hname)
    obtain ⟨rest, hfrom, -⟩ := (hholds _ endif_mem).1.fromLine
    rw [hfrom, endifBlock?_endifText] at hname
    cases hname
  have hline : firstLine? endifLine? (lineTails t) = some (front.length + 2, g) := by
    refine (firstLine?_lineTails rfl).2 ⟨he, fun m hm => ?_⟩
    rw [Option.eq_none_iff_forall_ne_some]
    intro name hname
    have := eq_of_endifKey_prefix hp hfront (prefix_of_endifLine? hname)
    omega
  have hclosing : closing? (lineTails t) = some (front.length + 2, some g) := by
    rw [closing?, hblock, hline]
  have hfound : find? t = some ⟨0, 1, front.length + 2⟩ :=
    find?_eq_some_iff.2 ⟨g, some g, hifndef, hdefine, hclosing, by simp, by simp, by simp⟩
  exact ⟨hfound, hifndef, hdefine, hclosing, fun d => getElem?_of_mem_directives hp,
    (edited?_amend_eq_self_iff hfound hg.newline_notMem).2 fun d hd => (hholds d hd).1⟩

end Written

end HeaderGuard

/-! ## New headers -/

namespace NewFile

open HeaderGuard

variable {name : Text} {ts : Templates}

/-- The name of a class, the extension and the templates with which its header gets a guard of its own. -/
structure Guardable (name : Text) (ts : Templates) : Prop where
  name_ne : name ≠ []
  name_plain : ∀ c ∈ name, IsPlain c
  extension : ∃ ext, ts.headerExtension = '.' :: ext ∧ ∀ c ∈ ext, IsPlain c
  pattern : Word ts.guardPattern
  body : ∀ l ∈ (ts.classTemplate.replace classPlaceholder name).pieces, ¬ endifKey <+: l

theorem pieces_headerText {g : Text} (h : nameOf name ts.guardPattern = g) (hg : '\n' ∉ g) :
    (headerText name ts).pieces = ifndefText g :: defineText g ::
      ((ts.classTemplate.replace classPlaceholder name).pieces ++ [endifText g, []]) := by
  have htext : headerText name ts = ifndefText g ++ '\n' :: (defineText g ++ '\n' ::
      (ts.classTemplate.replace classPlaceholder name ++ '\n' :: (endifText g ++ '\n' :: []))) := by
    have hbreak : "\n".toList = ['\n'] := rfl
    simp [headerText, h, hbreak]
  have hline (d : Nat × Text) (hd : d ∈ (⟨0, 1, 2⟩ : Lines).directives g) : pieces d.2 = [d.2] :=
    splitOn_of_notMem (newline_notMem_directives hg d hd)
  simp only [htext, pieces_append_newline, hline _ ifndef_mem, hline _ define_mem, hline _ endif_mem, pieces_nil,
    List.singleton_append]

namespace Guardable

theorem word_guard (h : Guardable name ts) : Word (nameOf name ts.guardPattern) :=
  word_nameOf (by rw [stem_baseName h.name_plain]; exact h.name_ne) h.pattern

theorem nameOf_file (h : Guardable name ts) :
    nameOf (name ++ ts.headerExtension) ts.guardPattern = nameOf name ts.guardPattern := by
  obtain ⟨ext, hext, hplain⟩ := h.extension
  rw [hext, nameOf_append h.name_ne h.name_plain hplain]

/-- The file has the name of the class with the extension. -/
theorem fileNameText? (h : Guardable name ts) (tree : FileTree) (dir : Path) :
    (header tree dir name ts).path.fileNameText? = some (name ++ ts.headerExtension) := by
  obtain ⟨ext, hext, hplain⟩ := h.extension
  have hslash : '/' ∉ name ++ '.' :: ext := notMem_file h.name_plain hplain (by decide) (by decide)
  obtain ⟨c, rest, rfl⟩ := List.exists_cons_of_ne_nil h.name_ne
  show (dir.join (.ofText (c :: rest ++ ts.headerExtension))).fileNameText? = _
  rw [hext]
  exact Path.fileNameText?_join (Path.isStep_toUnits hslash (h.name_plain c (by simp)).2.1) dir

end Guardable

/-- **A new header is guarded**, by the macro of its file. -/
theorem Guardable.stands (h : Guardable name ts) : Stands (headerText name ts) (nameOf name ts.guardPattern)
    ⟨0, 1, (ts.classTemplate.replace classPlaceholder name).pieces.length + 2⟩ :=
  .of_pieces (pieces_headerText rfl h.word_guard.newline_notMem) h.word_guard h.body

end NewFile

/-! ## Notifications about a new header -/

namespace Session

open HeaderGuard

variable {s : Session} {w : Workspace} {u : Url} {path : Path} {file text text' t : Text} {files : List Text}

/-- The entry of a notification names a file with this name, and the file has this text. -/
def NamesFile (w : Workspace) (file text t : Text) : Prop :=
  ∃ u path, Url.parse? t = some u ∧ u.filePath? = some path ∧ path.fileNameText? = some file ∧ HasText w u path text

/-- When the file is a header, the name and the text of the header are those of the file. -/
theorem NamesFile.of_namesHeader (h : NamesFile w file text t) (hu : Url.parse? t = some u)
    (hheader : NamesHeader w u path text') : text' = text ∧ path.fileNameText? = some file := by
  obtain ⟨u', path', hu', hpath', hfile, htext⟩ := h
  obtain rfl := Option.some.inj (hu.symm.trans hu')
  obtain rfl := Option.some.inj (hheader.filePath.symm.trans hpath')
  have hsame := (currentText?_eq_some_iff.2 hheader.hasText).symm.trans (currentText?_eq_some_iff.2 htext)
  exact ⟨Option.some.inj hsame, hfile⟩

/-- Files that have a guard get no other one. -/
theorem guardMessages_created (hfound : (HeaderGuard.find? text).isSome) (h : ∀ t ∈ files, NamesFile w file text t) :
    guardMessages w (createdEdits? w) files = [] := by
  have hnone : files.filterMap (createdEdits? w) = [] := by
    rw [List.filterMap_eq_nil_iff]
    intro t ht
    rw [Option.eq_none_iff_forall_ne_some]
    rintro ⟨u, es⟩ hedits
    obtain ⟨hu, path, text', hheader, hfind, -⟩ := createdEdits?_eq_some_iff.1 hedits
    obtain ⟨rfl, -⟩ := (h t ht).of_namesHeader hu hheader
    rw [hfind] at hfound
    cases hfound
  rw [guardMessages]
  simp [hnone]

/-- Files that are renamed get the macro of their name. -/
theorem exists_of_mem_guardMessages {m : ClientMessage} (h : ∀ t ∈ files, NamesFile w file text t)
    (hm : m ∈ guardMessages w (renamedEdits? w) files) : ∃ changes, m = .applyEdits changes ∧
      ∀ change ∈ changes, change.2 = amend text (nameOf file w.settings.templates.guardPattern) := by
  unfold guardMessages at hm
  split at hm
  · dsimp only at hm
    split at hm
    · cases hm
    · refine ⟨_, List.mem_singleton.1 hm, fun ⟨u, es⟩ hchange => ?_⟩
      obtain ⟨t, ht, hedits⟩ := List.mem_filterMap.1 hchange
      obtain ⟨hu, path, text', hheader, rfl⟩ := renamedEdits?_eq_some_iff.1 hedits
      obtain ⟨rfl, hfile⟩ := (h t ht).of_namesHeader hu hheader
      rw [macroFor, hfile]
      rfl
  · cases hm

theorem notify_of_not_running (h : s.phase ≠ .running) (method : Text) (params : Option Json) :
    s.notify method params = (s, []) := by
  rw [notify, if_neg h]

/-- A notification about files that hold their own guard leaves them as they are. -/
theorem notify_of_stands {guard : Text} {lines : Lines} (hstands : Stands text guard lines)
    (hguard : guard = nameOf file s.workspace.settings.templates.guardPattern)
    (h : ∀ t ∈ files, NamesFile s.workspace file text t) (note : Json) :
    (decodeCreated note = .ok files → s.notify "workspace/didCreateFiles" (some note) = (s, [])) ∧
    (decodeRenamed note = .ok files → ∃ messages, s.notify "workspace/didRenameFiles" (some note) = (s, messages) ∧
      ∀ m ∈ messages, ∃ changes, m = .applyEdits changes ∧ ∀ change ∈ changes, text.edited? change.2 = some text) := by
  by_cases hrun : s.phase = .running
  · refine ⟨fun hread => ?_, fun hread => ?_⟩
    · rw [notify_created hrun note files hread, guardMessages_created (by rw [hstands.found]; rfl) h]
    · refine ⟨_, notify_renamed hrun note files hread, fun m hm => ?_⟩
      obtain ⟨changes, rfl, hedits⟩ := exists_of_mem_guardMessages h hm
      refine ⟨changes, rfl, fun change hchange => ?_⟩
      rw [hedits change hchange, ← hguard]
      exact hstands.amended
  · exact ⟨fun _ => notify_of_not_running hrun .., fun _ => ⟨[], notify_of_not_running hrun .., by simp⟩⟩

end Session

/-- **A new header is guarded already**: its guard is found around the template, it has the macro of the file
name, and neither the amending of the guard nor a notification about the file changes the header. -/
theorem NewFile.header_stands (tree : FileTree) (dir : Path) (name : Text) (ts : Templates) (h : Guardable name ts) :
    let f := header tree dir name ts
    let file := name ++ ts.headerExtension
    let guard := HeaderGuard.nameOf file ts.guardPattern
    f.path.fileNameText? = some file ∧
    HeaderGuard.Stands f.content guard ⟨0, 1, (ts.classTemplate.replace classPlaceholder name).pieces.length + 2⟩ ∧
    ∀ (s : Session) (files : List Text) (note : Json), s.workspace.settings.templates.guardPattern = ts.guardPattern →
      (∀ t ∈ files, Session.NamesFile s.workspace file f.content t) →
      (decodeCreated note = .ok files → s.notify "workspace/didCreateFiles" (some note) = (s, [])) ∧
      (decodeRenamed note = .ok files →
        ∃ messages, s.notify "workspace/didRenameFiles" (some note) = (s, messages) ∧ ∀ m ∈ messages,
          ∃ changes, m = .applyEdits changes ∧ ∀ change ∈ changes, f.content.edited? change.2 = some f.content) := by
  intro f file guard
  have hguard : guard = HeaderGuard.nameOf name ts.guardPattern := h.nameOf_file
  have hstands : HeaderGuard.Stands f.content guard
      ⟨0, 1, (ts.classTemplate.replace classPlaceholder name).pieces.length + 2⟩ := hguard ▸ h.stands
  refine ⟨h.fileNameText? tree dir, hstands, fun s files note hpattern hfiles => ?_⟩
  exact Session.notify_of_stands hstands (by rw [hpattern]) hfiles note

def Templates.conditional : Templates :=
  { Templates.usual with classTemplate := "#ifndef $\x7bclassName\x7d_ABI\n#define $\x7bclassName\x7d_ABI 1\nclass $\x7bclassName\x7d;\n//#endif\n" }

/-- A session with a new header on the disk. -/
def Session.scaffolded : Session where
  phase := .running
  workspace :=
    { settings := { Settings.usual with autoCreateHeaderGuard := true }
      documents := .empty, roots := []
      files := { root := .dir [(Text.toUnits "Foo.hpp", .file (some (NewFile.headerText "Foo" .conditional)))] } }

theorem NewFile.header_stands_conditional :
    let f := header { root := .dir [] } (.ofText "/") "Foo" .conditional
    Guardable "Foo" .conditional ∧ f.path.fileNameText? = some "Foo.hpp" ∧
    HeaderGuard.find? f.content = some ⟨0, 1, 7⟩ ∧ f.content.edited? (HeaderGuard.amend f.content "FOO_H") = some f.content ∧
    Session.scaffolded.notify "workspace/didCreateFiles" (some (Session.createdNote ["file:///Foo.hpp"])) =
      (Session.scaffolded, []) := by
  intro f
  have h : Guardable "Foo" .conditional :=
    { name_ne := by decide
      name_plain := List.all_iff_forall_prop.1 (by decide)
      extension := ⟨"hpp", by decide, List.all_iff_forall_prop.1 (by decide)⟩
      pattern := ⟨by decide, List.all_iff_forall_prop.1 (by decide)⟩
      body := by decide }
  obtain ⟨hfile, hstands, hquiet⟩ := header_stands { root := .dir [] } (.ofText "/") "Foo" .conditional h
  have hnames : ∀ t ∈ ["file:///Foo.hpp".toList], Session.NamesFile Session.scaffolded.workspace "Foo.hpp" f.content t := by
    rw [List.forall_mem_singleton]
    refine ⟨⟨"file", some {}, "/Foo.hpp", none, none⟩, .ofText "/Foo.hpp", by decide +kernel, by decide +kernel,
      by decide +kernel, ?_⟩
    show Session.scaffolded.workspace.files.read _ = .ok _
    decide +kernel
  have hcreated := (hquiet Session.scaffolded _ _ rfl hnames).1 (Session.decodeCreated_createdNote _)
  exact ⟨h, hfile, hstands.found, hstands.amended, hcreated⟩

end Classwright
