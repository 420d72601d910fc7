import Mathlib.Tactic.Common
import Classwright.BuildLog.Message
import Classwright.Proofs.Text.Lines
import Classwright.Proofs.Text.Search
/-!
# Builds in a log

A log holds the lines of builds one after the other, and what is put out for it are the messages of the
last one, `LastBuild`, in their order. A line that starts a build makes all lines before it count for
nothing (`foldl_step_of_lastBuild`), so a log can be condensed in pieces that are whole lines
(`ofLog_append`).
-/
namespace Classwright.BuildMessage

open Text

variable {ls build other : List Text} {line : Text}

def Starts (line : Text) : Prop := startMark <:+: line

instance : DecidablePred Starts := fun _ => decidable_of_iff _ has_iff

/-- The messages of some lines in their order, each on one line. -/
def messages (ls : List Text) : List Text := (ls.filterMap ofLine?).map render

/-- The lines behind the last one that starts a build, or all lines when no line does. -/
structure LastBuild (ls build : List Text) : Prop where
  started : ls = build ∨ ∃ front start, Starts start ∧ ls = front ++ start :: build
  notStarted : ∀ line ∈ build, ¬ Starts line

theorem messages_append (ls ms : List Text) : messages (ls ++ ms) = messages ls ++ messages ms := by
  simp [messages]

/-! ## One line more -/

theorem step_of_starts (h : Starts line) (sofar : List Text) : step sofar line = [] := by
  rw [step, if_pos (has_iff.2 h)]

theorem step_of_not_starts (h : ¬ Starts line) (sofar : List Text) : step sofar line = sofar ++ messages [line] := by
  rw [step, if_neg (mt has_iff.1 h)]
  cases hm : ofLine? line <;> simp [messages, hm]

/-! ## Many lines -/

theorem foldl_step_of_not_starts (h : ∀ line ∈ ls, ¬ Starts line) (sofar : List Text) :
    ls.foldl step sofar = sofar ++ messages ls := by
  induction ls generalizing sofar with
  | nil => simp [messages]
  | cons line ls ih =>
    have hrest : ∀ l ∈ ls, ¬ Starts l := fun l hl => h l (by simp [hl])
    rw [List.foldl_cons, step_of_not_starts (h line (by simp)), ih hrest, List.append_assoc, ← messages_append]
    rfl

/-- The last line that starts a build drops what was there, and the lines behind it add their messages. -/
theorem foldl_step_of_starts (h : ∃ line ∈ ls, Starts line) (hb : LastBuild ls build) (sofar : List Text) :
    ls.foldl step sofar = messages build := by
  rcases hb.started with rfl | ⟨front, start, hstart, rfl⟩
  · obtain ⟨line, hline, hs⟩ := h
    exact absurd hs (hb.notStarted line hline)
  · rw [List.foldl_append, List.foldl_cons, step_of_starts hstart, foldl_step_of_not_starts hb.notStarted,
      List.nil_append]

/-! ## The last build -/

theorem exists_lastBuild (ls : List Text) : ∃ build, LastBuild ls build := by
  induction ls with
  | nil => exact ⟨[], Or.inl rfl, by simp⟩
  | cons line ls ih =>
    obtain ⟨build, hstarted, hnot⟩ := ih
    rcases hstarted with rfl | ⟨front, start, hs, rfl⟩
    · -- no line behind this one starts a build
      by_cases hline : Starts line
      · exact ⟨ls, Or.inr ⟨[], line, hline, rfl⟩, hnot⟩
      · refine ⟨line :: ls, Or.inl rfl, ?_⟩
        simpa [hline] using hnot
    · exact ⟨build, Or.inr ⟨line :: front, start, hs, rfl⟩, hnot⟩

theorem LastBuild.isSuffix (h : LastBuild ls build) : build <:+ ls := by
  rcases h.started with rfl | ⟨front, start, -, rfl⟩
  · exact List.suffix_rfl
  · exact ⟨front ++ [start], by simp⟩

/-- What is behind a line that starts a build is not longer than the last build. -/
theorem LastBuild.length_le (h : LastBuild ls build) (ho : LastBuild ls other) : other.length ≤ build.length := by
  rcases h.started with rfl | ⟨front, start, hs, hls⟩
  · exact ho.isSuffix.length_le
  · by_contra hlt
    have hsuffix : start :: build <:+ other := by
      apply List.suffix_of_suffix_length_le ⟨front, hls.symm⟩ ho.isSuffix
      simp
      omega
    exact ho.notStarted start (hsuffix.subset (by simp)) hs

theorem LastBuild.unique (h : LastBuild ls build) (ho : LastBuild ls other) : other = build := by
  have hlength : other.length = build.length := Nat.le_antisymm (h.length_le ho) (ho.length_le h)
  obtain ⟨front, hfront⟩ := h.isSuffix
  obtain ⟨front', hfront'⟩ := ho.isSuffix
  exact (List.append_inj' (hfront'.trans hfront.symm) hlength).2

theorem ofLog_of_lastBuild {t : Text} (h : LastBuild t.lines build) : ofLog t = messages build := by
  by_cases hs : ∃ line ∈ t.lines, Starts line
  · exact foldl_step_of_starts hs h []
  · rcases h.started with heq | ⟨front, start, hstart, heq⟩
    · rw [ofLog, heq]
      exact foldl_step_of_not_starts h.notStarted []
    · exact absurd ⟨start, by simp [heq], hstart⟩ hs

/-- **A log can be condensed in pieces.** Behind a piece of whole lines, a piece in which a build starts
counts alone, and any other adds its own messages. So the messages of a log are those of the lines of its
last build, each once and in their order. -/
theorem ofLog_append :
    (∀ a b : Text, a = [] ∨ a.getLast? = some '\n' →
      ofLog (a ++ b) = if ∃ line ∈ b.lines, Starts line then ofLog b else ofLog a ++ ofLog b) ∧
    ∀ t : Text, ∃ build, LastBuild t.lines build ∧ (∀ other, LastBuild t.lines other → other = build) ∧
      ofLog t = messages build := by
  constructor
  · intro a b ha
    obtain ⟨build, hb⟩ := exists_lastBuild b.lines
    rw [ofLog, lines_append ha, List.foldl_append, ← ofLog]
    split
    · next hs => rw [foldl_step_of_starts hs hb, ofLog_of_lastBuild hb]
    · next hs =>
      have hnot : ∀ line ∈ b.lines, ¬ Starts line := fun line hline hstart => hs ⟨line, hline, hstart⟩
      have hown : ofLog b = messages b.lines := foldl_step_of_not_starts hnot []
      rw [foldl_step_of_not_starts hnot, hown]
  · intro t
    obtain ⟨build, hb⟩ := exists_lastBuild t.lines
    exact ⟨build, hb, fun other ho => hb.unique ho, ofLog_of_lastBuild hb⟩

/-- The end of a build, and a build that warns of one thing. -/
def oneBuild : Text := "[build] a:1:2: error: x\r\n[build] Starting build\r\n[build] b(7): warning : y\n"

def moreLines : Text := "[build] done\n[build] c:3:4: fatal error: z"

theorem ofLog_append_oneBuild : oneBuild.getLast? = some '\n' ∧
    ofLog (oneBuild ++ moreLines) = ["-[Warn] b(7) || : y", "-[Eror] c:3:4 || z"] ∧
    ofLog (oneBuild ++ oneBuild) = ["-[Warn] b(7) || : y"] := by
  have hwhole : oneBuild.getLast? = some '\n' := by decide
  have hwarning : messages ["[build] b(7): warning : y"] = ["-[Warn] b(7) || : y"] := by decide +kernel
  have herror : messages ["[build] done", "[build] c:3:4: fatal error: z"] = ["-[Eror] c:3:4 || z"] := by decide +kernel
  have hone : LastBuild oneBuild.lines ["[build] b(7): warning : y"] :=
    ⟨Or.inr ⟨["[build] a:1:2: error: x"], startMark, List.infix_rfl, by decide +kernel⟩, by decide +kernel⟩
  have hmore : LastBuild moreLines.lines ["[build] done", "[build] c:3:4: fatal error: z"] :=
    ⟨Or.inl (by decide +kernel), by decide +kernel⟩
  refine ⟨hwhole, ?_, ?_⟩
  · rw [ofLog_append.1 oneBuild moreLines (Or.inr hwhole), if_neg (by decide +kernel), ofLog_of_lastBuild hone,
      ofLog_of_lastBuild hmore, hwarning, herror]
    rfl
  · rw [ofLog_append.1 oneBuild oneBuild (Or.inr hwhole), if_pos (by decide +kernel), ofLog_of_lastBuild hone, hwarning]

end Classwright.BuildMessage
