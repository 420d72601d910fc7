import Mathlib.Data.List.Induction
import Mathlib.Data.List.Nodup
import Mathlib.Data.List.Perm.Basic
import Mathlib.Tactic.Common
import Classwright.Document.Basic
/-!
# Histories of open documents

Each operation on the store of open documents is about one of them. What the store holds under a URL
is what the operations on that URL lead to, in their order and without any other (`get?_run`); so
histories of different documents can be interleaved in any way. Nothing is left of what was before a
document was opened anew, or of changes to a document that was not open (`histories_independent`).
-/
namespace Classwright.DocumentStore

inductive Operation where
  | openNew (u : Url) (languageId text : Text) (version : Int)
  | change (u : Url) (changes : List Change) (version : Int)
  | close (u : Url)

namespace Operation

def url : Operation → Url
  | openNew u .. | change u .. | close u => u

/-- What the operation makes of the document under its URL; there is none when it is not open. -/
def onDocument (d : Option Document) : Operation → Option Document
  | openNew _ languageId text version => some (.new languageId text version)
  | change _ changes version => d.map (·.applyChanges changes version)
  | close _ => none

end Operation

def step (s : DocumentStore) : Operation → DocumentStore
  | .openNew u languageId text version => s.openNew u languageId text version
  | .change u changes version => s.change u changes version
  | .close u => s.close u

/-- The store after operations, from the first to the last. -/
def run (s : DocumentStore) (ops : List Operation) : DocumentStore := ops.foldl step s

/-- The document was opened and not closed since. -/
def IsOpen (ops : List Operation) (u : Url) : Prop :=
  ∃ before languageId text version after,
    ops = before ++ .openNew u languageId text version :: after ∧ .close u ∉ after

variable {s s' : DocumentStore} {op : Operation} {ops ops' : List Operation} {u v : Url} {d : Document}

/-! ## One operation -/

theorem get?_close (s : DocumentStore) (u v : Url) : (s.close u).get? v = if v = u then none else s.get? v := by
  unfold get? close
  induction s.entries with
  | nil => simp
  | cons e es ih =>
    obtain ⟨k, d⟩ := e
    by_cases hk : k = u
    · subst hk
      rw [List.filter_cons_of_neg (by simp), ih]
      by_cases hv : v = k
      · simp [hv]
      · simp [hv, List.lookup_cons, beq_eq_false_iff_ne.2 hv]
    · rw [List.filter_cons_of_pos (by simpa using hk), List.lookup_cons, List.lookup_cons, ih]
      by_cases hv : v = k
      · subst hv
        simp [hk]
      · simp [beq_eq_false_iff_ne.2 hv]

theorem get?_insert (s : DocumentStore) (u v : Url) (d : Document) :
    (s.insert u d).get? v = if v = u then some d else s.get? v := by
  show ((u, d) :: (s.close u).entries).lookup v = _
  rw [List.lookup_cons]
  by_cases h : v = u
  · simp [h]
  · have hclose := get?_close s u v
    rw [if_neg h] at hclose ⊢
    rw [beq_eq_false_iff_ne.2 h]
    exact hclose

/-- An operation does to its own document what `onDocument` says, and nothing to any other. -/
theorem get?_step (s : DocumentStore) (op : Operation) (v : Url) :
    (s.step op).get? v = if op.url = v then op.onDocument (s.get? v) else s.get? v := by
  cases op with
  | openNew u languageId text version =>
    show (s.insert u _).get? v = _
    rw [get?_insert]
    simp [Operation.url, Operation.onDocument, eq_comm]
  | close u =>
    show (s.close u).get? v = _
    rw [get?_close]
    simp [Operation.url, Operation.onDocument, eq_comm]
  | change u changes version =>
    simp only [step, change, Operation.url, Operation.onDocument]
    by_cases h : u = v
    · subst h
      cases hd : s.get? u with
      | none => simp [hd]
      | some d => simp [get?_insert]
    · cases s.get? u with
      | none => simp [h]
      | some d => simp [get?_insert, h, Ne.symm h]

/-- A change of a document that is not open leaves the store as it is. -/
theorem step_change_of_none (h : s.get? u = none) (changes : List Change) (version : Int) :
    s.step (.change u changes version) = s := by
  simp [step, change, h]

/-! ## Histories -/

theorem run_append (s : DocumentStore) (ops ops' : List Operation) : s.run (ops ++ ops') = (s.run ops).run ops' :=
  List.foldl_append

/-- **The history of one document.** Under a URL stands what the operations on it lead to. -/
theorem get?_run (s : DocumentStore) (ops : List Operation) (u : Url) :
    (s.run ops).get? u = (ops.filter (·.url = u)).foldl Operation.onDocument (s.get? u) := by
  unfold run
  induction ops generalizing s with
  | nil => rfl
  | cons op ops ih =>
    rw [List.foldl_cons, ih, get?_step]
    by_cases h : op.url = u
    · simp [h]
    · simp [h]

theorem get?_run_filter (s : DocumentStore) (ops : List Operation) (u : Url) :
    (s.run ops).get? u = (s.run (ops.filter (·.url = u))).get? u := by
  rw [get?_run, get?_run, List.filter_filter]
  simp

/-- What was before a document is opened does not count. -/
theorem get?_run_openNew (s s' : DocumentStore) (u : Url) (languageId text : Text) (version : Int) (ops : List Operation) :
    (s.run (.openNew u languageId text version :: ops)).get? u = (s'.run (.openNew u languageId text version :: ops)).get? u := by
  rw [get?_run, get?_run]
  simp [Operation.url, Operation.onDocument]

theorem isOpen_concat_iff :
    IsOpen (ops ++ [op]) u ↔ (∃ languageId text version, op = .openNew u languageId text version) ∨ (IsOpen ops u ∧ op ≠ .close u) := by
  constructor
  · rintro ⟨before, languageId, text, version, after, h, ha⟩
    rcases List.eq_nil_or_concat after with rfl | ⟨after, last, rfl⟩
    · exact Or.inl ⟨languageId, text, version, List.singleton_inj.1 (List.append_inj' h rfl).2⟩
    · rw [List.concat_eq_append, ← List.cons_append, ← List.append_assoc] at h
      obtain ⟨rfl, hop⟩ := List.append_inj' h rfl
      obtain rfl := List.singleton_inj.1 hop
      refine Or.inr ⟨⟨before, languageId, text, version, after, rfl, fun hm => ha (by simp [hm])⟩, ?_⟩
      rintro rfl
      simp at ha
  · rintro (⟨languageId, text, version, rfl⟩ | ⟨⟨before, languageId, text, version, after, rfl, ha⟩, hop⟩)
    · exact ⟨ops, languageId, text, version, [], rfl, by simp⟩
    · exact ⟨before, languageId, text, version, after ++ [op], by simp, by simpa [ha] using Ne.symm hop⟩

theorem isSome_get?_step_iff : ((s.step op).get? u).isSome = true ↔
    (∃ languageId text version, op = .openNew u languageId text version) ∨ ((s.get? u).isSome = true ∧ op ≠ .close u) := by
  rw [get?_step]
  cases op with
  | openNew w languageId text version => by_cases h : w = u <;> simp [Operation.url, Operation.onDocument, h]
  | change w changes version => by_cases h : w = u <;> simp [Operation.url, Operation.onDocument, h]
  | close w => by_cases h : w = u <;> simp [Operation.url, Operation.onDocument, h]

/-- A document is in the store when it was opened and not closed since. -/
theorem isSome_get?_run_iff (ops : List Operation) (u : Url) : ((empty.run ops).get? u).isSome = true ↔ IsOpen ops u := by
  induction ops using List.reverseRecOn with
  | nil =>
    constructor
    · intro h
      cases h
    · rintro ⟨before, languageId, text, version, after, h, -⟩
      simp at h
  | append_singleton ops op ih =>
    rw [isOpen_concat_iff, ← ih, ← isSome_get?_step_iff, run_append]
    rfl

/-! ## Stores with the same documents -/

/-- Each URL has one entry. -/
def UniqueUrls (s : DocumentStore) : Prop := (s.entries.map (·.1)).Nodup

theorem uniqueUrls_empty : empty.UniqueUrls := List.nodup_nil

theorem uniqueUrls_close (h : s.UniqueUrls) (u : Url) : (s.close u).UniqueUrls :=
  h.sublist (List.filter_sublist.map _)

theorem uniqueUrls_insert (h : s.UniqueUrls) (u : Url) (d : Document) : (s.insert u d).UniqueUrls := by
  refine List.nodup_cons.2 ⟨?_, uniqueUrls_close h u⟩
  simp [close]

theorem uniqueUrls_step (h : s.UniqueUrls) (op : Operation) : (s.step op).UniqueUrls := by
  cases op with
  | openNew u languageId text version => exact uniqueUrls_insert h u _
  | close u => exact uniqueUrls_close h u
  | change u changes version =>
    simp only [step, change]
    cases s.get? u with
    | none => exact h
    | some d => exact uniqueUrls_insert h u _

theorem uniqueUrls_run (h : s.UniqueUrls) (ops : List Operation) : (s.run ops).UniqueUrls := by
  unfold run
  induction ops generalizing s with
  | nil => exact h
  | cons op ops ih => exact ih (uniqueUrls_step h op)

theorem mem_entries_iff (h : s.UniqueUrls) : (u, d) ∈ s.entries ↔ s.get? u = some d := by
  obtain ⟨es⟩ := s
  unfold UniqueUrls at h
  unfold get?
  simp only at h ⊢
  induction es with
  | nil => simp
  | cons e es ih =>
    obtain ⟨k, d'⟩ := e
    simp only [List.map_cons, List.nodup_cons] at h
    rw [List.mem_cons, List.lookup_cons, ih h.2]
    by_cases hu : u = k
    · subst hu
      have hn : es.lookup u = none := by
        rw [List.lookup_eq_none_iff]
        intro e he
        simp only [bne_iff_ne]
        rintro rfl
        exact h.1 (List.mem_map_of_mem he)
      simp [hn, eq_comm]
    · simp [hu, beq_eq_false_iff_ne.2 hu]

/-- Stores that hold the same documents have the same entries, in whatever order. -/
theorem perm_entries (h : s.UniqueUrls) (h' : s'.UniqueUrls) (hget : ∀ u, s.get? u = s'.get? u) :
    s.entries.Perm s'.entries := by
  rw [List.perm_ext_iff_of_nodup (List.Nodup.of_map _ h) (List.Nodup.of_map _ h')]
  rintro ⟨u, d⟩
  rw [mem_entries_iff h, mem_entries_iff h', hget]

/-- **Histories of different documents are independent.** Under a URL stands what the operations on
that URL alone lead to. Two ways to interleave the same histories lead to the same store. A change of
a document that is not open is as if it had not been, whatever comes later. A document that is opened
has nothing of what was before under its URL. -/
theorem histories_independent (s : DocumentStore) (ops : List Operation) (u : Url) :
    (s.run ops).get? u = (s.run (ops.filter (·.url = u))).get? u ∧
    (∀ ops', (∀ v, ops.filter (·.url = v) = ops'.filter (·.url = v)) →
      (∀ v, (s.run ops).get? v = (s.run ops').get? v) ∧ (empty.run ops).entries.Perm (empty.run ops').entries) ∧
    (¬ IsOpen ops u → ∀ changes version later,
      empty.run (ops ++ .change u changes version :: later) = empty.run (ops ++ later)) ∧
    ∀ languageId text version later,
      (s.run (ops ++ [.openNew u languageId text version])).get? u = some (.new languageId text version) ∧
      (s.run (ops ++ .openNew u languageId text version :: later)).get? u =
        (empty.run (.openNew u languageId text version :: later)).get? u := by
  refine ⟨get?_run_filter s ops u, ?_, ?_, ?_⟩
  · intro ops' h
    have hget : ∀ (s : DocumentStore) (v : Url), (s.run ops).get? v = (s.run ops').get? v := by
      intro s v
      rw [get?_run, get?_run, h v]
    exact ⟨hget s, perm_entries (uniqueUrls_run uniqueUrls_empty ops) (uniqueUrls_run uniqueUrls_empty ops') (hget empty)⟩
  · intro h changes version later
    have hnone : (empty.run ops).get? u = none := by
      rw [← isSome_get?_run_iff] at h
      simpa using h
    rw [run_append, run_append]
    show ((empty.run ops).step (.change u changes version)).run later = (empty.run ops).run later
    rw [step_change_of_none hnone]
  · intro languageId text version later
    constructor
    · rw [run_append]
      show ((s.run ops).step (.openNew u languageId text version)).get? u = _
      rw [get?_step, Operation.url, if_pos rfl, Operation.onDocument]
    · rw [run_append]
      exact get?_run_openNew _ _ u languageId text version later

/-- A header that stays open, and a log that is closed and then still changed. -/
def headerUrl : Url := ⟨"file", some {}, "/a.h", none, none⟩

def logUrl : Url := ⟨"file", some {}, "/build.log", none, none⟩

theorem histories_independent_reopened :
    let ops : List Operation := [.openNew headerUrl "cpp" "int a;" 1, .openNew logUrl "Log" "one\n" 1,
      .change headerUrl [⟨some ⟨⟨0, 4⟩, ⟨0, 5⟩⟩, "b"⟩] 2, .close logUrl]
    let ops' : List Operation := [.openNew logUrl "Log" "one\n" 1, .close logUrl, .openNew headerUrl "cpp" "int a;" 1,
      .change headerUrl [⟨some ⟨⟨0, 4⟩, ⟨0, 5⟩⟩, "b"⟩] 2]
    (∀ v, ops.filter (·.url = v) = ops'.filter (·.url = v)) ∧ ¬ IsOpen ops logUrl ∧
      (empty.run ops).entries.Perm (empty.run ops').entries ∧
      ((empty.run ops).get? headerUrl).map (·.text) = some "int b;".toList ∧
      empty.run (ops ++ [.change logUrl [⟨none, "two\n"⟩] 5, .openNew logUrl "cpp" "" 1]) =
        empty.run (ops ++ [.openNew logUrl "cpp" "" 1]) ∧
      ((empty.run (ops ++ [.openNew logUrl "cpp" "" 1])).get? logUrl) = some (.new "cpp" "" 1) := by
  intro ops ops'
  have hsame : ∀ v, ops.filter (·.url = v) = ops'.filter (·.url = v) := by
    intro v
    by_cases hh : headerUrl = v
    · subst hh
      rfl
    · by_cases hl : logUrl = v
      · subst hl
        rfl
      · simp [ops, ops', Operation.url, hh, hl]
  have hclosed : ¬ IsOpen ops logUrl := by
    rw [← isSome_get?_run_iff]
    decide
  obtain ⟨-, hperm, hlost, hnew⟩ := histories_independent empty ops logUrl
  obtain ⟨hheader, -⟩ := histories_independent empty ops headerUrl
  exact ⟨hsame, hclosed, (hperm ops' hsame).2, by rw [hheader]; decide, hlost hclosed _ 5 _, (hnew "cpp" "" 1 []).1⟩

end Classwright.DocumentStore
