import Classwright.Proofs.Text.Search
import Classwright.Proofs.Text.Trim
import Classwright.Settings.Basic
/-!
# Normal forms of single settings

Each value that settings hold is tidied on its own: a list is trimmed and made distinct, a blank text
gives way to its default, an extension gets its dot, and what is of no use is left out. Tidying a
value twice changes nothing more.
-/
namespace Classwright.Settings

variable {usual t : Text} {ts : List Text}

/-! ## Texts -/

theorem orUsual_of_not_blank (h : t.isBlank = false) : orUsual usual t = t := by
  rw [orUsual, if_neg (by simp [h])]

theorem not_blank_orUsual (hu : usual.isBlank = false) (t : Text) : (orUsual usual t).isBlank = false := by
  unfold orUsual
  split
  · exact hu
  · next h => simpa using h

theorem orUsual_orUsual (hu : usual.isBlank = false) (t : Text) : orUsual usual (orUsual usual t) = orUsual usual t :=
  orUsual_of_not_blank (not_blank_orUsual hu t)

/-- A text is kept when something else than white space is in it. -/
theorem orUsual_eq_self_iff (hu : usual.isBlank = false) : orUsual usual t = t ↔ ∃ c ∈ t, Text.isBlankChar c = false := by
  have hblank : t.isBlank = false ↔ ∃ c ∈ t, Text.isBlankChar c = false := by
    simp [Text.isBlank, List.all_eq_false]
  rw [← hblank]
  constructor
  · intro h
    rw [← h]
    exact not_blank_orUsual hu t
  · exact orUsual_of_not_blank

theorem exists_dotted (t : Text) : ∃ rest, dotted t = '.' :: rest := by
  unfold dotted
  split
  · next h =>
    obtain ⟨rest, hr⟩ := Text.startsWith_iff.1 h
    exact ⟨rest, hr.symm⟩
  · exact ⟨t, rfl⟩

theorem dotted_cons (rest : Text) : dotted ('.' :: rest) = '.' :: rest := by
  rw [dotted, if_pos]
  exact Text.startsWith_iff.2 ⟨rest, rfl⟩

/-- An extension with its dot is neither blank nor without a dot. -/
theorem dotted_orUsual_dotted (usual t : Text) : dotted (orUsual usual (dotted t)) = dotted t := by
  obtain ⟨rest, hr⟩ := exists_dotted t
  have hb : (dotted t).isBlank = false := by rw [hr]; rfl
  rw [orUsual_of_not_blank hb, hr, dotted_cons]

theorem dotted_orUsual_eq_self_iff : dotted (orUsual usual t) = t ↔ ∃ rest, t = '.' :: rest := by
  constructor
  · intro h
    rw [← h]
    exact exists_dotted _
  · rintro ⟨rest, rfl⟩
    rw [← dotted_cons]
    exact dotted_orUsual_dotted usual _

/-! ## Lists of texts -/

theorem mem_distinct : t ∈ distinct ts ↔ t ∈ ts := by
  induction ts with
  | nil => rfl
  | cons u ts ih =>
    simp only [distinct, List.mem_cons, List.mem_filter, ih, decide_eq_true_eq]
    by_cases h : t = u <;> simp [h]

theorem nodup_distinct (ts : List Text) : (distinct ts).Nodup := by
  induction ts with
  | nil => exact List.nodup_nil
  | cons u ts ih =>
    rw [distinct, List.nodup_cons]
    exact ⟨by simp, ih.filter _⟩

theorem distinct_of_nodup (h : ts.Nodup) : distinct ts = ts := by
  induction ts with
  | nil => rfl
  | cons u ts ih =>
    obtain ⟨hu, ht⟩ := List.nodup_cons.1 h
    rw [distinct, ih ht, List.filter_eq_self.2]
    rintro v hv
    simpa using ne_of_mem_of_not_mem hv hu

theorem mem_tidyList (h : t ∈ tidyList ts) : t.trim = t ∧ t ≠ [] := by
  rw [tidyList, mem_distinct, List.mem_filter, List.mem_map] at h
  obtain ⟨⟨u, -, rfl⟩, hne⟩ := h
  exact ⟨u.trim_trim, by simpa using hne⟩

theorem tidyList_tidyList (ts : List Text) : tidyList (tidyList ts) = tidyList ts := by
  have hmap : (tidyList ts).map Text.trim = tidyList ts :=
    (List.map_congr_left fun t ht => (mem_tidyList ht).1).trans (List.map_id' _)
  have hfilter : (tidyList ts).filter (!·.isEmpty) = tidyList ts :=
    List.filter_eq_self.2 fun t ht => by simpa using (mem_tidyList ht).2
  rw [tidyList, hmap, hfilter]
  exact distinct_of_nodup (nodup_distinct _)

/-- A list is kept when its texts are tight at both ends, so that they are not empty, and distinct. -/
theorem tidyList_eq_self_iff : tidyList ts = ts ↔ (∀ t ∈ ts, Text.TightStart t ∧ Text.TightEnd t) ∧ ts.Nodup := by
  constructor
  · intro h
    refine ⟨fun t ht => ?_, ?_⟩
    · rw [← h] at ht
      obtain ⟨htrim, hne⟩ := mem_tidyList ht
      exact ⟨Text.tightStart_of_trim htrim hne, Text.tightEnd_of_trim htrim hne⟩
    · rw [← h]
      exact nodup_distinct _
  · rintro ⟨htight, hnodup⟩
    have hmap : ts.map Text.trim = ts :=
      (List.map_congr_left fun t ht => Text.trim_of_tight (htight t ht).1 (htight t ht).2).trans (List.map_id' ts)
    have hfilter : ts.filter (!·.isEmpty) = ts :=
      List.filter_eq_self.2 fun t ht => by simpa using (htight t ht).2.ne_nil
    rw [tidyList, hmap, hfilter]
    exact distinct_of_nodup hnodup

/-! ## Mappings and rules -/

theorem tidyMappings_usual : tidyMappings ExtensionMapping.usual = ExtensionMapping.usual := rfl

theorem tidyMappings_tidyMappings (ms : List ExtensionMapping) : tidyMappings (tidyMappings ms) = tidyMappings ms := by
  cases hu : (ms.filter fun m => !m.header.isEmpty && !m.source.isEmpty).isEmpty with
  | true =>
    have h : tidyMappings ms = ExtensionMapping.usual := by simp only [tidyMappings, hu, if_true]
    rw [h, tidyMappings_usual]
  | false =>
    have h : tidyMappings ms = ms.filter fun m => !m.header.isEmpty && !m.source.isEmpty := by
      simp only [tidyMappings, hu, Bool.false_eq_true, if_false]
    rw [h, tidyMappings]
    simp only [List.filter_filter, Bool.and_self, hu, Bool.false_eq_true, if_false]

theorem tidyRules_tidyRules (rules : List StripRule) : tidyRules (tidyRules rules) = tidyRules rules := by
  simp only [tidyRules, List.filter_filter, Bool.and_self]

theorem tidyMappings_eq_self_iff {ms : List ExtensionMapping} :
    tidyMappings ms = ms ↔ ms ≠ [] ∧ ∀ m ∈ ms, m.header ≠ [] ∧ m.source ≠ [] := by
  have huseful : (ms.filter fun m => !m.header.isEmpty && !m.source.isEmpty) = ms ↔
      ∀ m ∈ ms, m.header ≠ [] ∧ m.source ≠ [] := by
    simp [List.filter_eq_self]
  rw [← huseful, tidyMappings]
  by_cases h : (ms.filter fun m => !m.header.isEmpty && !m.source.isEmpty) = []
  · -- the default mappings are useful themselves, so they are not what was left out
    rw [h, List.isEmpty_nil, if_pos rfl]
    constructor
    · rintro rfl
      exact absurd h (by decide)
    · rintro ⟨hne, rfl⟩
      exact absurd rfl hne
  · rw [if_neg (by simpa using h)]
    constructor
    · intro hms
      exact ⟨by rwa [hms] at h, hms⟩
    · exact And.right

theorem tidyRules_eq_self_iff {rules : List StripRule} : tidyRules rules = rules ↔ ∀ r ∈ rules, r.pattern ≠ [] := by
  simp [tidyRules, List.filter_eq_self]

end Classwright.Settings
