import Classwright.Proofs.HeaderGuard.Directive
import Classwright.Proofs.Text.Crlf
/-!
# Line ends in a header

A guard is found on the same lines when each line feed of a text follows a carriage return
(`find?_crlf`): between the parts of a directive a carriage return is white space like the line feed
behind it, and at the end of a directive one carriage return may stand. So the edits for a guard are
the same (`create_crlf`, `amend_crlf`).
-/
namespace Classwright.HeaderGuard

open Text

variable {α : Type} {t key rest : Text} {read : Text → Option α}

/-- The same is read from both forms of a text. -/
def Insensitive (read : Text → Option α) : Prop := ∀ t, '\r' ∉ t → read t.crlf = read t

/-! ## Parts of a directive -/

theorem stripStart?_crlf (hn : '\n' ∉ key) (hr : '\r' ∉ key) (t : Text) :
    t.crlf.stripStart? key = (t.stripStart? key).map crlf := by
  induction key generalizing t with
  | nil =>
    have hnil : ∀ s : Text, s.stripStart? [] = some s := fun s => by cases s <;> rfl
    rw [hnil, hnil]
    rfl
  | cons k key ih =>
    obtain ⟨hkn, hn⟩ : k ≠ '\n' ∧ '\n' ∉ key := by simpa [eq_comm] using hn
    obtain ⟨hkr, hr⟩ : k ≠ '\r' ∧ '\r' ∉ key := by simpa [eq_comm] using hr
    cases t with
    | nil => rfl
    | cons c t =>
      by_cases hc : c = '\n'
      · subst hc
        simp [stripStart?, hkn, hkr]
      · rw [crlf_cons_of_ne hc, stripStart?, stripStart?]
        split
        · exact ih hn hr t
        · rfl

theorem dropWhile_crlf {p : Char → Bool} (h : p '\r' = p '\n') (t : Text) : t.crlf.dropWhile p = crlf (t.dropWhile p) := by
  induction t with
  | nil => rfl
  | cons c t ih =>
    by_cases hc : c = '\n'
    · subst hc
      cases hp : p '\n' with
      | true => rw [crlf_newline, List.dropWhile_cons_of_pos (h.trans hp), List.dropWhile_cons_of_pos hp,
          List.dropWhile_cons_of_pos hp, ih]
      | false => rw [crlf_newline, List.dropWhile_cons_of_neg (by simp [h, hp]), List.dropWhile_cons_of_neg (by simp [hp])]; rfl
    · rw [crlf_cons_of_ne hc]
      cases hp : p c with
      | true => rw [List.dropWhile_cons_of_pos hp, List.dropWhile_cons_of_pos hp, ih]
      | false => rw [List.dropWhile_cons_of_neg (by simp [hp]), List.dropWhile_cons_of_neg (by simp [hp]), crlf_cons_of_ne hc]

theorem takeWhile_crlf {p : Char → Bool} (hn : p '\n' = false) (hr : p '\r' = false) (t : Text) :
    t.crlf.takeWhile p = t.takeWhile p := by
  induction t with
  | nil => rfl
  | cons c t ih =>
    by_cases hc : c = '\n'
    · subst hc
      simp [hn, hr]
    · rw [crlf_cons_of_ne hc, List.takeWhile_cons, List.takeWhile_cons, ih]

theorem trimStart_crlf (t : Text) : t.crlf.trimStart = crlf t.trimStart := dropWhile_crlf (by decide) t

theorem afterBlanks?_crlf (t : Text) : afterBlanks? t.crlf = (afterBlanks? t).map crlf := by
  have hhead : t.crlf.head?.any isBlankChar = t.head?.any isBlankChar := by
    cases t with
    | nil => rfl
    | cons c t =>
      by_cases hc : c = '\n'
      · subst hc
        rfl
      · rw [crlf_cons_of_ne hc]
        rfl
  rw [afterBlanks?, hhead, afterBlanks?, trimStart_crlf]
  split <;> rfl

theorem word?_crlf (t : Text) : word? t.crlf = (word? t).map fun (word, rest) => (word, rest.crlf) := by
  rw [word?, word?, takeWhile_crlf (by decide) (by decide), dropWhile_crlf (by decide)]
  simp only
  split <;> rfl

/-- One carriage return may stand at the end of a directive. -/
theorem endsLine_crlf (h : '\r' ∉ t) : endsLine t.crlf = endsLine t := by
  unfold endsLine
  rw [dropWhile_crlf (by decide)]
  have hrest : '\r' ∉ t.dropWhile fun c => c == ' ' || c == '\t' := fun hm => h ((List.dropWhile_sublist _).subset hm)
  generalize t.dropWhile (fun c => c == ' ' || c == '\t') = rest at *
  cases rest with
  | nil => rfl
  | cons c rest =>
    by_cases hc : c = '\n'
    · subst hc
      rfl
    · have hr : '\r' ≠ c := fun hr => hrest (List.mem_cons.2 (Or.inl hr))
      rw [crlf_cons_of_ne hc]
      simp only [stripStart?, if_neg hr, Option.getD_none]

/-! ## Readers -/

theorem stripStart?_subset (h : t.stripStart? key = some rest) : rest ⊆ t := by
  rw [stripStart?_eq_some_iff.1 h]
  exact List.subset_append_right key rest

theorem afterBlanks?_subset (h : afterBlanks? t = some rest) : rest ⊆ t := by
  obtain ⟨-, h⟩ := Option.ite_none_right_eq_some.1 h
  obtain rfl := Option.some.inj h
  exact (List.dropWhile_sublist _).subset

theorem word?_subset {word : Text} (h : word? t = some (word, rest)) : rest ⊆ t := by
  obtain ⟨-, h⟩ := Option.ite_none_left_eq_some.1 h
  obtain ⟨-, rfl⟩ := Prod.mk.inj (Option.some.inj h)
  exact (List.dropWhile_sublist _).subset

theorem Insensitive.readAfter (h : Insensitive read) (hn : '\n' ∉ key) (hr : '\r' ∉ key) :
    Insensitive (readAfter key read) := fun t ht => by
  rw [HeaderGuard.readAfter, HeaderGuard.readAfter, stripStart?_crlf hn hr]
  cases hs : t.stripStart? key with
  | none => rfl
  | some r =>
    simp only [Option.map_some, Option.bind_eq_bind, Option.bind_some, afterBlanks?_crlf]
    cases hb : afterBlanks? r with
    | none => rfl
    | some rest => exact h rest fun hm => ht (stripStart?_subset hs (afterBlanks?_subset hb hm))

theorem insensitive_macro? : Insensitive macro? := fun t ht => by
  rw [macro?, macro?, word?_crlf]
  cases hw : word? t with
  | none => rfl
  | some found =>
    obtain ⟨word, rest⟩ := found
    have hrest : '\r' ∉ rest := fun hm => ht (word?_subset hw hm)
    simp only [Option.map_some, Option.bind_eq_bind, Option.bind_some, endsLine_crlf hrest]

theorem insensitive_blockMacro? : Insensitive blockMacro? := fun t ht => by
  rw [blockMacro?, blockMacro?, word?_crlf]
  cases hw : word? t with
  | none => rfl
  | some found =>
    obtain ⟨word, rest⟩ := found
    have hrest : '\r' ∉ rest := fun hm => ht (word?_subset hw hm)
    have hword : blockMacro?.inWord word rest.crlf = blockMacro?.inWord word rest := by
      simp only [blockMacro?.inWord, endsLine_crlf hrest]
    simp only [Option.map_some, Option.bind_eq_bind, Option.bind_some, hword, trimStart_crlf]
    rw [stripStart?_crlf (by decide) (by decide)]
    cases hs : rest.trimStart.stripStart? "*/" with
    | none => rfl
    | some behind =>
      have hbehind : '\r' ∉ behind := fun hm =>
        hrest ((List.dropWhile_sublist _).subset (stripStart?_subset hs hm))
      simp only [Option.map_some, endsLine_crlf hbehind]

theorem insensitive_macroAfter? (key : Text) (hn : '\n' ∉ key) (hr : '\r' ∉ key) : Insensitive (macroAfter? key) :=
  macroAfter?_eq key ▸ insensitive_macro?.readAfter hn hr

theorem insensitive_endifLine? : Insensitive endifLine? :=
  endifLine?_eq ▸ (insensitive_macro?.readAfter (by decide) (by decide)).readAfter (by decide) (by decide)

theorem insensitive_endifBlock? : Insensitive endifBlock? :=
  endifBlock?_eq ▸ (insensitive_blockMacro?.readAfter (by decide) (by decide)).readAfter (by decide) (by decide)

theorem isBareEndif_crlf (ht : '\r' ∉ t) : isBareEndif t.crlf = isBareEndif t := by
  rw [isBareEndif, isBareEndif, stripStart?_crlf (by decide) (by decide)]
  cases hs : t.stripStart? "#endif" with
  | none => rfl
  | some rest => exact endsLine_crlf fun hm => ht (stripStart?_subset hs hm)

/-! ## Finding a guard -/

theorem tailsAfter_crlf (t : Text) : tailsAfter t.crlf = (tailsAfter t).map crlf := by
  induction t with
  | nil => rfl
  | cons c t ih =>
    by_cases hc : c = '\n'
    · subst hc
      simp [tailsAfter, ih]
    · rw [crlf_cons_of_ne hc, tailsAfter, tailsAfter, if_neg hc, if_neg hc, ih]

theorem lineTails_crlf (t : Text) : lineTails t.crlf = (lineTails t).map crlf := by
  rw [lineTails, lineTails, List.map_cons, tailsAfter_crlf]

theorem subset_of_mem_tailsAfter {u : Text} (h : u ∈ tailsAfter t) : u ⊆ t := by
  induction t with
  | nil => cases h
  | cons c t ih =>
    unfold tailsAfter at h
    split at h
    · rcases List.mem_cons.1 h with rfl | h
      · exact List.subset_cons_self c _
      · exact List.subset_cons_of_subset c (ih h)
    · exact List.subset_cons_of_subset c (ih h)

theorem notMem_of_mem_lineTails (ht : '\r' ∉ t) : ∀ u ∈ lineTails t, '\r' ∉ u := fun u hu hm => by
  rcases List.mem_cons.1 hu with rfl | hu
  · exact ht hm
  · exact ht (subset_of_mem_tailsAfter hu hm)

theorem firstLine?_map_crlf (h : Insensitive read) {tails : List Text} (ht : ∀ u ∈ tails, '\r' ∉ u) :
    firstLine? read (tails.map crlf) = firstLine? read tails := by
  induction tails with
  | nil => rfl
  | cons u tails ih =>
    rw [List.map_cons, firstLine?, firstLine?, h u (ht u (by simp)), ih fun x hx => ht x (by simp [hx])]

theorem lastLine?_map_crlf {tails : List Text} (ht : ∀ u ∈ tails, '\r' ∉ u) :
    lastLine? isBareEndif (tails.map crlf) = lastLine? isBareEndif tails := by
  induction tails with
  | nil => rfl
  | cons u tails ih =>
    rw [List.map_cons, lastLine?, lastLine?, isBareEndif_crlf (ht u (by simp)), ih fun x hx => ht x (by simp [hx])]

/-- **A guard is found** on the same lines in both forms of a text. -/
theorem find?_crlf (ht : '\r' ∉ t) : find? t.crlf = find? t := by
  have htails := notMem_of_mem_lineTails ht
  simp only [find?, closing?, lineTails_crlf, firstLine?_map_crlf insensitive_endifBlock? htails,
    firstLine?_map_crlf insensitive_endifLine? htails, lastLine?_map_crlf htails,
    firstLine?_map_crlf (insensitive_macroAfter? "#ifndef" (by decide) (by decide)) htails,
    firstLine?_map_crlf (insensitive_macroAfter? "#define" (by decide) (by decide)) htails]

/-! ## Edits -/

theorem create_crlf (t guard : Text) : create t.crlf guard = create t guard := by
  rw [create, create, endPosition_crlf]

theorem replaceLine_crlf (t : Text) (line : Nat) (directive : Text) :
    replaceLine t.crlf.pieces line directive = replaceLine t.pieces line directive := by
  have hline : ∀ u : Text, (u.pieces.getD line []).dropEndWhile (· == '\r') = (PublicSection.linesOf u).getD line [] :=
    fun u => by
      rw [PublicSection.linesOf, List.getD_eq_getElem?_getD, List.getD_eq_getElem?_getD, List.getElem?_map]
      cases u.pieces[line]? <;> rfl
  simp only [replaceLine, hline, PublicSection.linesOf_crlf]

/-- **The edits for a guard** are the same for both forms of a text. -/
theorem amend_crlf (ht : '\r' ∉ t) (guard : Text) : amend t.crlf guard = amend t guard := by
  simp only [amend, find?_crlf ht, create_crlf, replaceLine_crlf]

end Classwright.HeaderGuard
