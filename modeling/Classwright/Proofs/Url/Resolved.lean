import Mathlib.Tactic.Common
import Mathlib.Data.List.Infix
import Classwright.Proofs.Text.Search
import Classwright.Proofs.Url.FilePath
import Classwright.Url.Parser
/-!
# URLs are resolved

While a URL is read, `..` is resolved against the names before it, so none is left in its path
(`noUp_of_parse?`). Where no slash is escaped, the names of the path are the pieces of the path of the
file, and there is no `..` in that either (`parent_notMem_of_parse?`).
-/
namespace Classwright.Url

open Text

variable {path name a b t : Text} {s : SchemeType}

/-- No name of the path stands for the directory above. -/
def NoUp (path : Text) : Prop := ∀ name : Text, name.toUnits ∈ Path.splitSlashes path.toUnits → isDoubleDot name = false

@[simp] theorem noUp_append_slash_iff : NoUp (a ++ '/' :: b) ↔ NoUp a ∧ NoUp b := by
  simp only [NoUp, toUnits_append_slash, Path.splitSlashes_append_slash, List.mem_append]
  exact ⟨fun h => ⟨fun n hn => h n (Or.inl hn), fun n hn => h n (Or.inr hn)⟩, fun h n hn => hn.elim (h.1 n) (h.2 n)⟩

theorem noUp_iff_of_notMem (h : '/' ∉ name) : NoUp name ↔ isDoubleDot name = false := by
  rw [NoUp, Path.splitSlashes_of_notMem (by rwa [slash_mem_toUnits_iff])]
  simp only [List.mem_singleton, toUnits_injective.eq_iff, forall_eq]

@[simp] theorem noUp_nil : NoUp [] := (noUp_iff_of_notMem (by simp)).2 (by decide)

@[simp] theorem noUp_slash_iff : NoUp ('/' :: b) ↔ NoUp b := by
  have := noUp_append_slash_iff (a := []) (b := b)
  simpa using this

/-- The names for the directory above, in lower case. -/
def doubleDots : List Text := [['.', '.'], ['.', '%', '2', 'e'], ['%', '2', 'e', '.'], ['%', '2', 'e', '%', '2', 'e']]

theorem isDoubleDot_iff : isDoubleDot name = true ↔ name.map Char.toLower ∈ doubleDots := by
  have hnames : ["..", ".%2e", "%2e.", "%2e%2e"] = doubleDots.map String.ofList := rfl
  rw [isDoubleDot, List.contains_iff_mem, hnames, List.mem_map_of_injective fun _ _ h => String.ofList_injective h]

/-- A drive letter ends with a colon. -/
theorem driveName_eq (name : Text) : driveName name = name ∨ ∃ letter, driveName name = [letter, ':'] := by
  unfold driveName
  split
  · next h =>
    unfold isDriveLetter at h
    split at h
    · next letter mark => exact Or.inr ⟨letter, rfl⟩
    · cases h
  · exact Or.inl rfl

theorem isDoubleDot_driveName (h : isDoubleDot name = false) : isDoubleDot (driveName name) = false := by
  rcases driveName_eq name with heq | ⟨letter, heq⟩
  · rwa [heq]
  · rw [heq, ← Bool.not_eq_true, isDoubleDot_iff]
    -- none of the names ends with a colon
    have hlast : ∀ n ∈ doubleDots, n.getLast? ≠ some ':' := by decide
    intro hm
    exact hlast _ hm (by simp)

theorem slash_notMem_driveName (h : '/' ∉ name) : '/' ∉ driveName name := by
  unfold driveName
  split
  · intro hm
    rcases List.mem_append.1 hm with hm | hm
    · exact h (List.mem_of_mem_take hm)
    · simp at hm
  · exact h

/-- A path without the name at its end. -/
theorem noUp_shorten (h : NoUp path) : NoUp (shorten s path) := by
  unfold shorten cutName
  cases hcut : path.cutLast? "/" with
  | none =>
    simp only
    split
    · exact h
    · exact noUp_nil
  | some found =>
    obtain ⟨before, after⟩ := found
    simp only
    split
    · exact h
    · have hpath := eq_of_cutLast? hcut
      rw [List.append_assoc] at hpath
      rw [hpath] at h
      exact noUp_append_slash_iff.2 ⟨(noUp_append_slash_iff.1 h).1, noUp_nil⟩

/-- A path that ends with a slash has no `..` in it after a name was read, and it ends with a slash again
when one was read. -/
theorem noUp_addName (hpath : NoUp (path ++ ['/'])) (hname : '/' ∉ name) (slash : Bool) :
    NoUp (addName s (path ++ ['/']) name slash) ∧
      (slash = true → ∃ front, addName s (path ++ ['/']) name slash = front ++ ['/']) := by
  have hends : ∀ p : Text, NoUp p → NoUp (p ++ ['/']) := fun p hp => noUp_append_slash_iff.2 ⟨hp, noUp_nil⟩
  have hlast : ∀ p : Text, p.getLast? = some '/' → ∃ front, p = front ++ ['/'] := by
    intro p hp
    exact ⟨p.dropLast, (List.dropLast_append_getLast? _ hp).symm⟩
  unfold addName
  by_cases hdouble : isDoubleDot name = true
  · rw [if_pos hdouble]
    have hstart : NoUp (if (path ++ ['/']).getLast? == some '/' && lastSlashMayGo (path ++ ['/']) then (path ++ ['/']).dropLast
        else path ++ ['/']) := by
      split
      · rw [List.dropLast_concat]
        exact (noUp_append_slash_iff.1 hpath).1
      · exact hpath
    have hshort := noUp_shorten (s := s) hstart
    simp only
    generalize shorten s _ = p at hshort
    split
    · exact ⟨hends p hshort, fun _ => ⟨p, rfl⟩⟩
    · next h =>
      refine ⟨hshort, ?_⟩
      rintro rfl
      exact hlast p (by simpa using h)
  · rw [if_neg hdouble]
    split
    · split
      · exact ⟨hpath, fun _ => ⟨path, rfl⟩⟩
      · exact ⟨hends _ hpath, fun _ => ⟨_, rfl⟩⟩
    · rw [Bool.not_eq_true] at hdouble
      have hadd : ∀ n : Text, isDoubleDot n = false → '/' ∉ n → NoUp (path ++ ['/'] ++ n ++ if slash then ['/'] else []) ∧
          (slash = true → ∃ front, path ++ ['/'] ++ n ++ (if slash then ['/'] else []) = front ++ ['/']) := by
        intro n hn hslash
        have hboth : NoUp (path ++ ['/'] ++ n) := by
          rw [List.append_assoc]
          exact noUp_append_slash_iff.2 ⟨(noUp_append_slash_iff.1 hpath).1, (noUp_iff_of_notMem hslash).2 hn⟩
        cases slash
        · exact ⟨by simpa using hboth, by simp⟩
        · exact ⟨hends _ hboth, fun _ => ⟨_, rfl⟩⟩
      simp only
      split
      · exact hadd _ (isDoubleDot_driveName hdouble) (slash_notMem_driveName hname)
      · exact hadd _ hdouble hname

/-- Escapes have no slashes, so there are only those that are not escaped. -/
theorem slash_notMem_encode {set : List Char} (h : '/' ∉ name) : '/' ∉ Percent.encode set name := by
  have hdigit : ∀ d < 16, hexDigitUpper d ≠ '/' := by decide
  have hescape : ∀ b : UInt8, '/' ∉ Percent.escape b := by
    intro b
    have hb : b.toNat < 256 := b.toNat_lt
    have h1 := hdigit (b.toNat / 16) (by omega)
    have h2 := hdigit (b.toNat % 16) (by omega)
    simp [Percent.escape, h1.symm, h2.symm]
  intro hm
  obtain ⟨c, hc, hm⟩ := List.mem_flatMap.1 hm
  unfold Percent.encodeChar at hm
  split at hm
  · obtain ⟨b, -, hb⟩ := List.mem_flatMap.1 hm
    exact hescape b hb
  · obtain rfl := List.mem_singleton.1 hm
    exact h hc

theorem noUp_readNames (fuel : Nat) (hpath : NoUp (path ++ ['/'])) (t : Text) :
    NoUp (readNames s fuel (path ++ ['/']) t).1 := by
  have hname : ∀ t : Text, '/' ∉ Percent.encode Percent.pathSet (t.takeWhile (!isEnd s ·)) := by
    intro t
    apply slash_notMem_encode
    intro hm
    have := List.all_eq_true.1 List.all_takeWhile _ hm
    simp [isEnd, isSeparator] at this
  induction fuel generalizing path t with
  | zero => exact hpath
  | succ fuel ih =>
    unfold readNames
    split
    · exact (noUp_addName hpath (hname t) false).1
    · next c rest _ =>
      split
      · obtain ⟨hnoUp, hends⟩ := noUp_addName (s := s) hpath (hname t) true
        obtain ⟨front, hfront⟩ := hends rfl
        rw [hfront] at hnoUp
        show NoUp (readNames s fuel (addName s (path ++ ['/']) _ true) rest).1
        rw [hfront]
        exact ih hnoUp rest
      · exact (noUp_addName hpath (hname t) false).1

theorem noUp_readPath (s : SchemeType) (t : Text) : NoUp (readPath s t).1 :=
  @noUp_readNames [] s _ (noUp_slash_iff.2 noUp_nil) t

theorem noUp_readPathStart (s : SchemeType) (t : Text) : NoUp (readPathStart s t).1 := by
  unfold readPathStart
  split
  · exact noUp_nil
  · exact noUp_readPath s _

/-- One slash is left of those in front of a path. -/
theorem noUp_dropSlashes (h : NoUp path) : NoUp ('/' :: path.dropWhile (· == '/')) := by
  induction path with
  | nil => exact noUp_slash_iff.2 noUp_nil
  | cons c path ih =>
    by_cases hc : c = '/'
    · subst hc
      rw [List.dropWhile_cons_of_pos (by simp)]
      exact ih (noUp_slash_iff.1 h)
    · rw [List.dropWhile_cons_of_neg (by simpa using hc)]
      exact noUp_slash_iff.2 h

theorem path_withEnd (scheme : Text) (authority : Option Authority) (path t : Text) : (withEnd scheme authority path t).path = path := by
  unfold withEnd
  rfl

/-- The path of a file's URL. -/
theorem noUp_ofFile (h : NoUp path) (host rest : Text) : NoUp (ofFile host path rest).path := by
  unfold ofFile
  rw [path_withEnd]
  exact noUp_dropSlashes h

theorem noUp_file? {u : Url} (h : file? t = some u) : NoUp u.path := by
  have hplain : ∀ t, NoUp (file?.plain t).path := fun t => noUp_ofFile (noUp_readPath _ _) _ _
  unfold file? at h
  split at h
  · split at h
    · simp only [fileAfterSlashes?, Option.bind_eq_bind, Option.bind_eq_some_iff, Option.pure_def, Option.some.injEq] at h
      obtain ⟨host, -, rfl⟩ := h
      exact noUp_ofFile (noUp_readPath _ _) _ _
    · obtain rfl := Option.some.inj h
      exact hplain _
  · obtain rfl := Option.some.inj h
    exact hplain _

theorem noUp_afterSlashes? {scheme : Text} {u : Url} (h : afterSlashes? scheme t = some u) : NoUp u.path := by
  simp only [afterSlashes?, Option.bind_eq_bind, Option.bind_eq_some_iff, Option.pure_def, Option.some.injEq, Prod.exists] at h
  obtain ⟨authority, rest, -, rfl⟩ := h
  rw [path_withEnd]
  exact noUp_readPathStart _ _

/-- A character that is not escaped stays, and an escape begins with a percent sign. -/
theorem head?_encode_ne {set : List Char} (h : t.head? ≠ some '/') : (Percent.encode set t).head? ≠ some '/' := by
  cases t with
  | nil => simp [Percent.encode]
  | cons c t =>
    obtain ⟨b, bytes, hbytes⟩ : ∃ b bytes, utf8OfChar c = b :: bytes := by
      rcases Nat.lt_or_ge c.toNat 0x80 with hc | hc
      · exact ⟨_, _, utf8OfChar_of_lt hc⟩
      · exact List.exists_cons_of_ne_nil (utf8OfChar_of_ge hc).1
    rw [Percent.encode, List.flatMap_cons, Percent.encodeChar]
    split
    · rw [hbytes]
      simp [Percent.escape]
    · exact h

theorem noUp_other? {scheme : Text} {u : Url} (h : other? scheme t = some u) (hpath : u.path.head? = some '/') : NoUp u.path := by
  unfold other? at h
  split at h
  · exact noUp_afterSlashes? h
  · split at h
    · obtain rfl := Option.some.inj h
      rw [path_withEnd]
      exact noUp_readPath _ _
    · next hslash =>
      obtain rfl := Option.some.inj h
      rw [path_withEnd] at hpath
      refine absurd hpath (head?_encode_ne ?_)
      cases t with
      | nil => simp
      | cons c t =>
        have hc : c ≠ '/' := by
          rintro rfl
          exact hslash t rfl
        rw [List.takeWhile_cons]
        split
        · simpa using hc
        · simp

/-- **URLs are read without `..`** in their paths, unless the path is opaque. -/
theorem noUp_of_parse? {u : Url} (h : parse? t = some u) (hpath : u.path.head? = some '/') : NoUp u.path := by
  simp only [parse?] at h
  split at h
  · cases h
  · split at h
    · split at h
      · exact noUp_file? h
      · exact noUp_afterSlashes? h
      · exact noUp_other? h hpath
    · cases h

/-! ## The path of the file -/

/-- Two dots come from a name that is read as the directory above. -/
theorem isDoubleDot_of_decode (h : Percent.decode t = [0x2E, 0x2E]) : isDoubleDot t = true := by
  have hdot : ∀ {t : Text} {bytes}, Percent.decode t = 0x2E :: bytes → ∃ dot rest, t = dot ++ rest ∧ Percent.decode rest = bytes ∧
      dot ∈ [['.'], ['%', '2', 'e'], ['%', '2', 'E']] := by
    intro t bytes h
    rcases Percent.decode_eq_cons h (by decide) with ⟨c, rest, rfl, hc, hrest⟩ | ⟨x, y, rest, v, w, rfl, hx, hy, hvw, hrest⟩
    · obtain rfl := Percent.eq_ofNat hc
      exact ⟨['.'], rest, rfl, hrest, by simp⟩
    · obtain ⟨hv, hx⟩ := Percent.toNat_of_hexValue? hx
      obtain ⟨hw, hy⟩ := Percent.toNat_of_hexValue? hy
      have h46 : v * 16 + w = 46 := hvw
      obtain rfl : x = '2' := Percent.eq_ofNat (n := 50) (by omega)
      rcases (by omega : y.toNat = 101 ∨ y.toNat = 69) with hy | hy
      · obtain rfl := Percent.eq_ofNat hy
        exact ⟨['%', '2', 'e'], rest, rfl, hrest, by simp⟩
      · obtain rfl := Percent.eq_ofNat hy
        exact ⟨['%', '2', 'E'], rest, rfl, hrest, by simp⟩
  obtain ⟨dot, rest, rfl, hrest, hmem⟩ := hdot h
  obtain ⟨dot', rest', rfl, hrest', hmem'⟩ := hdot hrest
  obtain rfl := Percent.decode_eq_nil hrest'
  have hall : ∀ d ∈ [['.'], ['%', '2', 'e'], ['%', '2', 'E']], ∀ d' ∈ [['.'], ['%', '2', 'e'], ['%', '2', 'E']],
      (d ++ (d' ++ [])).map Char.toLower ∈ doubleDots := by decide
  exact isDoubleDot_iff.2 (hall dot hmem dot' hmem')

/-- The pieces of the path of a file are those of the URL's path, each decoded. -/
theorem dotDot_notMem (hpath : NoUp path) (hslash : ¬ Percent.EscapesSlash path) :
    Path.dotDot ∉ Path.splitSlashes (unitsOfBytes (Percent.decode path)) := by
  generalize hn : path.length = n
  induction n using Nat.strongRecOn generalizing path with
  | ind n ih =>
    by_cases hm : '/' ∈ path
    · obtain ⟨a, b, rfl, -⟩ := List.eq_append_cons_of_mem hm
      have hpart : ∀ {part}, part <:+: a ++ '/' :: b → ¬ Percent.EscapesSlash part := fun hi hescape =>
        hslash (hescape.imp (·.trans hi) (·.trans hi))
      have hunits : unitsOfBytes (Percent.decode a ++ 0x2F :: Percent.decode b) =
          unitsOfBytes (Percent.decode a) ++ Path.slash :: unitsOfBytes (Percent.decode b) :=
        unitsAfter_append_slash (Nat.zero_le _) _
      rw [Percent.decode_append_slash, hunits, Path.splitSlashes_append_slash, List.mem_append]
      rw [noUp_append_slash_iff] at hpath
      rw [List.length_append, List.length_cons] at hn
      rintro (h | h)
      · exact ih a.length (by omega) hpath.1 (hpart (List.prefix_append ..).isInfix) rfl h
      · exact ih b.length (by omega) hpath.2 (hpart ((List.suffix_cons '/' b).trans (List.suffix_append ..)).isInfix) rfl h
    · have hunits : Path.slash ∉ unitsOfBytes (Percent.decode path) := by
        intro hu
        obtain ⟨b, hb, htoNat⟩ := exists_byte_of_mem_unitsAfter (c := '/') (by decide) hu
        obtain rfl : b = 0x2F := UInt8.toNat_inj.1 htoNat
        exact (Percent.slash_of_mem_decode hb).elim hm hslash
      rw [Path.splitSlashes_of_notMem hunits, List.mem_singleton]
      intro hdots
      obtain ⟨b, rest, hdecode, hb, hrest⟩ := unitsOfBytes_eq_cons (by decide) hdots.symm
      obtain ⟨b', rest', rfl, hb', hrest'⟩ := unitsOfBytes_eq_cons (by decide) hrest
      obtain rfl := unitsOfBytes_eq_nil hrest'
      obtain rfl : b = 0x2E := UInt8.toNat_inj.1 hb
      obtain rfl : b' = 0x2E := UInt8.toNat_inj.1 hb'
      have hdouble := isDoubleDot_of_decode hdecode
      rw [(noUp_iff_of_notMem hm).1 hpath] at hdouble
      cases hdouble

/-- **URLs are resolved.** There is no `..` in the path of the file that a URL names, when the URL was read and
no slash is escaped in it. -/
theorem parent_notMem_of_parse? {u : Url} {p : Path} (h : parse? t = some u) (hslash : ¬ Percent.EscapesSlash u.path)
    (hp : u.filePath? = some p) : .parent ∉ p.components := by
  have habsolute := isAbsolute_of_filePath? hp
  unfold filePath? at hp
  split at hp
  · next hlocal =>
    have hdots := dotDot_notMem (noUp_of_parse? h hlocal.2) hslash
    rw [Path.components_eq_of_absolute habsolute]
    intro hparent
    rcases List.mem_cons.1 hparent with hroot | hparent
    · cases hroot
    · obtain ⟨piece, hpiece, hcomponent⟩ := List.mem_filterMap.1 hparent
      have hname := ((Path.component?_eq_some_iff (Path.notMem_of_mem_splitSlashes hpiece)).1 hcomponent).2
      obtain rfl : Path.dotDot = piece := hname
      obtain rfl := Option.some.inj hp
      simp only at hpiece
      split at hpiece
      · rw [Path.splitSlashes_append_slash, List.mem_append] at hpiece
        rcases hpiece with hpiece | hpiece
        · exact hdots hpiece
        · exact absurd hpiece (by decide)
      · exact hdots hpiece
  · cases hp

end Classwright.Url
