import DownloadEngine.Proofs.Destination
import DownloadEngine.Proofs.PercentDecoding

/-!
# Sanitised names are safe path components

Sanitising replaces unsafe characters, cuts edge characters (dot, underscore, space) from both
ends, and then cuts the name to `nameMax` bytes. The result holds no unsafe character, starts
with no edge character and fits in `nameMax` bytes. The length cut comes after the trim, so
when the cleaned name is longer than `nameMax` bytes the cut can leave a dot or an underscore
last (`sanitize_cut_leaves_trailing_dot`); sanitising such a result again cuts exactly those.
When the cleaned name fits, nothing is cut and sanitising is a fixed point.

## Main statements

* `sanitize_sanitize`: sanitising a sanitised name drops its trailing edge characters.
* `sanitize_safe_component`: what a sanitised name is made of, and when it is a fixed point.
-/

namespace DownloadEngine.Filename

open Text

/-! ## Lists -/

theorem head?_dropWhile_eq_false {p : Char → Bool} {l : List Char} {c : Char}
    (h : c ∈ (l.dropWhile p).head?) : p c = false := by
  have hd := List.head?_dropWhile_not p l
  rw [Option.mem_def.mp h] at hd
  exact hd

theorem dropWhile_of_head? {p : Char → Bool} {l : List Char} (h : ∀ c ∈ l.head?, p c = false) :
    l.dropWhile p = l := by
  cases l with
  | nil => rfl
  | cons c cs => simp [h c rfl]

/-- Bytes of a prefix are no more than bytes of the whole. -/
theorem length_flatMap_prefix_le {l₁ l₂ : List Char} (h : l₁ <+: l₂) :
    (l₁.flatMap utf8Bytes).length ≤ (l₂.flatMap utf8Bytes).length := by
  obtain ⟨t, rfl⟩ := h
  simp

/-! ## The three passes -/

/-- The name with its unsafe characters replaced and its edge characters cut at both ends:
what the length cut applies to. -/
def trimmedSafe (name : String) : List Char := trimEdges (replaceUnsafe none name.toList)

theorem sanitize_toList (name : String) :
    (sanitize name).toList = takeBytes nameMax (trimmedSafe name) := by
  rw [sanitize, String.toList_ofList, trimmedSafe]

theorem isUnsafe_eq_false_iff {c : Char} :
    isUnsafe c = false ↔
      c ≠ '\x00' ∧ c ≠ '/' ∧ c ≠ '\\' ∧ isControl c = false ∧ isWhiteSpace c = false := by
  simp [isUnsafe, and_assoc]

theorem isUnsafe_of_mem_replaceUnsafe {prev : Option Char} {cs : List Char} {c : Char}
    (h : c ∈ replaceUnsafe prev cs) : isUnsafe c = false := by
  induction cs generalizing prev with
  | nil => simp [replaceUnsafe] at h
  | cons d cs ih =>
    unfold replaceUnsafe at h
    split at h
    · -- an unsafe character writes at most an `_`, which is safe
      split at h
      · exact ih h
      · rcases List.mem_cons.mp h with rfl | h
        · decide
        · exact ih h
    · next hd =>
      rcases List.mem_cons.mp h with rfl | h
      · simpa using hd
      · exact ih h

theorem replaceUnsafe_of_safe {prev : Option Char} {cs : List Char}
    (h : ∀ c ∈ cs, isUnsafe c = false) : replaceUnsafe prev cs = cs := by
  induction cs generalizing prev with
  | nil => rfl
  | cons c cs ih =>
    rw [replaceUnsafe, if_neg (by simp [h c List.mem_cons_self]),
      ih fun d hd => h d (List.mem_cons_of_mem c hd)]

theorem takeBytes_length_le (budget : Nat) (cs : List Char) :
    ((takeBytes budget cs).flatMap utf8Bytes).length ≤ budget := by
  induction cs generalizing budget with
  | nil => simp [takeBytes]
  | cons c cs ih =>
    unfold takeBytes
    split
    · next hc =>
      have := ih (budget - utf8Length c)
      have e : utf8Length c = (utf8Bytes c).length := rfl
      simp only [List.flatMap_cons, List.length_append]
      omega
    · simp

theorem takeBytes_of_length_le {budget : Nat} {cs : List Char}
    (h : (cs.flatMap utf8Bytes).length ≤ budget) : takeBytes budget cs = cs := by
  induction cs generalizing budget with
  | nil => rfl
  | cons c cs ih =>
    have e : utf8Length c = (utf8Bytes c).length := rfl
    simp only [List.flatMap_cons, List.length_append] at h
    rw [takeBytes, if_pos (by omega), ih (by omega)]

/-- Cutting edge characters leaves none last. -/
theorem getLast?_trimEdges {cs : List Char} {c : Char} (h : c ∈ (trimEdges cs).getLast?) :
    isEdge c = false := by
  rw [trimEdges, List.getLast?_reverse] at h
  exact head?_dropWhile_eq_false h

/-- On a name that starts with no edge character, the trim only cuts trailing ones. -/
theorem trimEdges_of_head? {cs : List Char} (h : ∀ c ∈ cs.head?, isEdge c = false) :
    trimEdges cs = (cs.reverse.dropWhile isEdge).reverse := by
  rw [trimEdges, dropWhile_of_head? h]

/-! ## What a sanitised name is made of -/

theorem isUnsafe_of_mem_sanitize {name : String} {c : Char} (h : c ∈ (sanitize name).toList) :
    isUnsafe c = false :=
  isUnsafe_of_mem_replaceUnsafe
    ((List.dropWhile_suffix isEdge).subset ((sanitize_prefix_safe name).subset h))

theorem head?_sanitize {name : String} {c : Char} (h : c ∈ (sanitize name).toList.head?) :
    isEdge c = false := by
  obtain ⟨t, ht⟩ := sanitize_prefix_safe name
  apply head?_dropWhile_eq_false (l := replaceUnsafe none name.toList)
  rw [← ht, List.head?_append, Option.mem_def.mp h]
  rfl

theorem length_utf8_sanitize_le (name : String) : (utf8 (sanitize name)).length ≤ nameMax := by
  rw [← String.ofList_toList (s := sanitize name), utf8_ofList, sanitize_toList]
  exact takeBytes_length_le _ _

/-- Sanitising a sanitised name changes it only by cutting its trailing edge characters: it is
safe and starts with no edge character, and what the trim leaves is no longer. -/
theorem sanitize_sanitize (name : String) :
    (sanitize (sanitize name)).toList =
      ((sanitize name).toList.reverse.dropWhile isEdge).reverse := by
  have hsafe : replaceUnsafe none (sanitize name).toList = (sanitize name).toList :=
    replaceUnsafe_of_safe fun _ hc => isUnsafe_of_mem_sanitize hc
  have hpre : ((sanitize name).toList.reverse.dropWhile isEdge).reverse <+: (sanitize name).toList := by
    have h := List.reverse_prefix.mpr
      (List.dropWhile_suffix isEdge (l := (sanitize name).toList.reverse))
    rwa [List.reverse_reverse] at h
  have hfits : ((((sanitize name).toList.reverse.dropWhile isEdge).reverse).flatMap utf8Bytes).length
      ≤ nameMax := by
    have h := length_utf8_sanitize_le name
    rw [← String.ofList_toList (s := sanitize name), utf8_ofList] at h
    exact (length_flatMap_prefix_le hpre).trans h
  rw [sanitize_toList (sanitize name), trimmedSafe, hsafe,
    trimEdges_of_head? fun _ hc => head?_sanitize hc, takeBytes_of_length_le hfits]

/-- When the cleaned name fits, the length cut keeps all of it. -/
theorem sanitize_toList_of_fits {name : String}
    (h : (utf8 (String.ofList (trimmedSafe name))).length ≤ nameMax) :
    (sanitize name).toList = trimmedSafe name := by
  rw [utf8_ofList] at h
  rw [sanitize_toList, takeBytes_of_length_le h]

/-- A sanitised name is one safe path component: no separator, backslash, NUL, control or white
space character, no edge character first, and at most `nameMax` bytes. When the cleaned name
fits in `nameMax` bytes no edge character stands last either and sanitising again changes
nothing; in every case sanitising again cuts exactly the trailing edge characters. -/
theorem sanitize_safe_component (name : String) :
    (∀ c ∈ (sanitize name).toList,
      c ≠ '\x00' ∧ c ≠ '/' ∧ c ≠ '\\' ∧ isControl c = false ∧ isWhiteSpace c = false) ∧
    (∀ c ∈ (sanitize name).toList.head?, isEdge c = false) ∧
    (utf8 (sanitize name)).length ≤ nameMax ∧
    ((utf8 (String.ofList (trimmedSafe name))).length ≤ nameMax →
      (∀ c ∈ (sanitize name).toList.getLast?, isEdge c = false) ∧
        sanitize (sanitize name) = sanitize name) ∧
    (sanitize (sanitize name)).toList =
      ((sanitize name).toList.reverse.dropWhile isEdge).reverse := by
  refine ⟨fun c hc => isUnsafe_eq_false_iff.mp (isUnsafe_of_mem_sanitize hc),
    fun c hc => head?_sanitize hc, length_utf8_sanitize_le name, fun hfits => ?_,
    sanitize_sanitize name⟩
  have hlast : ∀ c ∈ (sanitize name).toList.getLast?, isEdge c = false := by
    intro c hc
    rw [sanitize_toList_of_fits hfits] at hc
    exact getLast?_trimEdges hc
  refine ⟨hlast, ?_⟩
  -- nothing trails to cut, so the second sanitising gives the name back
  apply String.toList_inj.mp
  rw [sanitize_sanitize, dropWhile_of_head? (by rwa [List.head?_reverse]), List.reverse_reverse]

/-- A name whose cleaned form fits is a fixed point of sanitising. -/
theorem sanitize_safe_component_at_report :
    (utf8 (String.ofList (trimmedSafe "  report.pdf.  "))).length ≤ nameMax ∧
      (∀ c ∈ (sanitize "  report.pdf.  ").toList.getLast?, isEdge c = false) ∧
      sanitize (sanitize "  report.pdf.  ") = sanitize "  report.pdf.  " := by
  have hfits : (utf8 (String.ofList (trimmedSafe "  report.pdf.  "))).length ≤ nameMax := by
    decide
  exact ⟨hfits, (sanitize_safe_component _).2.2.2.1 hfits⟩

example : (sanitize "my  sample\t\x01.fq").toList = "my_sample_.fq".toList := by decide

/-- Of 254 letters, a dot and a letter, 256 bytes, the cut keeps the letters and the dot: the
sanitised name ends with a dot, and sanitising it again drops that dot. -/
theorem sanitize_cut_leaves_trailing_dot :
    (sanitize (String.ofList (List.replicate 254 'a' ++ ['.', 'b']))).toList =
        List.replicate 254 'a' ++ ['.'] ∧
      sanitize (sanitize (String.ofList (List.replicate 254 'a' ++ ['.', 'b']))) ≠
        sanitize (String.ofList (List.replicate 254 'a' ++ ['.', 'b'])) := by
  have hcut : (sanitize (String.ofList (List.replicate 254 'a' ++ ['.', 'b']))).toList =
      List.replicate 254 'a' ++ ['.'] := by
    rw [sanitize_toList, trimmedSafe, String.toList_ofList]
    decide +kernel
  refine ⟨hcut, fun h => ?_⟩
  have htrim : ((List.replicate 254 'a' ++ ['.']).reverse.dropWhile isEdge).reverse =
      List.replicate 254 'a' := by
    decide +kernel
  have h2 := congrArg String.toList h
  rw [sanitize_sanitize, hcut, htrim] at h2
  have hlen := congrArg List.length h2
  simp only [List.length_append, List.length_replicate, List.length_singleton] at hlen
  omega

end DownloadEngine.Filename
