import Mathlib.Data.List.Induction
import DownloadEngine.Probe.Headers
import DownloadEngine.Transfer.Sink

/-!
# Only the final response counts

With redirects, the header lines of several responses arrive one after another, each response
opened by a status line. The probe result is built afresh at every status line, so it is the
result of the lines of the last response alone, and each of its fields comes from the last
line of that response that names it. The sink keeps the length the same way, and so agrees
with the probe on the length of every list of lines.

## Main statements

* `foldl_eq_lastField`: a fold that restarts at every status line and sets a field from the
  lines that name it ends with the value of the last such line of the final response.
* `final_response_fields`: what the probe and the sink make of a list of header lines.
-/

namespace DownloadEngine.HeaderLine

/-- Whether a raw line opens a response: trimmed, it starts with `HTTP/`. -/
def opensResponse (raw : String) : Bool := (Text.trim raw).startsWith "HTTP/"

/-- The lines of the last response: those after the last status line, or all of them when
there is none. -/
def finalResponse (lines : List String) : List String :=
  (lines.reverse.takeWhile fun raw => !opensResponse raw).reverse

/-- The value of a field line named `wanted`, in any ASCII case. -/
def fieldValue? (wanted raw : String) : Option String :=
  match classify raw with
  | .field name value => if names name wanted then some value else none
  | _ => none

/-- The value of the last field line named `wanted`. -/
def lastField (wanted : String) (lines : List String) : Option String :=
  (lines.filterMap (fieldValue? wanted)).getLast?

theorem classify_of_opensResponse {raw : String} (h : opensResponse raw = true) :
    ∃ code, classify raw = .status code :=
  ⟨_, by rw [classify]; exact if_pos h⟩

theorem classify_ne_status {raw : String} (h : opensResponse raw = false) (code : Option Nat) :
    classify raw ≠ .status code := by
  unfold classify
  rw [if_neg (by simpa [opensResponse] using h)]
  split <;> simp

theorem finalResponse_append_singleton (lines : List String) (raw : String) :
    finalResponse (lines ++ [raw]) =
      if opensResponse raw then [] else finalResponse lines ++ [raw] := by
  cases h : opensResponse raw <;> simp [finalResponse, h]

theorem lastField_append_singleton (wanted : String) (lines : List String) (raw : String) :
    lastField wanted (lines ++ [raw]) = (fieldValue? wanted raw).or (lastField wanted lines) := by
  cases h : fieldValue? wanted raw <;> simp [lastField, h]

/-- A fold that restarts at every status line and, on any other line, sets a field exactly
from the lines that name it ends with the value the last such line of the final response
gives. The induction runs from the end of the lines, where the last occurrence is. -/
theorem foldl_eq_lastField {σ α : Type} (step : σ → String → σ) (get : σ → α) (wanted : String)
    (read : String → α) (fresh : α)
    (hstatus : ∀ s raw, opensResponse raw = true → get (step s raw) = fresh)
    (hfield : ∀ s raw, opensResponse raw = false →
      get (step s raw) = ((fieldValue? wanted raw).map read).getD (get s))
    (lines : List String) (s : σ) (hs : get s = fresh) :
    get (lines.foldl step s) = ((lastField wanted (finalResponse lines)).map read).getD fresh := by
  induction lines using List.reverseRecOn with
  | nil => simp [finalResponse, lastField, hs]
  | append_singleton lines raw ih =>
    rw [List.foldl_append, List.foldl_cons, List.foldl_nil, finalResponse_append_singleton]
    cases hraw : opensResponse raw
    · rw [hfield _ _ hraw, ih, if_neg (by simp), lastField_append_singleton]
      cases fieldValue? wanted raw <;> rfl
    · rw [hstatus _ _ hraw, if_pos rfl]
      rfl

end DownloadEngine.HeaderLine

namespace DownloadEngine.ProbeInfo

open HeaderLine

theorem names_unique {name a b : String} (ha : names name a = true) (hb : names name b = true) :
    a = b := by
  simp only [names, beq_iff_eq] at ha hb
  exact ha.symm.trans hb

/-- On a field line, the probe result changes by its field alone. -/
theorem foldl_takeField {α : Type} (get : ProbeInfo → α) (wanted : String) (read : String → α)
    (hget : ∀ info name value,
      get (info.takeField name value) = if names name wanted then read value else get info)
    (lines : List String) :
    get (ofHeaders lines) = ((lastField wanted (finalResponse lines)).map read).getD (get degraded) := by
  unfold ofHeaders
  apply foldl_eq_lastField _ get wanted read _ _ _ lines degraded rfl
  · intro info raw hraw
    obtain ⟨code, hc⟩ := classify_of_opensResponse hraw
    simp only [hc]
  · intro info raw hraw
    have hns := classify_ne_status hraw
    cases hc : classify raw with
    | status code => exact absurd hc (hns code)
    | field name value =>
      simp only [fieldValue?, hc, hget]
      split <;> rfl
    | other => simp [fieldValue?, hc]

theorem contentLength_takeField (info : ProbeInfo) (name value : String) :
    (info.takeField name value).contentLength =
      if names name "content-length" then (readUnsigned? u64Max value).getD 0
      else info.contentLength := by
  unfold takeField
  split
  · rfl
  · repeat' split
    all_goals rfl

theorem supportsResume_takeField (info : ProbeInfo) (name value : String) :
    (info.takeField name value).supportsResume =
      if names name "accept-ranges" then offersBytes value else info.supportsResume := by
  unfold takeField
  by_cases h1 : names name "content-length" = true
  · rw [if_pos h1, if_neg fun h2 => absurd (names_unique h1 h2) (by decide)]
  · rw [if_neg h1]
    repeat' split
    all_goals rfl

theorem contentType_takeField (info : ProbeInfo) (name value : String) :
    (info.takeField name value).contentType =
      if names name "content-type" then value else info.contentType := by
  unfold takeField
  by_cases h3 : names name "content-type" = true
  · rw [if_pos h3, if_neg fun h1 => absurd (names_unique h1 h3) (by decide),
      if_neg fun h2 => absurd (names_unique h2 h3) (by decide), if_pos h3]
  · rw [if_neg h3]
    repeat' split
    all_goals rfl

theorem filename_takeField (info : ProbeInfo) (name value : String) :
    (info.takeField name value).filename =
      if names name "content-disposition" then Filename.dispositionName? value
      else info.filename := by
  unfold takeField
  by_cases h4 : names name "content-disposition" = true
  · rw [if_neg fun h1 => absurd (names_unique h1 h4) (by decide),
      if_neg fun h2 => absurd (names_unique h2 h4) (by decide),
      if_neg fun h3 => absurd (names_unique h3 h4) (by decide), if_pos h4, if_pos h4]
  · rw [if_neg h4]
    repeat' split
    all_goals rfl

/-- A status line starts the probe result afresh, whatever came before it. -/
theorem ofHeaders_append_status {xs ys : List String} {raw : String}
    (h : opensResponse raw = true) : ofHeaders (xs ++ [raw] ++ ys) = ofHeaders ys := by
  obtain ⟨code, hc⟩ := classify_of_opensResponse h
  unfold ofHeaders
  rw [List.foldl_append, List.foldl_append, List.foldl_cons, List.foldl_nil, hc]

theorem contentLength_ofHeaders (lines : List String) :
    (ofHeaders lines).contentLength =
      ((lastField "content-length" (finalResponse lines)).bind (readUnsigned? u64Max)).getD 0 := by
  rw [foldl_takeField _ _ _ contentLength_takeField lines]
  cases lastField "content-length" (finalResponse lines) <;> rfl

theorem supportsResume_ofHeaders (lines : List String) :
    (ofHeaders lines).supportsResume = true ↔
      ∃ v, lastField "accept-ranges" (finalResponse lines) = some v ∧
        ∃ unit ∈ v.splitOn ",", (Text.trim unit).toLower = "bytes" := by
  rw [foldl_takeField _ _ _ supportsResume_takeField lines]
  cases lastField "accept-ranges" (finalResponse lines) with
  | none => simp [degraded]
  | some v => simp [offersBytes]

theorem contentType_ofHeaders (lines : List String) :
    (ofHeaders lines).contentType = (lastField "content-type" (finalResponse lines)).getD "" := by
  rw [foldl_takeField _ _ _ contentType_takeField lines]
  cases lastField "content-type" (finalResponse lines) <;> rfl

theorem filename_ofHeaders (lines : List String) :
    (ofHeaders lines).filename =
      (lastField "content-disposition" (finalResponse lines)).bind Filename.dispositionName? := by
  rw [foldl_takeField _ _ _ filename_takeField lines]
  cases lastField "content-disposition" (finalResponse lines) <;> rfl

end DownloadEngine.ProbeInfo

namespace DownloadEngine.HeaderLine

/-- The length the sink keeps is that of the last `Content-Length` of the final response. -/
theorem lastResponse_length (lines : List String) :
    (lastResponse lines).2 =
      ((lastField "content-length" (finalResponse lines)).map (readUnsigned? u64Max)).getD none := by
  unfold lastResponse
  apply foldl_eq_lastField _ Prod.snd _ _ _ _ _ lines _ rfl
  · intro response raw hraw
    obtain ⟨code, hc⟩ := classify_of_opensResponse hraw
    simp only [absorb, hc]
  · intro response raw hraw
    have hns := classify_ne_status hraw
    cases hc : classify raw with
    | status code => exact absurd hc (hns code)
    | field name value =>
      simp only [absorb, fieldValue?, hc]
      split <;> rfl
    | other => simp [absorb, fieldValue?, hc]

end DownloadEngine.HeaderLine

namespace DownloadEngine.Transfer.Sink

/-- Fed header lines only, a sink keeps the length of the last response among them. -/
theorem contentLength_run_headers {σ : Type} (k : Sink) (w : World σ) (lines : List String) :
    (k.run (lines.map .header) w).2.contentLength = (HeaderLine.lastResponse lines).2 := by
  rw [run, foldl_header k lines w Intake.fresh rfl]
  rfl

end DownloadEngine.Transfer.Sink

namespace DownloadEngine

open HeaderLine ProbeInfo

/-- Only the final response's headers count. A status line starts the probe result afresh;
each field comes from the last line of the final response that names it, the length read as
an unsigned word (zero when it does not read), range support when one comma-separated unit of
`Accept-Ranges` is `bytes` in any case; and the sink, fed the same lines, keeps the same
length. -/
theorem final_response_fields :
    (∀ (xs ys : List String) (raw : String), opensResponse raw = true →
      ofHeaders (xs ++ [raw] ++ ys) = ofHeaders ys) ∧
    (∀ lines : List String,
      (ofHeaders lines).contentLength =
          ((lastField "content-length" (finalResponse lines)).bind (readUnsigned? u64Max)).getD 0 ∧
      ((ofHeaders lines).supportsResume = true ↔
          ∃ v, lastField "accept-ranges" (finalResponse lines) = some v ∧
            ∃ unit ∈ v.splitOn ",", (Text.trim unit).toLower = "bytes") ∧
      (ofHeaders lines).contentType = (lastField "content-type" (finalResponse lines)).getD "" ∧
      (ofHeaders lines).filename =
          (lastField "content-disposition" (finalResponse lines)).bind Filename.dispositionName?) ∧
    (∀ (σ : Type) (k : Transfer.Sink) (w : World σ) (lines : List String),
      ((k.run (lines.map .header) w).2.contentLength).getD 0 = (ofHeaders lines).contentLength) := by
  refine ⟨fun xs ys raw h => ofHeaders_append_status h,
    fun lines => ⟨contentLength_ofHeaders lines, supportsResume_ofHeaders lines,
      contentType_ofHeaders lines, filename_ofHeaders lines⟩,
    fun σ k w lines => ?_⟩
  -- both read the last `Content-Length` of the final response, the probe with zero for none
  rw [Transfer.Sink.contentLength_run_headers, lastResponse_length, contentLength_ofHeaders]
  cases lastField "content-length" (finalResponse lines) <;> rfl

/-- After a redirect, the lines of the first response are forgotten. -/
theorem final_response_fields_after_redirect :
    opensResponse "HTTP/1.1 200 OK" = true ∧
      ofHeaders (["HTTP/1.1 302 Found", "Content-Length: 0", "Accept-Ranges: bytes", ""] ++
        ["HTTP/1.1 200 OK"] ++ ["Content-Length: 4096"]) = ofHeaders ["Content-Length: 4096"] := by
  have h : opensResponse "HTTP/1.1 200 OK" = true := by decide +kernel
  exact ⟨h, final_response_fields.1 _ _ _ h⟩

example : ofHeaders ["HTTP/1.1 302 Found", "Content-Length: 0", "Accept-Ranges: bytes", "",
    "HTTP/1.1 200 OK", "Content-Length: 4096"] = ⟨false, 4096, "", none⟩ := by
  decide +kernel

end DownloadEngine
