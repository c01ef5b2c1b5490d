import Courier.Proofs.Http.Reference

/-!
# How large a body may be

Two limits apply to a body: the one in the settings, to what is announced and to what is read, and
one for everything that is read as JSON. So a body is taken up to the smaller of the two
(`App.tooLarge_iff`), and a limit in the settings beyond two mebibytes has no effect
(`App.largeListing_refused`).
-/

namespace Courier.Http

/-- If a request announces the length of its body, then it is the length that the body has. -/
def Request.Truthful (request : Request) : Prop :=
  ∀ length, App.announcedLength? request.headers = some length →
    length = request.body.size

namespace App

variable {app : App} {request : Request} {route : Route}

/-- **The limits for a body.** A JSON body that is sent to an address that takes bodies, with the key
if one is asked for, is refused for its size exactly if it is larger than the limit in the settings or
larger than two mebibytes. -/
theorem tooLarge_iff (hmethod : request.method = "POST")
    (hroute : Route.ofRequest request = some route) (htakes : "POST" ∈ route.methods)
    (hkey : keyFault? app.settings.apiKey request.headers = none)
    (hjson : request.headers.announceJson) (hlength : request.Truthful) :
    (app.handle request).1.status = 413 ↔
      min app.settings.server.bodyLimit jsonBodyLimit < request.body.size := by
  have hoptions : request.method ≠ "OPTIONS" := hmethod.trans_ne (by decide)
  cases hlimit : readLimit? app.settings.server.bodyLimit request.headers with
  | none =>
    -- more is announced than the settings allow, and the body is as large as announced
    have hstops : app.Stops request _ := .tooLong hoptions hlimit
    rw [hstops.handle_eq, status_sent]
    refine iff_of_true rfl ?_
    rw [readLimit?] at hlimit
    split at hlimit
    · cases hlimit
    · rename_i length hannounced
      split at hlimit
      · have hsize := hlength length hannounced
        omega
      · cases hlimit
  | some limit =>
    have hlets : app.LetsIn request limit route := ⟨hoptions, hlimit, hroute, fun _ => hkey⟩
    rw [hlets.handle_eq, status_sent, status_withPolicy,
      status_answerAt_post hmethod hroute htakes]
    simp only [hjson, true_and]
    rw [readLimit?] at hlimit
    split at hlimit
    · obtain rfl := Option.some.inj hlimit
      rfl
    · rename_i length hannounced
      split at hlimit
      · cases hlimit
      · -- what is announced is read, and the settings allow it
        obtain rfl : length = limit := Option.some.inj hlimit
        have hsize := hlength length hannounced
        omega

/-! ## A listing with blanks behind it -/

/-- A request to load a listing without templates, with blanks behind it. -/
def blankListing (blanks : Nat) : Request where
  method := "POST"
  target := "/api/v1/templates"
  headers := [("content-type", "application/json")]
  body := "\x7b\"data\":[]\x7d" ++ String.ofList (List.replicate blanks ' ')

theorem utf8Len_blanks (n : Nat) : String.utf8Len (List.replicate n ' ') = n := by
  induction n with
  | zero => rfl
  | succ n ih =>
    rw [List.replicate_succ, String.utf8Len_cons, ih]
    rfl

theorem size_blankListing (blanks : Nat) : (blankListing blanks).body.size = 11 + blanks := by
  have hblanks : (String.ofList (List.replicate blanks ' ')).utf8ByteSize = blanks := by
    rw [String.utf8ByteSize_ofList, utf8Len_blanks]
  rw [blankListing, RequestBody.size, String.utf8ByteSize_append, hblanks]
  rfl

theorem ofRequest_blankListing (blanks : Nat) :
    Route.ofRequest (blankListing blanks) = some .templates := by
  show (pathOf? "/api/v1/templates").bind Route.ofPath = some .templates
  decide

theorem truthful_blankListing (blanks : Nat) : (blankListing blanks).Truthful := by
  have hannounced : announcedLength? (blankListing blanks).headers = none := by
    show announcedLength? [("content-type", "application/json")] = none
    decide
  intro length hlength
  rw [hannounced] at hlength
  cases hlength

/-- Where bodies may have 16 bytes, a listing of 16 bytes is not refused for its size, and one of 17
bytes is. -/
theorem blankListing_tooLarge :
    "POST" ∈ Route.templates.methods ∧
      (∀ blanks, (blankListing blanks).method = "POST" ∧
        Route.ofRequest (blankListing blanks) = some .templates ∧
        keyFault? (limitedApp 16).settings.apiKey (blankListing blanks).headers = none ∧
        (blankListing blanks).headers.announceJson ∧ (blankListing blanks).Truthful) ∧
      ((limitedApp 16).handle (blankListing 5)).1.status ≠ 413 ∧
      ((limitedApp 16).handle (blankListing 6)).1.status = 413 := by
  have htakes : "POST" ∈ Route.templates.methods := by decide
  have hexact (blanks : Nat) : ((limitedApp 16).handle (blankListing blanks)).1.status = 413 ↔
      min 16 jsonBodyLimit < (blankListing blanks).body.size :=
    tooLarge_iff rfl (ofRequest_blankListing blanks) htakes rfl announceJson_contentType
      (truthful_blankListing blanks)
  refine ⟨htakes, fun blanks => ⟨rfl, ofRequest_blankListing blanks, rfl, announceJson_contentType,
    truthful_blankListing blanks⟩, ?_, ?_⟩
  · rw [ne_eq, hexact, size_blankListing]
    decide
  · rw [hexact, size_blankListing]
    decide

/-- A limit in the settings beyond two mebibytes has no effect: where bodies may have four, a listing
with one byte more than two is refused for its size. -/
theorem largeListing_refused :
    start? (limitedSettings 4194304) = some (limitedApp 4194304) ∧
      (blankListing 2097142).body.size = 2097153 ∧
      2097153 ≤ (limitedApp 4194304).settings.server.bodyLimit ∧
      ((limitedApp 4194304).handle (blankListing 2097142)).1.status = 413 := by
  have hlets : (limitedApp 4194304).LetsIn (blankListing 2097142) 4194304 .templates :=
    letsIn_of_settings rfl rfl (ofRequest_blankListing _) rfl
  have hsize : (blankListing 2097142).body.size = 2097153 := size_blankListing _
  have hlimit : 2097153 ≤ (limitedApp 4194304).settings.server.bodyLimit := by
    show 2097153 ≤ 4194304
    omega
  refine ⟨rfl, hsize, hlimit, ?_⟩
  rw [hlets.handle_eq, status_sent, status_withPolicy,
    status_answerAt_post rfl (ofRequest_blankListing _) (by decide), hsize]
  exact ⟨announceJson_contentType, by decide⟩

end App

end Courier.Http
