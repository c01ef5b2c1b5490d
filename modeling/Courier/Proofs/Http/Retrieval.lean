import Courier.Proofs.Catalog.Export
import Courier.Proofs.Http.Encoding
import Courier.Proofs.Http.Reachable

/-!
# Templates by their paths

A template is asked for by a path with its name and language in it, encoded. Such a path is an address
of the service if the language is not empty, and then the key of the address is that of the template
(`Request.Addresses.ofRequest_eq`). So a template that is in the list can be read and removed
(`App.listed_answers`), one without a name included. A template without a language can be in the list
too, but its path is no address.
-/

namespace Courier.Http

variable {key : TemplateKey}

/-! ## Paths of templates -/

/-- A request has the path of the template with a key: name and language stand in it encoded. -/
def Request.Addresses (request : Request) (key : TemplateKey) : Prop :=
  ∃ name language, request.path? = some ("/api/v1/templates/" ++ name ++ "/" ++ language).toList ∧
    Percent.Encodes name key.name ∧ Percent.Encodes language key.language

/-- A target without query and fragment is its own path. -/
theorem pathOf?_eq {path : String} (hslash : path.toList.head? = some '/')
    (hplain : '?' ∉ path.toList ∧ '#' ∉ path.toList) : pathOf? path = some path.toList := by
  rw [pathOf?]
  cases hpath : path.toList with
  | nil =>
    rw [hpath] at hslash
    cases hslash
  | cons c rest =>
    rw [hpath] at hslash hplain
    obtain rfl := Option.some.inj hslash
    refine congrArg some (List.takeWhile_eq_self_iff.mpr fun d hd => ?_)
    have hquery : d ≠ '?' := fun h => hplain.1 (h ▸ hd)
    have hfragment : d ≠ '#' := fun h => hplain.2 (h ▸ hd)
    simp [hquery, hfragment]

namespace Request

variable {request : Request}

/-- Whatever encodings of name and language are put into the target, it has the path of the
template. -/
theorem addresses_of_target {name language : String}
    (htarget : request.target = "/api/v1/templates/" ++ name ++ "/" ++ language)
    (hname : Percent.Encodes name key.name) (hlanguage : Percent.Encodes language key.language) :
    request.Addresses key := by
  refine ⟨name, language, ?_, hname, hlanguage⟩
  have hplain (c : Char) (hc : c = '/' ∨ c = '?' ∨ c = '#') (hfront : c ∉ "/api/v1/templates/".toList)
      (hslash : c ∉ "/".toList) :
      c ∉ ("/api/v1/templates/" ++ name ++ "/" ++ language).toList := by
    simp only [String.toList_append, List.mem_append, not_or]
    exact ⟨⟨⟨hfront, hname.notMem hc⟩, hslash⟩, hlanguage.notMem hc⟩
  rw [path?, htarget]
  refine pathOf?_eq ?_ ⟨?_, ?_⟩
  · simp [String.toList_append]
  · exact hplain '?' (by simp) (by decide) (by decide)
  · exact hplain '#' (by simp) (by decide) (by decide)

/-- **The path of a template is an address** exactly if the language is not empty, and then name and
language of the address are decoded to those of the template. -/
theorem Addresses.ofRequest_eq (h : request.Addresses key) :
    ∃ name language, Percent.decode? name = some key.name ∧
      Percent.decode? language = some key.language ∧
      Route.ofRequest request
        = if key.language = "" then none else some (.template name language) := by
  obtain ⟨name, language, hpath, hname, hlanguage⟩ := h
  refine ⟨name, language, hname.decode?_eq, hlanguage.decode?_eq, ?_⟩
  have hsegments : segments ("/api/v1/templates/" ++ name ++ "/" ++ language).toList
      = ["api", "v1", "templates", name, language] := by
    have hsteps : ["api", "v1", "templates", name, language] ≠ [] := List.cons_ne_nil _ _
    refine (segments_eq_iff hsteps).mpr ⟨by simp, ?_⟩
    simp [hname.notMem (.inl rfl), hlanguage.notMem (.inl rfl)]
  rw [Route.ofRequest, hpath, Option.bind_some, Route.ofPath, hsegments, Route.ofSegments]
  exact if_congr hlanguage.eq_empty_iff rfl rfl

end Request

namespace App

variable {settings : Settings} {app : App} {request : Request} {route : Route}

/-! ## Open services -/

/-- Where no key is asked for, a request is let in to its address, if it announces no body that is too
large. -/
theorem exists_letsIn (hopen : app.settings.apiKey = none)
    (hlimit : (readLimit? app.settings.server.bodyLimit request.headers).isSome)
    (hmethod : request.method ≠ "OPTIONS") (hroute : Route.ofRequest request = some route) :
    ∃ limit, app.LetsIn request limit route := by
  obtain ⟨limit, hlimit⟩ := Option.isSome_iff_exists.mp hlimit
  refine ⟨limit, hmethod, hlimit, hroute, fun _ => ?_⟩
  rw [hopen]
  rfl

/-- A request to a path that is no address does nothing. -/
theorem handle_of_unknown
    (hlimit : (readLimit? app.settings.server.bodyLimit request.headers).isSome)
    (hmethod : request.method ≠ "OPTIONS") (hroute : Route.ofRequest request = none) :
    (app.handle request).1.status = 404 ∧ (app.handle request).2 = app := by
  obtain ⟨limit, hlimit⟩ := Option.isSome_iff_exists.mp hlimit
  have hstops : app.Stops request _ := .unknown hmethod hlimit hroute
  rw [hstops.handle_eq, status_sent]
  exact ⟨rfl, rfl⟩

section Found

variable {name language : String} {limit : Nat} {template : Template}
  (hname : Percent.decode? name = some key.name)
  (hlanguage : Percent.decode? language = some key.language)
  (hfind : app.catalog.find? key = some template)
  (hlets : app.LetsIn request limit (.template name language))
include hname hlanguage hfind hlets

/-- A template that is found is what its address answers. -/
theorem handle_get (hmethod : request.method = "GET") :
    (app.handle request).1.status = 200 ∧
      (app.handle request).1.body = .json template.toJson := by
  have hget : app.getTemplate name language = .json 200 template.toJson := by
    rw [getTemplate, pathKey_eq_ok_iff.mpr ⟨hname, hlanguage⟩]
    simp only [Catalog.get, hfind]
  have hact : app.act? request limit (.template name language)
      = some (.json 200 template.toJson, app) := by
    simp only [act?, hmethod, hget]
  obtain ⟨hstatus, hbody, -⟩ := hlets.handle_of_act? (hmethod.trans_ne (by decide)) hact
  exact ⟨hstatus, hbody⟩

/-- A template that is found is removed, and no other. -/
theorem handle_delete (hmethod : request.method = "DELETE") :
    (app.handle request).1.status = 204 ∧
      ∀ other, (app.handle request).2.catalog.find? other
        = if other = key then none else app.catalog.find? other := by
  have hcontains : app.catalog.contains key := by
    rw [Catalog.contains, hfind]
    rfl
  obtain ⟨catalog, hremove⟩ : ∃ catalog, app.catalog.remove key = .ok catalog :=
    ⟨_, (Catalog.remove_eq ..).trans (if_pos hcontains)⟩
  have hdelete : app.deleteTemplate name language = (.bare 204, { app with catalog }) := by
    rw [deleteTemplate_eq, pathKey_eq_ok_iff.mpr ⟨hname, hlanguage⟩]
    simp only [hremove]
  have hact : app.act? request limit (.template name language)
      = some (.bare 204, { app with catalog }) := by
    simp only [act?, hmethod, hdelete]
  obtain ⟨hstatus, -, hnext⟩ := hlets.handle_of_act? (hmethod.trans_ne (by decide)) hact
  rw [hnext]
  exact ⟨hstatus, (Catalog.find?_of_remove hremove).2⟩

end Found

/-- The list of templates is answered with their short descriptions. -/
theorem handle_list (hopen : app.settings.apiKey = none)
    (hlimit : (readLimit? app.settings.server.bodyLimit request.headers).isSome)
    (hmethod : request.method = "GET") (hroute : Route.ofRequest request = some .templates) :
    (app.handle request).1.status = 200 ∧
      ∃ value, (app.handle request).1.body = .json value ∧
        value.member? "templates"
          = some (.arr (app.catalog.list.map fun template => template.option.toJson)) := by
  obtain ⟨limit, hlets⟩ := exists_letsIn hopen hlimit (hmethod.trans_ne (by decide)) hroute
  have hact : app.act? request limit .templates = some (app.listTemplates, app) := by
    simp only [act?, hmethod]
  obtain ⟨hstatus, hbody, -⟩ := hlets.handle_of_act? (hmethod.trans_ne (by decide)) hact
  refine ⟨hstatus, _, hbody, ?_⟩
  rw [Json.member?_object (by simp) "templates", Catalog.options, List.map_map]
  rfl

/-- **Templates of the list are read and removed by their paths.** In every state of a service that
asks for no key, the list shows the templates of the catalog. A request with the path of one of them,
whichever encodings of name and language it has, is answered with the template if the method is `GET`,
and removes it, and nothing else, if the method is `DELETE`. The exceptions are templates without a
language: such a path is not known, and the request does nothing. -/
theorem listed_answers (hopen : settings.apiKey = none) (h : Reachable settings app) :
    (∀ request : Request, (readLimit? settings.server.bodyLimit request.headers).isSome →
      request.method = "GET" → Route.ofRequest request = some .templates →
      (app.handle request).1.status = 200 ∧
        ∃ value, (app.handle request).1.body = .json value ∧
          value.member? "templates"
            = some (.arr (app.catalog.list.map fun template => template.option.toJson))) ∧
    ∀ template ∈ app.catalog.list, ∀ request : Request, request.Addresses template.key →
      (readLimit? settings.server.bodyLimit request.headers).isSome →
      (request.method = "GET" →
        if template.language = "" then (app.handle request).1.status = 404
        else (app.handle request).1.status = 200 ∧
          (app.handle request).1.body = .json template.toJson) ∧
      (request.method = "DELETE" →
        if template.language = "" then
          (app.handle request).1.status = 404 ∧ (app.handle request).2 = app
        else (app.handle request).1.status = 204 ∧
          ∀ key, (app.handle request).2.catalog.find? key
            = if key = template.key then none else app.catalog.find? key) := by
  obtain rfl : app.settings = settings := h.settings_eq
  refine ⟨fun request hlimit hmethod hroute => handle_list hopen hlimit hmethod hroute, ?_⟩
  intro template hmem request haddresses hlimit
  obtain ⟨shelf, hrefines⟩ := h.exists_refines
  -- what is listed is found under its own key
  have hfind : app.catalog.find? template.key = some template := hrefines.keyed.mem_list_iff.mp hmem
  obtain ⟨name, language, hname, hlanguage, hroute⟩ := haddresses.ofRequest_eq
  by_cases hempty : template.language = ""
  · have hunknown : Route.ofRequest request = none := hroute.trans (if_pos hempty)
    rw [if_pos hempty, if_pos hempty]
    refine ⟨fun hmethod => ?_, fun hmethod => ?_⟩
    · exact (handle_of_unknown hlimit (hmethod.trans_ne (by decide)) hunknown).1
    · exact handle_of_unknown hlimit (hmethod.trans_ne (by decide)) hunknown
  · have hknown : Route.ofRequest request = some (.template name language) :=
      hroute.trans (if_neg hempty)
    rw [if_neg hempty, if_neg hempty]
    refine ⟨fun hmethod => ?_, fun hmethod => ?_⟩
    · obtain ⟨limit, hlets⟩ := exists_letsIn hopen hlimit (hmethod.trans_ne (by decide)) hknown
      exact handle_get hname hlanguage hfind hlets hmethod
    · obtain ⟨limit, hlets⟩ := exists_letsIn hopen hlimit (hmethod.trans_ne (by decide)) hknown
      exact handle_delete hname hlanguage hfind hlets hmethod

/-! ## A greeting and a template without a language -/

/-- A request to load a template with a name and a language and nothing else. -/
def bareLoad (name language : String) : Request where
  method := "POST"
  target := "/api/v1/templates"
  headers := [("content-type", "application/json")]
  body := "\x7b\"data\":[\x7b\"language\":\"" ++ language ++ "\",\"name\":\"" ++ name
    ++ "\"\x7d]\x7d"

/-- A request to the path with a name and a language, as they are written. -/
def templateRequest (method name language : String) : Request :=
  ⟨method, "/api/v1/templates/" ++ name ++ "/" ++ language, [], ""⟩

theorem encodes_en : Percent.Encodes "en" "en" := by
  have hkept : Percent.encode "en" = "en" := by decide +kernel
  have hencodes := Percent.encodes_encode "en"
  rwa [hkept] at hencodes

/-- A template whose name has blanks, slashes and letters beyond ASCII is read and removed. -/
theorem greeting_answers :
    let app := (freshApp.handle (bareLoad "Grüße 1/2" "en")).2
    Settings.default.apiKey = none ∧ Reachable Settings.default app ∧
      ∃ template ∈ app.catalog.list, template.key = ⟨"Grüße 1/2", "en"⟩ ∧
        (app.handle (templateRequest "GET" "Gr%C3%BC%C3%9Fe%201%2F2" "en")).1.status = 200 ∧
        (app.handle (templateRequest "GET" "Gr%C3%BC%C3%9Fe%201%2F2" "en")).1.body
          = .json template.toJson ∧
        (app.handle (templateRequest "DELETE" "Gr%C3%BC%C3%9Fe%201%2F2" "en")).1.status = 204 := by
  intro app
  have hreachable : Reachable Settings.default app := reachable_freshApp.handled _
  -- only the keys of the list are evaluated
  have hkeys : app.catalog.list.map Template.key = [⟨"Grüße 1/2", "en"⟩] := by decide +kernel
  obtain ⟨template, hmem, hkey⟩ : ∃ template ∈ app.catalog.list,
      template.key = ⟨"Grüße 1/2", "en"⟩ := by
    rw [← List.mem_map, hkeys]
    exact List.mem_singleton_self _
  have hname : Percent.Encodes "Gr%C3%BC%C3%9Fe%201%2F2" "Grüße 1/2" := by
    have hescaped : Percent.encode "Grüße 1/2" = "Gr%C3%BC%C3%9Fe%201%2F2" := by decide +kernel
    exact hescaped ▸ Percent.encodes_encode "Grüße 1/2"
  have haddresses (method : String) :
      (templateRequest method "Gr%C3%BC%C3%9Fe%201%2F2" "en").Addresses template.key := by
    rw [hkey]
    exact Request.addresses_of_target rfl hname encodes_en
  have hlanguage : template.language ≠ "" := by
    rw [(TemplateKey.mk.inj hkey).2]
    decide
  have hlisted := (listed_answers rfl hreachable).2 template hmem
  have hget := (hlisted _ (haddresses "GET") rfl).1 rfl
  have hdelete := (hlisted _ (haddresses "DELETE") rfl).2 rfl
  rw [if_neg hlanguage] at hget hdelete
  exact ⟨rfl, hreachable, template, hmem, hkey, hget.1, hget.2, hdelete.1⟩

/-- A template without a language can be loaded and is in the list, but it can neither be read nor
removed. -/
theorem languageless_unanswered :
    let app := (freshApp.handle (bareLoad "x" "")).2
    Settings.default.apiKey = none ∧ Reachable Settings.default app ∧
      app.catalog.list.map Template.key = [⟨"x", ""⟩] ∧
      (∀ method, (templateRequest method "x" "").Addresses ⟨"x", ""⟩) ∧
      (app.handle (templateRequest "GET" "x" "")).1.status = 404 ∧
      (app.handle (templateRequest "DELETE" "x" "")).1.status = 404 ∧
      (app.handle (templateRequest "DELETE" "x" "")).2 = app := by
  intro app
  have hreachable : Reachable Settings.default app := reachable_freshApp.handled _
  have hlimit : (readLimit? app.settings.server.bodyLimit []).isSome := by
    rw [hreachable.settings_eq]
    rfl
  have hkeys : app.catalog.list.map Template.key = [⟨"x", ""⟩] := by decide +kernel
  have hname : Percent.Encodes "x" "x" := by
    have hkept : Percent.encode "x" = "x" := by decide +kernel
    have hencodes := Percent.encodes_encode "x"
    rwa [hkept] at hencodes
  have hlanguage : Percent.Encodes "" "" := by
    have hempty : Percent.encode "" = "" := (Percent.encodes_encode "").eq_empty_iff.mpr rfl
    have hencodes := Percent.encodes_encode ""
    rwa [hempty] at hencodes
  have haddresses (method : String) : (templateRequest method "x" "").Addresses ⟨"x", ""⟩ :=
    Request.addresses_of_target rfl hname hlanguage
  -- an address does not end in an empty segment
  have hunknown (method : String) : Route.ofRequest (templateRequest method "x" "") = none := by
    show (pathOf? ("/api/v1/templates/" ++ "x" ++ "/" ++ "")).bind Route.ofPath = none
    decide
  have hget := handle_of_unknown hlimit (by decide) (hunknown "GET")
  have hdelete := handle_of_unknown hlimit (by decide) (hunknown "DELETE")
  exact ⟨rfl, hreachable, hkeys, haddresses, hget.1, hdelete.1, hdelete.2⟩

end App

end Courier.Http
