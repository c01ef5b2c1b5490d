import Courier.Template.Compile

/-!
# Metrics

What the service counts: extractions and the slots they gave, compiled payloads with and without
fallbacks, fallbacks by kind, and session messages by kind. Counters only rise. The number of
templates is not counted but read off the catalog when the metrics are asked for.
-/

namespace Courier

/-- The kinds of session messages. -/
inductive SessionKind where
  | text
  | read
  | typing
  deriving DecidableEq, Repr, Inhabited

/-- The name of a kind of session message. -/
def SessionKind.name : SessionKind → String
  | .text => "text"
  | .read => "read"
  | .typing => "typing"

/-- The counters of the service. -/
structure Counters where
  extractions : Nat
  slotsExtracted : Nat
  compiledComplete : Nat
  compiledWithFallbacks : Nat
  fallbacks : FallbackKind → Nat
  sessionMessages : SessionKind → Nat

namespace Counters

/-- Nothing has been counted. -/
def zero : Counters := ⟨0, 0, 0, 0, fun _ => 0, fun _ => 0⟩

/-- Counts an extraction. -/
def recordExtraction (counters : Counters) (slots : List Slot) : Counters :=
  { counters with
    extractions := counters.extractions + 1
    slotsExtracted := counters.slotsExtracted + slots.length }

/-- Counts a compiled payload with its fallbacks. -/
def recordCompiled (counters : Counters) (fallbacks : List Fallback) : Counters :=
  { counters with
    compiledComplete := counters.compiledComplete + if fallbacks.isEmpty then 1 else 0
    compiledWithFallbacks := counters.compiledWithFallbacks + if fallbacks.isEmpty then 0 else 1
    fallbacks := fun kind =>
      counters.fallbacks kind + fallbacks.countP fun fallback => fallback.kind = kind }

/-- Counts a session message. -/
def recordSession (counters : Counters) (kind : SessionKind) : Counters :=
  { counters with
    sessionMessages := fun k => counters.sessionMessages k + if k = kind then 1 else 0 }

/-- A sample name with one label. -/
def labelled (name label value : String) : String :=
  name ++ "\x7b" ++ label ++ "=\"" ++ value ++ "\"\x7d"

/-- The counters as samples. Every compilation is timed, so the number of timings is that of
compiled payloads. -/
def samples (counters : Counters) : List (String × Nat) :=
  [("waba_template_extractions_total", counters.extractions),
   ("waba_template_slots_extracted_total", counters.slotsExtracted),
   (labelled "waba_template_payloads_compiled_total" "outcome" "complete",
     counters.compiledComplete),
   (labelled "waba_template_payloads_compiled_total" "outcome" "with_fallbacks",
     counters.compiledWithFallbacks),
   ("waba_template_compile_latency_seconds_count",
     counters.compiledComplete + counters.compiledWithFallbacks)]
  ++ ([.rawToken, .buttonPlaceholder, .flowToken, .malformedFlowActionData, .mediaOmitted] :
      List FallbackKind).map (fun kind =>
        (labelled "waba_template_fallbacks_applied_total" "kind" kind.name,
          counters.fallbacks kind))
  ++ ([.text, .read, .typing] : List SessionKind).map fun kind =>
      (labelled "waba_template_session_messages_total" "kind" kind.name,
        counters.sessionMessages kind)

/-- The name of the sample with the number of templates. -/
def templatesGauge : String := "waba_template_catalog_templates"

end Counters

end Courier
