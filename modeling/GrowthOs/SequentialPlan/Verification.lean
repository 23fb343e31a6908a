import GrowthOs.SequentialPlan.Orchestrator

/-!
# Judging a result

`verifySequentialStepResult` compares what an executor returned with the success
criteria of its step; `tickSequentialPlan` turns the answer of an executor into
the result and the error it finalizes the claim with.
-/

namespace GrowthOs.SequentialPlan

open Js Throwing

structure Verification where
  passed : Bool
  failures : List String

/-- `String(field).split(".").filter(Boolean)`. -/
def fieldSegments (field : String) : List String :=
  ((field.toList.splitOn '.').filter fun cs => !cs.isEmpty).map String.ofList

/-- `current?.[segment]` along the segments. -/
def followSegments (value : Val) (segments : List String) : Val :=
  segments.foldl Val.member value

/-- `parseJson(step.success_criteria_json || step.success_criteria, ...)`; a row
has no `success_criteria`. -/
def successCriteria (step : StepRow) : Val :=
  parseJson (step.successCriteriaJson.or .undefined) (.obj [("result_ok", .bool true)])

/-- The required output fields, as text. -/
def requiredOutputFields (criteria : Val) : Except Val (List String) :=
  match criteria.member "required_output_fields" with
  | .arr fields => fields.mapM Val.toStr
  | _ => .ok []

def fieldMissing (result : Val) (field : String) : Bool :=
  (followSegments result (fieldSegments field)).isNullish

/-- What a result fails on, by the values of the two criteria. -/
def verificationFailures (resultOk : Val) (requiredFields : List String)
    (result : Val) : List String :=
  (if !resultOk.isFalse && !(result.member "ok").isTrue then
    ["result_ok_required"] else []) ++
  (requiredFields.filter (fieldMissing result)).map fun field =>
    "missing_output_field:" ++ field

def verifySequentialStepResult (step : StepRow) (result : Val) : Except Val Verification := do
  let criteria := successCriteria step
  let resultOk ← criteria.get "result_ok"
  let requiredFields ← requiredOutputFields criteria
  let failures := verificationFailures resultOk requiredFields result
  .ok ⟨failures.isEmpty, failures⟩

/-- The result and the error `tickSequentialPlan` finalizes a claim with, from
what the executor returned or threw. -/
def judge (step : StepRow) : Except Val Val → Val × Val
  | .error error => (.undefined, error)
  | .ok result =>
    match verifySequentialStepResult step result with
    | .error error => (result, error)
    | .ok verification =>
      if verification.passed then (result, .null)
      else
        (result, validationError ("Sequential step verification failed: " ++
            ", ".intercalate verification.failures)
          "sequential_step_verification_failed")

/-- The result passes the verification of the step. -/
def passes (step : StepRow) (result : Val) : Bool :=
  match verifySequentialStepResult step result with
  | .ok verification => verification.passed
  | .error _ => false

variable {result : Val}

theorem verificationFailures_isEmpty {resultOk : Val} {fields : List String} :
    (verificationFailures resultOk fields result).isEmpty = true ↔
      (resultOk.isFalse = true ∨ (result.member "ok").isTrue = true) ∧
      ∀ field ∈ fields, fieldMissing result field = false := by
  rw [List.isEmpty_iff, verificationFailures, List.append_eq_nil_iff,
    List.map_eq_nil_iff, List.filter_eq_nil_iff]
  cases resultOk.isFalse <;> cases (result.member "ok").isTrue <;> simp

variable {step : StepRow}

/-- What a result that passes has: it is ok unless the criteria do not ask for
that, and no required field is missing. -/
theorem passes_iff :
    passes step result = true ↔ ∃ resultOk fields,
      (successCriteria step).get "result_ok" = .ok resultOk ∧
      requiredOutputFields (successCriteria step) = .ok fields ∧
      (resultOk.isFalse = true ∨ (result.member "ok").isTrue = true) ∧
      ∀ field ∈ fields, fieldMissing result field = false := by
  unfold passes
  constructor
  · intro h
    cases hverify : verifySequentialStepResult step result with
    | error error => simp [hverify] at h
    | ok verification =>
      rw [hverify] at h
      simp only [verifySequentialStepResult, bind_eq_ok] at hverify
      obtain ⟨resultOk, hok, fields, hfields, hverification⟩ := hverify
      cases hverification
      exact ⟨resultOk, fields, hok, hfields, verificationFailures_isEmpty.mp h⟩
  · rintro ⟨resultOk, fields, hok, hfields, hpassed⟩
    have hverify : verifySequentialStepResult step result =
        .ok ⟨(verificationFailures resultOk fields result).isEmpty,
          verificationFailures resultOk fields result⟩ := by
      simp only [verifySequentialStepResult, bind_eq_ok]
      exact ⟨resultOk, hok, fields, hfields, rfl⟩
    rw [hverify]
    exact verificationFailures_isEmpty.mpr hpassed

/-- A tick takes a result that passes as it is. -/
theorem judge_of_passes (h : passes step result = true) :
    judge step (.ok result) = (result, .null) := by
  unfold passes at h
  cases hverify : verifySequentialStepResult step result with
  | error error => simp [hverify] at h
  | ok verification =>
    rw [hverify] at h
    simp only [judge, hverify, h, if_true]

/-- Fields added to a result do not make it fail, as long as no required field
leads through one of them. -/
theorem passes_spread {fields extra : List (String × Val)} (h : passes step (.obj fields) = true)
    (hok : ∀ field ∈ extra, field.1 ≠ "ok") (hextra : ∀ field ∈ extra, field.2.isNullish = false)
    (hpaths : ∀ names, requiredOutputFields (successCriteria step) = .ok names →
      ∀ name ∈ names, ∀ segment rest, fieldSegments name = segment :: rest →
        segment ∈ extra.map Prod.fst → rest = []) :
    passes step (.obj (Val.spread fields extra)) = true := by
  obtain ⟨resultOk, names, hresult, hnames, hpassed, hpresent⟩ := passes_iff.mp h
  refine passes_iff.mpr ⟨resultOk, names, hresult, hnames, ?_, ?_⟩
  · refine hpassed.imp_right fun htrue => ?_
    obtain ⟨-, hlookup⟩ | ⟨field, hfield, hname, -⟩ :=
      Val.lookup_spread fields extra "ok"
    · simpa [Val.member, hlookup] using htrue
    · exact absurd hname (hok field hfield)
  · intro name hname
    have hbefore := hpresent name hname
    unfold fieldMissing at hbefore ⊢
    cases hsegments : fieldSegments name with
    | nil => rfl
    | cons segment rest =>
      rw [hsegments] at hbefore
      simp only [followSegments, List.foldl_cons, Val.member] at hbefore ⊢
      obtain ⟨-, hlookup⟩ | ⟨field, hfield, hkey, hlookup⟩ :=
        Val.lookup_spread fields extra segment
      · rw [hlookup]
        exact hbefore
      · have hrest := hpaths names hnames name hname segment rest hsegments
          (List.mem_map.mpr ⟨field, hfield, hkey⟩)
        rw [hrest, hlookup]
        exact hextra field hfield

end GrowthOs.SequentialPlan
