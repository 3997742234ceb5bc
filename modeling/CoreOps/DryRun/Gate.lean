import CoreOps.DryRun.ErrorRows
import CoreOps.Lib.JsonObject

/-! The gate between a dry run and a staging import: the run is written down as a masked
report, and the import reads the report back and goes on only if it has no error rows. -/

namespace CoreOps.DryRun

open Checked

/-- What a masked report says besides its counts. -/
structure ReportFacts where
  generatedAtUtc : String
  backupId : String
  tenantId : String
  defaultBranchId : String
  scenarioName : String

def entityCounts (e : EntitySummary) : Json :=
  .obj (Json.ofPairs [("entity", .str e.entity), ("source_count", .int e.sourceCount),
    ("imported_count", .int e.importedCount), ("skipped_count", .int e.skippedCount),
    ("error_count", .int e.errorCount), ("review_count", .int e.reviewCount)])

theorem canonical_entityCounts (e : EntitySummary) : Json.Canonical (entityCounts e) :=
  Json.ofPairs_canonical (by simp)

def maskedSummary (s : BatchSummary) : JsonObject :=
  .ofList [("source_system", .str s.sourceSystem), ("total_source_rows", .int s.totalSourceRows),
    ("total_imported_rows", .int s.totalImportedRows), ("total_skipped_rows", .int s.totalSkippedRows),
    ("total_error_rows", .int s.totalErrorRows), ("total_review_rows", .int s.totalReviewRows),
    ("status_mapping_warnings", .int s.statusMappingWarnings),
    ("entity_counts", .arr (s.entities.map entityCounts))] (by
      have hentities : Json.Canonical (.arr (s.entities.map entityCounts)) := by
        refine .arr fun j hj => ?_
        obtain ⟨e, -, rfl⟩ := List.mem_map.1 hj
        exact canonical_entityCounts e
      simpa using hentities)

/-- `build_masked_gate_b_report`, without the members that the gate does not read. -/
def maskedReport (facts : ReportFacts) (result : Result) : JsonObject :=
  .ofList [("gate", .str "B"), ("mode", .str "real-source-readonly"), ("generated_at_utc", .str facts.generatedAtUtc),
    ("backup_id", .str facts.backupId), ("tenant_id", .str facts.tenantId),
    ("default_branch_id", .str facts.defaultBranchId), ("scenario_name", .str facts.scenarioName),
    ("summary", .obj (maskedSummary result.summary).members)] (by
      have hsummary := (maskedSummary result.summary).canonical
      simpa using hsummary)

/-- The text of a masked report. -/
def reportText (facts : ReportFacts) (result : Result) : List Char := (maskedReport facts result).text ⟨some 2, 1⟩

inductive GateError
  | preflight (message : String)
  | crash
  deriving DecidableEq, Repr

/-- What the gate takes from outside: the patterns it scans a text for, and what the JSON
reader says of a text that it cannot read. -/
structure GateRuntime where
  scanTextForSuspiciousPii : List Char → List String
  jsonErrorText : List Char → String

def str? (o : JsonObject) (key : String) : Option String :=
  match o.get? key with
  | some (.str s) => some s
  | _ => none

/-- `summary.get("total_error_rows", 0)`. -/
def errorRows (summary : JsonObject) : Except GateError ℚ :=
  match summary.get? "total_error_rows" with
  | none => .ok 0
  | some j => orRaise j.number? .crash

/-- `report.get("summary") or {}`. -/
def summaryOf (report : JsonObject) : Except GateError JsonObject :=
  if (report.get? "summary").any Json.truthy then orRaise (report.object? "summary") .crash else .ok ∅

def sorted (findings : List String) : List String := findings.dedup.mergeSort fun a b => a ≤ b

/-- `parse_masked_dry_run_report`; `file` is the text at the path, if there is a file. -/
def parseMaskedDryRunReport (gate : GateRuntime) (path : String) (file : Option (List Char)) :
    Except GateError JsonObject := do
  let payload ← orRaise file (.preflight s!"--dry-run-report not found: {path}")
  let findings := gate.scanTextForSuspiciousPii payload
  raiseIf (findings ≠ [])
    (.preflight ("Dry-run report failed masked PII scan: " ++ ", ".intercalate (sorted findings)))
  raiseIf (Json.loads payload).isNone
    (.preflight ("--dry-run-report is not valid JSON: " ++ gate.jsonErrorText payload))
  let report ← orRaise (JsonObject.ofText? payload) .crash
  raiseIf (str? report "gate" ≠ some "B" ∨ str? report "mode" ≠ some "real-source-readonly")
    (.preflight "--dry-run-report must be Gate B real-source-readonly output")
  let summary ← summaryOf report
  let rows ← errorRows summary
  raiseIf (rows > 0) (.preflight "--dry-run-report has error rows; write-import planning blocked")
  return report

section Read

variable (facts : ReportFacts) (result : Result)

theorem loads_reportText : Json.loads (reportText facts result) = some (.obj (maskedReport facts result).members) :=
  Json.loads_dumps _ (maskedReport facts result).canonical

theorem str?_maskedReport : str? (maskedReport facts result) "gate" = some "B" ∧
    str? (maskedReport facts result) "mode" = some "real-source-readonly" := by
  constructor <;> simp [str?, maskedReport, JsonObject.get?_ofList, List.lookup_cons]

theorem summaryOf_maskedReport : summaryOf (maskedReport facts result) = .ok (maskedSummary result.summary) := by
  have hget : (maskedReport facts result).get? "summary" = some (.obj (maskedSummary result.summary).members) := by
    simp [maskedReport, JsonObject.get?_ofList]
  have hmembers : (maskedSummary result.summary).members ≠ [] := by
    intro hnil
    have hrows : (maskedSummary result.summary).get? "total_error_rows" = some (.int result.summary.totalErrorRows) := by
      simp [maskedSummary, JsonObject.get?_ofList, List.lookup_cons]
    rw [JsonObject.get?, hnil] at hrows
    cases hrows
  have htruthy : ((maskedReport facts result).get? "summary").any Json.truthy = true := by
    simp [hget, Json.truthy, hmembers]
  rw [summaryOf, if_pos htruthy, JsonObject.object?_of_get? hget]
  rfl

theorem errorRows_maskedSummary (s : BatchSummary) : errorRows (maskedSummary s) = .ok (s.totalErrorRows : ℚ) := by
  simp [errorRows, maskedSummary, JsonObject.get?_ofList, List.lookup_cons, Json.number?, orRaise]

end Read

/-- The gate reads a masked report back, and stops at its error rows. -/
theorem parse_reportText (gate : GateRuntime) (path : String) (facts : ReportFacts) (result : Result) :
    parseMaskedDryRunReport gate path (some (reportText facts result)) = (do
      let findings := gate.scanTextForSuspiciousPii (reportText facts result)
      raiseIf (findings ≠ [])
        (.preflight ("Dry-run report failed masked PII scan: " ++ ", ".intercalate (sorted findings)))
      raiseIf (0 < result.summary.totalErrorRows)
        (.preflight "--dry-run-report has error rows; write-import planning blocked")
      return maskedReport facts result) := by
  have hobject : JsonObject.ofText? (reportText facts result) = some (maskedReport facts result) :=
    JsonObject.ofText?_text _ _
  obtain ⟨hgate, hmode⟩ := str?_maskedReport facts result
  have hrows : (0 : ℚ) < result.summary.totalErrorRows ↔ 0 < result.summary.totalErrorRows := Nat.cast_pos
  simp only [parseMaskedDryRunReport, orRaise, loads_reportText, hobject, hgate, hmode, summaryOf_maskedReport,
    errorRows_maskedSummary, gt_iff_lt, hrows, bind, Except.bind]
  by_cases hfindings : gate.scanTextForSuspiciousPii (reportText facts result) = []
  · simp [raiseIf, hfindings]
  · simp [raiseIf, hfindings]

/-- What the errors of a run have to mean for the gate: they are error rows of the summary,
and the masked report is refused. -/
def GateSound (result : Result) : Prop :=
  (∃ i ∈ result.report.issues, i.severity = .error) → 1 ≤ result.summary.totalErrorRows ∧
    ∀ gate path facts report, parseMaskedDryRunReport gate path (some (reportText facts result)) ≠ .ok report

/-- Every user has a login, or some other error is counted: the branch is missing, a client
has no name, or a payload is refused by its schema. -/
def ErrorsCounted (rt : Runtime) (data : Dataset) (context : Context) : Prop :=
  (∀ u ∈ data.users, loginOf rt u ≠ "") ∨ context.defaultBranchId = none ∨
    (∃ c ∈ data.clients, displayNameOf c = "") ∨ ∃ r ∈ refusalsOf rt data context, r ≠ .ok ()

theorem missingLogins_eq_zero {rt : Runtime} {data : Dataset} :
    missingLogins rt data = 0 ↔ ∀ u ∈ data.users, loginOf rt u ≠ "" := by
  simp [missingLogins, blankLogin, List.sum_eq_zero_iff]

theorem countedErrors_eq_zero {rt : Runtime} {data : Dataset} {context : Context} :
    countedErrors rt data context = 0 ↔ context.defaultBranchId ≠ none ∧ (∀ c ∈ data.clients, displayNameOf c ≠ "") ∧
      ∀ r ∈ refusalsOf rt data context, r = .ok () := by
  have hbranch : tenantErrors context = 0 ↔ context.defaultBranchId ≠ none := by
    cases h : context.defaultBranchId <;> simp [tenantErrors, branchReadiness, h]
  have hclients : unnamedClients data = 0 ↔ ∀ c ∈ data.clients, displayNameOf c ≠ "" := by
    simp [unnamedClients, blankName, List.sum_eq_zero_iff]
  rw [← hbranch, ← hclients, ← refusal_sum_eq_zero, countedErrors]
  omega

/-- The gate is sound of a run exactly when the run counts an error or has none to count. -/
theorem gateSound_iff {rt : Runtime} {data : Dataset} {context : Context} {result : Result}
    (h : run rt data context = .ok result) : GateSound result ↔ ErrorsCounted rt data context := by
  obtain ⟨htotal, herrors⟩ := run_errors h
  have hexists : (∃ i ∈ result.report.issues, i.severity = .error) ↔
      0 < countedErrors rt data context + missingLogins rt data := by
    rw [← herrors, List.length_pos_iff_exists_mem]
    simp
  have hcounted : ErrorsCounted rt data context ↔
      missingLogins rt data = 0 ∨ countedErrors rt data context ≠ 0 := by
    rw [ne_eq, countedErrors_eq_zero, missingLogins_eq_zero, ErrorsCounted]
    simp only [ne_eq, not_and_or, not_not, not_forall, exists_prop]
  have hrefused : 1 ≤ result.summary.totalErrorRows → ∀ gate path facts report,
      parseMaskedDryRunReport gate path (some (reportText facts result)) ≠ .ok report := by
    intro hrows gate path facts report hparse
    simp only [parse_reportText, bind_eq_ok, raiseIf_eq_ok] at hparse
    obtain ⟨-, -, -, hnone, -⟩ := hparse
    omega
  rw [hcounted, GateSound, hexists, htotal]
  rw [htotal] at hrefused
  constructor
  · intro hsound
    by_cases hlogins : missingLogins rt data = 0
    · exact .inl hlogins
    · have hrows := (hsound (by omega)).1
      exact .inr (by omega)
  · intro hcase hsome
    have hrows : 1 ≤ countedErrors rt data context := by omega
    exact ⟨hrows, hrefused hrows⟩

section Examples

def demoRuntime : Runtime where
  lower := Text.asciiLower
  upper s := String.ofList (s.toList.map Char.toUpper)
  errorText e := "validation error for " ++ e.schemaName

def row (fields : List (String × Value)) : Row := fields.foldl (fun r f => r.insert f.1 f.2) ∅

def demoContext : Context := ⟨1, some 2, none, "legacy_consult_app", "gate_b_real_source_readonly"⟩

/-- A user without a login, and nothing else that is wrong. -/
def demoDataset : Dataset where
  users := [row [("id", .str "u-1"), ("login", .str "owner")], row [("id", .str "u-2"), ("login", .none)]]
  clients := [row [("id", .str "c-1"), ("display_name", .str "Client A"), ("email", .str "a@synthetic.local")]]
  services := [row [("id", .str "s-1"), ("name", .str "Consulting")]]
  orders := [row [("id", .str "o-1"), ("number", .str "ORD-1"), ("client_id", .str "c-1"), ("status", .str "COMPLETED")]]
  payments := [row [("id", .str "p-1"), ("order_id", .str "o-1"), ("type", .str "INCOME"),
    ("amount", .number 7000 "7000")]]

def issueCodes (result : Result) : List (String × Severity) :=
  result.report.issues.map fun i => (i.issueCode, i.severity)

/-- The missing login is an error of the report, the summary has no error row, and the gate
lets the masked report pass: the run is not sound for the gate. -/
theorem missing_login_passes : ∃ result, run demoRuntime demoDataset demoContext = .ok result ∧
    issueCodes result = [("required_login", .error)] ∧ result.summary.totalErrorRows = 0 ∧ ¬ GateSound result ∧
    ∀ facts, parseMaskedDryRunReport ⟨fun _ => [], fun _ => ""⟩ "report.json" (some (reportText facts result)) =
      .ok (maskedReport facts result) := by
  have hrun : (fun result => (issueCodes result, result.summary.totalErrorRows)) <$>
      run demoRuntime demoDataset demoContext = .ok ([("required_login", .error)], 0) := by
    decide +kernel
  obtain ⟨result, hok, hview⟩ := map_eq_ok.1 hrun
  obtain ⟨hcodes, hrows⟩ := Prod.mk.inj hview
  have herror : ∃ i ∈ result.report.issues, i.severity = .error := by
    have hmem : ("required_login", Severity.error) ∈ issueCodes result := by simp [hcodes]
    obtain ⟨i, hi, hcode⟩ := List.mem_map.1 hmem
    exact ⟨i, hi, congrArg Prod.snd hcode⟩
  refine ⟨result, hok, hcodes, hrows, fun hsound => ?_, fun facts => ?_⟩
  · have hone := (hsound herror).1
    omega
  · simp [parse_reportText, hrows, raiseIf, bind, Except.bind, pure, Except.pure]

/-- A client without a name, next to the user without a login. -/
def unnamedDataset : Dataset := { demoDataset with clients := [row [("id", .str "c-1")]] }

/-- The theorem where a client has no name either: that error is counted. -/
theorem gateSound_iff_unnamed : ∃ result, run demoRuntime unnamedDataset demoContext = .ok result ∧
    issueCodes result = [("required_login", .error), ("required_display_name", .error)] ∧ GateSound result := by
  have hrun : issueCodes <$> run demoRuntime unnamedDataset demoContext =
      .ok [("required_login", .error), ("required_display_name", .error)] := by
    decide +kernel
  obtain ⟨result, hok, hcodes⟩ := map_eq_ok.1 hrun
  have hunnamed : ∃ c ∈ unnamedDataset.clients, displayNameOf c = "" := by decide
  exact ⟨result, hok, hcodes, (gateSound_iff hok).2 (.inr (.inr (.inl hunnamed)))⟩

end Examples

end CoreOps.DryRun
