import Mathlib.Algebra.Order.BigOperators.Group.List
import CoreOps.DryRun.Pipeline

/-! What a dry run counts of the errors that it reports. Each part of a run adds so many
error issues, and so much to the counters that the summary is made of; in the end the two
differ by the users without a login. -/

namespace CoreOps.DryRun

open Checked

def Tally.errors (t : Tally) : ℕ := (t.issues.filter fun i => i.severity = .error).length

/-- What a part of a run adds: error issues, missing fields, refused payloads. -/
structure Adds (errors required refused : ℕ) (t t' : Tally) : Prop where
  errors_eq : t'.errors = t.errors + errors
  required_eq : t'.requiredFieldErrors = t.requiredFieldErrors + required
  refused_eq : t'.validationErrors = t.validationErrors + refused

theorem Adds.refl (t : Tally) : Adds 0 0 0 t t := ⟨rfl, rfl, rfl⟩

theorem Adds.trans {a b c a' b' c' : ℕ} {t t' t'' : Tally} (h : Adds a b c t t') (h' : Adds a' b' c' t' t'') :
    Adds (a + a') (b + b') (c + c') t t'' := by
  obtain ⟨h₁, h₂, h₃⟩ := h
  obtain ⟨h₁', h₂', h₃'⟩ := h'
  constructor <;> omega

theorem adds_count (t : Tally) (counter : Counter) : Adds 0 0 0 t (t.count counter) := by
  cases counter <;> exact ⟨rfl, rfl, rfl⟩

theorem adds_addIssue {t t' : Tally} {entity issueCode message : String} {severity : Severity} {ref : Value}
    (h : t.addIssue entity issueCode severity ref message = .ok t') :
    Adds (if severity = .error then 1 else 0) 0 0 t t' := by
  unfold Tally.addIssue at h
  split at h
  · obtain rfl := Except.ok.inj h
    refine ⟨?_, rfl, rfl⟩
    simp only [Tally.errors, List.filter_append, List.length_append]
    cases severity <;> rfl
  · cases h

theorem adds_warnIf {t t' : Tally} {p : Prop} [Decidable p] {counter : Counter} {entity issueCode message : String}
    {ref : Value} (h : t.warnIf p counter entity issueCode ref message = .ok t') : Adds 0 0 0 t t' := by
  unfold Tally.warnIf at h
  split at h
  · exact (adds_count t counter).trans (adds_addIssue h)
  · obtain rfl := Except.ok.inj h
    exact .refl t

/-- A loop adds what its rounds add. -/
theorem adds_foldlM {α β : Type} (tally : β → Tally) (e r v : α → ℕ) {f : β → α → Except RunError β} {as : List α}
    (hs : ∀ b a b', f b a = .ok b' → Adds (e a) (r a) (v a) (tally b) (tally b')) {b b' : β}
    (h : as.foldlM f b = .ok b') :
    Adds (as.map e).sum (as.map r).sum (as.map v).sum (tally b) (tally b') := by
  induction as generalizing b with
  | nil =>
    rw [List.foldlM_nil, pure_eq_ok] at h
    exact h ▸ .refl _
  | cons a as ih =>
    rw [List.foldlM_cons, bind_eq_ok] at h
    obtain ⟨b₁, h₁, h₂⟩ := h
    exact (hs b a b₁ h₁).trans (ih h₂)

/-- A loop whose rounds add no errors adds none. -/
theorem adds_foldlM_zero {α β : Type} (tally : β → Tally) {f : β → α → Except RunError β} {as : List α}
    (hs : ∀ b a b', f b a = .ok b' → Adds 0 0 0 (tally b) (tally b')) {b b' : β} (h : as.foldlM f b = .ok b') :
    Adds 0 0 0 (tally b) (tally b') := by
  simpa using adds_foldlM tally (fun _ => 0) (fun _ => 0) (fun _ => 0) hs h

/-! The rows. -/

section Rows

variable {rt : Runtime} {context : Context} {data : Dataset}

def blankLogin (rt : Runtime) (u : Row) : ℕ := if loginOf rt u = "" then 1 else 0

def blankName (c : Row) : ℕ := if displayNameOf c = "" then 1 else 0

/-- A user without a login is an error that no counter counts. -/
theorem checkUser_adds {acc acc' : Tally × List String} {u : Row} (h : checkUser rt acc u = .ok acc') :
    Adds (blankLogin rt u) 0 0 acc.1 acc'.1 := by
  obtain ⟨t, loginSeen⟩ := acc
  simp only [checkUser] at h
  by_cases hblank : loginOf rt u = ""
  · simp only [if_pos hblank, bind_eq_ok, pure_eq_ok] at h
    obtain ⟨t', ht, rfl⟩ := h
    rw [blankLogin, if_pos hblank]
    exact adds_addIssue ht
  · rw [blankLogin, if_neg hblank]
    rw [if_neg hblank] at h
    split at h
    · simp only [bind_eq_ok, pure_eq_ok] at h
      obtain ⟨t', ht, rfl⟩ := h
      exact (adds_count t .duplicate).trans (adds_addIssue ht)
    · obtain rfl := pure_eq_ok.1 h
      exact .refl t

/-- The payload a client becomes, if it has a name. -/
def partyPayloads (rt : Runtime) (c : Row) : List PartyPayload :=
  if displayNameOf c = "" then [] else [partyPayload rt c]

/-- A client without a name is an error, and counted. -/
theorem checkClient_adds {acc acc' : Tally × List PartyPayload} {c : Row} (h : checkClient rt acc c = .ok acc') :
    Adds (blankName c) (blankName c) 0 acc.1 acc'.1 ∧
      acc'.2 = acc.2 ++ partyPayloads rt c := by
  obtain ⟨t, payloads⟩ := acc
  simp only [checkClient] at h
  by_cases hblank : displayNameOf c = ""
  · simp only [if_pos hblank, bind_eq_ok, pure_eq_ok] at h
    obtain ⟨t', ht, rfl⟩ := h
    obtain ⟨herrors, hrequired, hrefused⟩ := adds_addIssue ht
    rw [blankName, partyPayloads, if_pos hblank, if_pos hblank, List.append_nil]
    exact ⟨⟨herrors, hrequired, hrefused⟩, rfl⟩
  · rw [if_neg hblank] at h
    obtain rfl := pure_eq_ok.1 h
    rw [blankName, partyPayloads, if_neg hblank, if_neg hblank]
    exact ⟨.refl t, rfl⟩

/-- The payload of a row, if the row can be read. -/
def readable {P : Type} : Except RunError P → List P
  | .ok p => [p]
  | .error _ => []

/-- The payload an order becomes, if its status can be mapped. -/
def workItemPayloads (rt : Runtime) (o : Row) : List WorkItemPayload :=
  readable do
    let mapped ← mapLegacyOrderStatus rt (o.get "status")
    return workItemPayload o mapped

theorem checkOrder_adds {clientIds : List Value} {acc acc' : Tally × List WorkItemPayload} {o : Row}
    (h : checkOrder rt clientIds acc o = .ok acc') :
    Adds 0 0 0 acc.1 acc'.1 ∧ acc'.2 = acc.2 ++ workItemPayloads rt o := by
  simp only [checkOrder, bind_eq_ok, pure_eq_ok] at h
  obtain ⟨mapped, hmapped, t₁, h₁, known, -, t₂, h₂, rfl⟩ := h
  exact ⟨(adds_warnIf h₁).trans (adds_warnIf h₂), by rw [workItemPayloads, hmapped]; rfl⟩

theorem checkOrderStage_adds {orderIds : List Value} {t t' : Tally} {st : Row}
    (h : checkOrderStage rt orderIds t st = .ok t') : Adds 0 0 0 t t' := by
  simp only [checkOrderStage, bind_eq_ok] at h
  obtain ⟨_, -, t₁, h₁, t₂, h₂, known, -, h₃⟩ := h
  exact ((adds_warnIf h₁).trans (adds_warnIf h₂)).trans (adds_warnIf h₃)

theorem checkOrderItem_adds {orderIds serviceIds : List Value} {t t' : Tally} {line : Row}
    (h : checkOrderItem orderIds serviceIds t line = .ok t') : Adds 0 0 0 t t' := by
  simp only [checkOrderItem, bind_eq_ok] at h
  obtain ⟨known, -, t₁, h₁, known', -, h₂⟩ := h
  exact (adds_warnIf h₁).trans (adds_warnIf h₂)

/-- The payload a contract becomes, if its status is a text and its amount a number. -/
def documentPayloads (context : Context) (c : Row) : List DocumentPayload :=
  readable do
    let amount ← amountOf (c.get "amount")
    let legacyStatus ← optionalText (c.get "status")
    return documentPayload context c legacyStatus amount

theorem checkContract_adds {acc acc' : Tally × List DocumentPayload} {c : Row}
    (h : checkContract rt context acc c = .ok acc') :
    Adds 0 0 0 acc.1 acc'.1 ∧ acc'.2 = acc.2 ++ documentPayloads context c := by
  simp only [checkContract, bind_eq_ok, pure_eq_ok] at h
  obtain ⟨amount, hamount, legacyStatus, hstatus, t₁, h₁, t₂, h₂, rfl⟩ := h
  refine ⟨?_, by rw [documentPayloads, hamount, hstatus]; rfl⟩
  have hreview := (adds_warnIf h₁).trans (adds_warnIf h₂)
  split at hreview
  · exact (adds_count acc.1 .unknownStatus).trans hreview
  · exact hreview

/-- The payload a payment becomes, if its type can be mapped and its amount is a number. -/
def paymentPayloads (rt : Runtime) (p : Row) : List PaymentPayload :=
  readable do
    let amount ← amountOf (p.get "amount")
    let type ← legacyPaymentType rt (p.get "type")
    return paymentPayload p type amount

theorem checkPayment_adds {orderIds : List Value} {acc acc' : PaymentTally} {p : Row}
    (h : checkPayment rt orderIds acc p = .ok acc') :
    Adds 0 0 0 acc.tally acc'.tally ∧ acc'.payloads = acc.payloads ++ paymentPayloads rt p ∧
      (acc.sourceTotal = acc.mappedTotal → acc'.sourceTotal = acc'.mappedTotal) := by
  simp only [checkPayment, addAmount, bind_eq_ok, pure_eq_ok] at h
  obtain ⟨amount, hamount, _, ⟨-, -, rfl⟩, type, htype, t₁, h₁, known, -, t₂, h₂, _, ⟨-, -, rfl⟩, rfl⟩ := h
  refine ⟨(adds_warnIf h₁).trans (adds_warnIf h₂), by rw [paymentPayloads, hamount, htype]; rfl, fun htotal => ?_⟩
  show Finance.add acc.sourceTotal amount = Finance.add acc.mappedTotal amount
  rw [htotal]

/-! The parts of a run. -/

def missingLogins (rt : Runtime) (data : Dataset) : ℕ := (data.users.map (blankLogin rt)).sum

def unnamedClients (data : Dataset) : ℕ := (data.clients.map blankName).sum

theorem checkContext_adds {t t' : Tally} (h : checkContext context t = .ok t') :
    Adds (tenantErrors context) 0 0 t t' := by
  unfold checkContext at h
  unfold tenantErrors branchReadiness
  split at h
  · rename_i hready
    simp only [if_pos hready]
    obtain rfl := Except.ok.inj h
    exact .refl t
  · rename_i hready
    simp only [if_neg hready]
    exact adds_addIssue h

theorem users_adds {acc acc' : Tally × List String} (h : data.users.foldlM (checkUser rt) acc = .ok acc') :
    Adds (missingLogins rt data) 0 0 acc.1 acc'.1 := by
  have hadds := adds_foldlM Prod.fst (blankLogin rt) (fun _ => 0) (fun _ => 0) (fun _ _ _ => checkUser_adds) h
  simpa [missingLogins] using hadds

theorem clients_adds {acc acc' : Tally × List PartyPayload} (h : data.clients.foldlM (checkClient rt) acc = .ok acc') :
    Adds (unnamedClients data) (unnamedClients data) 0 acc.1 acc'.1 := by
  have hadds := adds_foldlM Prod.fst blankName blankName (fun _ => 0) (fun _ _ _ h => (checkClient_adds h).1) h
  simpa [unnamedClients] using hadds

/-- What the schemas are asked about, as a function of the dataset. -/
def refusalsOf (rt : Runtime) (data : Dataset) (context : Context) : List (Except SchemaError Unit) :=
  [validatePayloads PartyPayload.validate (data.clients.flatMap (partyPayloads rt)),
    validatePayloads CatalogItemPayload.validate (data.services.map catalogPayload),
    validatePayloads WorkItemPayload.validate (data.orders.flatMap (workItemPayloads rt)),
    validatePayloads DocumentPayload.validate (data.contracts.flatMap (documentPayloads context)),
    validatePayloads PaymentPayload.validate (data.payments.flatMap (paymentPayloads rt))]

theorem checkRows_ok {c : Checks} (h : checkRows rt data context = .ok c) :
    Adds (tenantErrors context + missingLogins rt data + unnamedClients data) (unnamedClients data) 0 {} c.tally ∧
      financeErrors c = 0 ∧ refusals c = refusalsOf rt data context := by
  simp only [checkRows, bind_eq_ok, pure_eq_ok] at h
  obtain ⟨t₀, h₀, ⟨t₁, seen⟩, h₁, clientIds, -, serviceIds, -, orderIds, -, ⟨t₂, parties⟩, h₂, ⟨t₃, workItems⟩, h₃,
    t₄, h₄, t₅, h₅, ⟨t₆, documents⟩, h₆, p, h₇, t₇, h₈, rfl⟩ := h
  have hcontext := checkContext_adds h₀
  have husers := users_adds h₁
  have hclients := clients_adds h₂
  have horders := adds_foldlM_zero Prod.fst (fun _ _ _ h => (checkOrder_adds h).1) h₃
  have hstages := adds_foldlM_zero id (fun _ _ _ => checkOrderStage_adds) h₄
  have hitems := adds_foldlM_zero id (fun _ _ _ => checkOrderItem_adds) h₅
  have hcontracts := adds_foldlM_zero Prod.fst (fun _ _ _ h => (checkContract_adds h).1) h₆
  have hpayments := adds_foldlM_zero PaymentTally.tally (fun _ _ _ h => (checkPayment_adds h).1) h₇
  have htotal : p.sourceTotal = p.mappedTotal :=
    foldlM_invariant (fun p => p.sourceTotal = p.mappedTotal)
      (fun _ _ _ _ hb h => (checkPayment_adds h).2.2 hb) rfl h₇
  have hpassed : p.financeCheck.passed = true := decide_eq_true htotal
  rw [checkFinance, if_pos hpassed] at h₈
  obtain rfl := Except.ok.inj h₈
  refine ⟨?_, ?_, ?_⟩
  · have hrows := ((((((hcontext.trans husers).trans hclients).trans horders).trans hstages).trans hitems).trans
      hcontracts).trans hpayments
    simpa only [add_zero, zero_add] using hrows
  · exact if_pos hpassed
  · have hparties := foldlM_flatMap Prod.snd (g := partyPayloads rt) (fun _ _ _ h => (checkClient_adds h).2) h₂
    have hworkItems := foldlM_flatMap Prod.snd (g := workItemPayloads rt) (fun _ _ _ h => (checkOrder_adds h).2) h₃
    have hdocuments := foldlM_flatMap Prod.snd (g := documentPayloads context)
      (fun _ _ _ h => (checkContract_adds h).2) h₆
    have hpayloads := foldlM_flatMap PaymentTally.payloads (g := paymentPayloads rt)
      (fun _ _ _ h => (checkPayment_adds h).2.1) h₇
    simp only [List.nil_append] at hparties hworkItems hdocuments hpayloads
    simp only [refusals, refusalsOf, hparties, hworkItems, hdocuments, hpayloads]

/-- A schema that refuses a payload is an error, and counted. -/
def refusal : Except SchemaError Unit → ℕ
  | .ok () => 0
  | .error _ => 1

theorem refusal_sum_eq_zero {rs : List (Except SchemaError Unit)} :
    (rs.map refusal).sum = 0 ↔ ∀ r ∈ rs, r = .ok () := by
  have hone : ∀ r : Except SchemaError Unit, refusal r = 0 ↔ r = .ok () := by
    intro r
    rcases r with e | ⟨⟩ <;> simp [refusal]
  simp [List.sum_eq_zero_iff, hone]

theorem reportRefusal_adds {ref : String} {t t' : Tally} {r : Except SchemaError Unit}
    (h : reportRefusal rt ref t r = .ok t') : Adds (refusal r) 0 (refusal r) t t' := by
  rcases r with e | ⟨⟩
  · simp only [reportRefusal] at h
    obtain ⟨herrors, hrequired, hrefused⟩ := adds_addIssue h
    exact ⟨herrors, hrequired, hrefused⟩
  · obtain rfl := Except.ok.inj h
    exact .refl t

theorem validate_tenantPayload : tenantPayload.validate = .ok () := by decide

theorem checkTarget_adds {c : Checks} {t : Tally} (h : checkTarget rt c = .ok t) :
    Adds ((refusals c).map refusal).sum 0 ((refusals c).map refusal).sum c.tally t := by
  simp only [checkTarget, bind_eq_ok, validate_tenantPayload] at h
  obtain ⟨t₁, h₁, h₂⟩ := h
  have htenant := reportRefusal_adds h₁
  have hschemas := adds_foldlM id refusal (fun _ => 0) refusal (fun _ _ _ => reportRefusal_adds) h₂
  simpa [refusal] using htenant.trans hschemas

/-- The errors that are counted: a missing branch, clients without a name, refused payloads. -/
def countedErrors (rt : Runtime) (data : Dataset) (context : Context) : ℕ :=
  tenantErrors context + unnamedClients data + ((refusalsOf rt data context).map refusal).sum

/-- The error issues of a run are the errors its summary counts and the users without a
login. -/
theorem run_errors {result : Result} (h : run rt data context = .ok result) :
    result.summary.totalErrorRows = countedErrors rt data context ∧
      (result.report.issues.filter fun i => i.severity = .error).length =
        countedErrors rt data context + missingLogins rt data := by
  simp only [run, bind_eq_ok] at h
  obtain ⟨c, hc, t, ht, h⟩ := h
  simp only [summarize, buildBatchSummary, bind_eq_ok, pure_eq_ok, raiseIf_eq_ok] at h
  obtain ⟨-, -, summary, ⟨-, -, rfl⟩, rfl⟩ := h
  obtain ⟨hrows, hfinance, hrefusals⟩ := checkRows_ok hc
  have hall := hrows.trans (checkTarget_adds ht)
  rw [hrefusals] at hall
  obtain ⟨herrors, hrequired, hrefused⟩ := hall
  have hstart : ({} : Tally).errors = 0 := rfl
  unfold countedErrors
  constructor
  · show t.requiredFieldErrors + tenantErrors context + financeErrors c + t.validationErrors = _
    rw [hrequired, hrefused, hfinance]
    show 0 + _ + _ + 0 + (0 + _) = _
    omega
  · show t.errors = _
    omega

end Rows

end CoreOps.DryRun
