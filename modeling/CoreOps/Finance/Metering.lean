import CoreOps.Lib.Serial
import CoreOps.Finance.Service
import CoreOps.Subscriptions.Entitlements

/-! The metered limit of invoices as `create_invoice` requests interleave under READ
COMMITTED. A request compares the usage it sums with the limit of its plan before it does
anything, and records its own usage event as the last thing before the commit; neither
takes a lock that another request of the tenant waits for. Plans are not written by any
of the requests. -/

namespace CoreOps.Finance

open Checked ReadCommitted Subscriptions

attribute [local irreducible] moneyColumn

/-- The books, and the usage that is metered. -/
structure Metered where
  books : State
  usageEvents : List UsageEvent

/-- A request: its tenant, the clocks it reads, and when the database says its
transaction began. -/
structure InvoiceArgs where
  tenantId : ℕ
  clock : Clock
  now : DateTime
  createdAt : DateTime
  invoiceId : ℕ
  payload : InvoiceCreate

def InvoiceArgs.caller (a : InvoiceArgs) : Caller := ⟨a.tenantId, .ok ()⟩

def invoicesCode : String := "finance.invoices"

/-- The usage a request records. -/
def InvoiceArgs.usageEvent (a : InvoiceArgs) : UsageEvent := ⟨a.tenantId, invoicesCode, 1, a.createdAt⟩

/-! The statements of `create_invoice`. -/

def checkParty (a : InvoiceArgs) (s : State) : Except FinanceError Unit :=
  raiseIf (¬ belongs a.tenantId s.parties a.payload.partyId) (.notFound "Party not found")

def checkLegalEntity (a : InvoiceArgs) (s : State) : Except FinanceError Unit :=
  raiseIf (¬ a.payload.legalEntityId.all (belongs a.tenantId s.legalEntities)) (.notFound "Legal entity not found")

def checkTaxProfile (a : InvoiceArgs) (s : State) : Except FinanceError Unit :=
  raiseIf (¬ a.payload.taxProfileId.all (belongs a.tenantId s.taxProfiles)) (.notFound "Tax profile not found")

/-- The row of a new invoice, unless the primary key or the number is taken. -/
def newInvoice (a : InvoiceArgs) (invoiceNumber : String) (s : State) : Except FinanceError Invoice := do
  raiseIf ((s.invoices.get? a.invoiceId).isSome ∨ ∃ r ∈ s.invoices.rows,
    r.2.tenantId = a.tenantId ∧ r.2.invoiceNumber = invoiceNumber) .integrityError
  return {
    tenantId := a.tenantId
    legalEntityId := a.payload.legalEntityId
    taxProfileId := a.payload.taxProfileId
    partyId := a.payload.partyId
    workItemId := a.payload.workItemId
    documentId := a.payload.documentId
    invoiceNumber := invoiceNumber
    status := .draft
    currency := a.payload.currency
    subtotal := 0
    taxAmount := 0
    total := 0
    amountPaid := 0
    issueDate := none
    dueDate := a.payload.dueDate
    issuedAt := none
    notes := a.payload.notes
    lines := [] }

/-- The invoice with its totals, issued when the payload asks for it. -/
def totalInvoice (a : InvoiceArgs) (invoice : Invoice) (subtotal : ℚ) : Except FinanceError Invoice := do
  let total ← moneyColumn subtotal
  issueIf a.clock a.payload.issue { invoice with subtotal := total, taxAmount := 0, total := total } subtotal

/-- `create_invoice` in its statements. -/
theorem createInvoice_eq (a : InvoiceArgs) (s : State) :
    createInvoice a.caller a.clock a.invoiceId a.payload s = (do
      checkParty a s
      checkLegalEntity a s
      checkTaxProfile a s
      let invoice ← newInvoice a (nextInvoiceNumber s a.tenantId a.clock.year) s
      let (subtotal, lines) ← a.payload.lines.zipIdx.foldlM (createInvoiceLine a.caller s) (0, [])
      let invoice ← totalInvoice a { invoice with lines := lines } subtotal
      return { s with invoices := s.invoices.insert a.invoiceId invoice }) := by
  unfold createInvoice checkParty checkLegalEntity checkTaxProfile newInvoice totalInvoice
  simp only [InvoiceArgs.caller, bind_assoc, pure_bind]
  rfl

/-- Rows that are locked; an invoice is locked by its id and by its unique number. -/
inductive InvoiceRow
  | invoice (id : ℕ)
  | invoiceNumber (tenantId : ℕ) (invoiceNumber : String)
  | legalEntity (id : ℕ)
  | taxProfile (id : ℕ)
  | catalogItem (id : ℕ)
  deriving DecidableEq, Repr

/-- An invoice is written with its lines. -/
inductive InvoiceWrite
  | insertInvoice (invoiceId : ℕ) (invoice : Invoice)
  | setInvoice (invoiceId : ℕ) (invoice : Invoice)
  | insertUsageEvent (event : UsageEvent)

def applyInvoice (d : Metered) : InvoiceWrite → Metered
  | .insertInvoice invoiceId invoice =>
    { d with books := { d.books with invoices := d.books.invoices.insert invoiceId invoice } }
  | .setInvoice invoiceId invoice =>
    { d with books := { d.books with invoices := d.books.invoices.modify invoiceId fun _ => invoice } }
  | .insertUsageEvent event => { d with usageEvents := recordUsageEvent d.usageEvents event }

/-- Where a request stands once it has passed the check. -/
inductive Stage
  | getParty
  | getLegalEntity
  | getTaxProfile
  | nextInvoiceNumber
  | insertInvoice (invoiceNumber : String)
  | insertLines (invoice : Invoice) (subtotal : ℚ) (rest : List (InvoiceLineCreate × ℕ))
  | updateInvoice (invoice : Invoice) (subtotal : ℚ)
  | recordUsage

/-- The locks of an insert: its keys, and the rows it refers to. -/
def insertInvoiceLocks (invoiceId : ℕ) (invoice : Invoice) : List (InvoiceRow × LockMode) :=
  (.invoice invoiceId, .update) :: (.invoiceNumber invoice.tenantId invoice.invoiceNumber, .update) ::
    (invoice.legalEntityId.toList.map fun id => (.legalEntity id, .keyShare)) ++
    (invoice.taxProfileId.toList.map fun id => (.taxProfile id, .keyShare))

structure Statement where
  locks : List (InvoiceRow × LockMode)
  writes : List InvoiceWrite
  next : Option Stage

/-- One statement of a request that has passed the check. -/
def Stage.statement (a : InvoiceArgs) : Stage → State → Except FinanceError Statement
  | .getParty, s => do
    checkParty a s
    return ⟨[], [], some .getLegalEntity⟩
  | .getLegalEntity, s => do
    checkLegalEntity a s
    return ⟨[], [], some .getTaxProfile⟩
  | .getTaxProfile, s => do
    checkTaxProfile a s
    return ⟨[], [], some .nextInvoiceNumber⟩
  | .nextInvoiceNumber, s =>
    return ⟨[], [], some (.insertInvoice (Finance.nextInvoiceNumber s a.tenantId a.clock.year))⟩
  | .insertInvoice invoiceNumber, s => do
    let invoice ← newInvoice a invoiceNumber s
    return ⟨insertInvoiceLocks a.invoiceId invoice, [.insertInvoice a.invoiceId invoice],
      some (.insertLines invoice 0 a.payload.lines.zipIdx)⟩
  -- the item of a line is looked up by the statement before its insert; no request writes items
  | .insertLines invoice subtotal (entry :: rest), s => do
    let (subtotal, lines) ← createInvoiceLine a.caller s (subtotal, invoice.lines) entry
    return ⟨entry.1.catalogItemId.toList.map fun id => (.catalogItem id, .keyShare),
      [.setInvoice a.invoiceId { invoice with lines := lines }],
      some (.insertLines { invoice with lines := lines } subtotal rest)⟩
  | .insertLines invoice subtotal [], _ => return ⟨[], [], some (.updateInvoice invoice subtotal)⟩
  | .updateInvoice invoice subtotal, _ => do
    let invoice ← totalInvoice a invoice subtotal
    return ⟨[(.invoice a.invoiceId, .noKeyUpdate)], [.setInvoice a.invoiceId invoice], some .recordUsage⟩
  | .recordUsage, _ => return ⟨[], [.insertUsageEvent a.usageEvent], none⟩

/-- Where a request stands. From the check on it keeps the usage the check has summed. -/
inductive InvoiceLoc
  | assertWithinLimit (a : InvoiceArgs)
  | create (a : InvoiceArgs) (usage : Option ℤ) (stage : Stage)
  | done (a : InvoiceArgs) (usage : Option ℤ)

def nextInvoice (plans : Plans) : InvoiceLoc → Metered → Action InvoiceRow InvoiceWrite InvoiceLoc
  | .assertWithinLimit a, d =>
    match assertWithinLimit plans d.usageEvents a.tenantId invoicesCode 1 a.now with
    | .error _ => .rollback none
    | .ok () => .exec [] [] (.create a (currentUsage plans d.usageEvents a.tenantId invoicesCode a.now) .getParty)
  | .create a usage stage, d =>
    match stage.statement a d.books with
    | .error _ => .rollback none
    | .ok ⟨locks, writes, some stage'⟩ => .exec locks writes (.create a usage stage')
    | .ok ⟨locks, writes, none⟩ => .exec locks writes (.done a usage)
  | .done _ _, _ => .commit none

def meteredSystem (plans : Plans) : System Metered InvoiceWrite InvoiceRow InvoiceLoc :=
  ⟨applyInvoice, nextInvoice plans⟩

def Metered.creating (d : Metered) (requests : List InvoiceArgs) :
    World Metered InvoiceWrite InvoiceRow InvoiceLoc :=
  ⟨d, (requests.map InvoiceLoc.assertWithinLimit).map .fresh, []⟩

/-- A request that is about to commit, with the usage its check has summed. -/
def InvoiceLoc.committing : InvoiceLoc → Option (InvoiceArgs × Option ℤ)
  | .done a usage => some (a, usage)
  | _ => none

/-- A request of the tenant commits while the usage is no more than its check has summed. -/
def UsageNotGrown (plans : Plans) (tenantId : ℕ) (w : World Metered InvoiceWrite InvoiceRow InvoiceLoc) :
    Event → Prop
  | .turn t => ∀ x ∈ w.sessions[t]?, ∀ l ∈ x.loc, ∀ c ∈ l.committing, c.1.tenantId = tenantId →
      ∀ usage ∈ c.2, ∀ usage' ∈ currentUsage plans w.db.usageEvents tenantId invoicesCode c.1.now, usage' ≤ usage
  | .kill _ => True

instance (plans : Plans) (tenantId : ℕ) (w : World Metered InvoiceWrite InvoiceRow InvoiceLoc) :
    ∀ e, Decidable (UsageNotGrown plans tenantId w e)
  | .turn t => inferInstanceAs (Decidable (∀ x ∈ w.sessions[t]?, ∀ l ∈ x.loc, ∀ c ∈ l.committing,
      c.1.tenantId = tenantId → ∀ usage ∈ c.2, ∀ usage' ∈ _, usage' ≤ usage))
  | .kill _ => inferInstanceAs (Decidable True)

/-- The usage events a transaction has written. -/
def recorded (writes : List InvoiceWrite) : List UsageEvent :=
  writes.filterMap fun
    | .insertUsageEvent event => some event
    | _ => none

@[simp] theorem recorded_append (ws ws' : List InvoiceWrite) : recorded (ws ++ ws') = recorded ws ++ recorded ws' :=
  List.filterMap_append

theorem view_usageEvents (plans : Plans) (d : Metered) (writes : List InvoiceWrite) :
    ((meteredSystem plans).view d writes).usageEvents = d.usageEvents ++ recorded writes := by
  induction writes generalizing d with
  | nil => simp [recorded]
  | cons write rest ih =>
    rw [System.view_cons, ih]
    rcases write with ⟨invoiceId, invoice⟩ | ⟨invoiceId, invoice⟩ | event
    · rfl
    · rfl
    · simp [meteredSystem, applyInvoice, recordUsageEvent, recorded]

/-- Only the last statement records usage, and it records one event. -/
theorem Stage.statement_recorded {a : InvoiceArgs} {stage : Stage} {s : State} {st : Statement}
    (h : stage.statement a s = .ok st) :
    (∃ stage', st.next = some stage' ∧ recorded st.writes = []) ∨
      st.next = none ∧ recorded st.writes = [a.usageEvent] := by
  revert h
  fun_cases Stage.statement a stage s <;> intro h <;> simp only [bind_eq_ok, pure_eq_ok] at h
  case case4 | case7 =>
    subst h
    exact .inl ⟨_, rfl, rfl⟩
  case case9 =>
    subst h
    exact .inr ⟨rfl, rfl⟩
  all_goals
    obtain ⟨_, -, rfl⟩ := h
    exact .inl ⟨_, rfl, rfl⟩

/-- What a request that passed the check has found: room for its own event. -/
def Room (plans : Plans) (a : InvoiceArgs) (usage : Option ℤ) : Prop :=
  ∀ limit, limitOf plans a.tenantId invoicesCode = some limit → ∃ u ∈ usage, u + 1 ≤ limit.limitValue

/-- What session `t` has checked and recorded, and for which request. -/
inductive Metering (plans : Plans) (requests : List InvoiceArgs) (t : ℕ) :
    Session InvoiceRow InvoiceWrite InvoiceLoc → Prop
  | ended : Metering plans requests t (.closed none)
  | checking {a : InvoiceArgs} (hr : requests[t]? = some a) :
      Metering plans requests t ⟨some (.assertWithinLimit a), [], []⟩
  | creating {a : InvoiceArgs} {usage : Option ℤ} {stage : Stage} {locks : List (InvoiceRow × LockMode)}
      {writes : List InvoiceWrite} (hr : requests[t]? = some a) (hroom : Room plans a usage)
      (hw : recorded writes = []) : Metering plans requests t ⟨some (.create a usage stage), locks, writes⟩
  | done {a : InvoiceArgs} {usage : Option ℤ} {locks : List (InvoiceRow × LockMode)} {writes : List InvoiceWrite}
      (hr : requests[t]? = some a) (hroom : Room plans a usage) (hw : recorded writes = [a.usageEvent]) :
      Metering plans requests t ⟨some (.done a usage), locks, writes⟩

section Sessions

variable {plans : Plans} {requests : List InvoiceArgs} {t : ℕ} {x : Session InvoiceRow InvoiceWrite InvoiceLoc}

theorem room_of_check {a : InvoiceArgs} {events : List UsageEvent}
    (h : assertWithinLimit plans events a.tenantId invoicesCode 1 a.now = .ok ()) :
    Room plans a (currentUsage plans events a.tenantId invoicesCode a.now) := by
  intro limit hlimit
  refine ⟨_, ?_, room_of_assertWithinLimit h hlimit⟩
  simp [currentUsage, hlimit]

theorem Metering.statement (hx : Metering plans requests t x) {v : Metered} {l l' : InvoiceLoc}
    {locks : List (InvoiceRow × LockMode)} {ws : List InvoiceWrite} (hl : x.loc = some l)
    (hn : nextInvoice plans l v = .exec locks ws l') :
    Metering plans requests t ⟨some l', x.locks ++ locks, x.writes ++ ws⟩ := by
  induction hx with
  | ended => cases hl
  | checking hr =>
    obtain rfl := Option.some.inj hl
    simp only [nextInvoice] at hn
    split at hn
    · cases hn
    · rename_i hcheck
      cases hn
      exact .creating hr (room_of_check hcheck) rfl
  | creating hr hroom hw =>
    obtain rfl := Option.some.inj hl
    simp only [nextInvoice] at hn
    split at hn
    · cases hn
    · rename_i hst
      cases hn
      obtain ⟨stage', -, hnone⟩ | ⟨hnext, -⟩ := Stage.statement_recorded hst
      · exact .creating hr hroom (by rw [recorded_append, hw, hnone]; rfl)
      · cases hnext
    · rename_i hst
      cases hn
      obtain ⟨stage', hnext, -⟩ | ⟨-, hone⟩ := Stage.statement_recorded hst
      · cases hnext
      · exact .done hr hroom (by rw [recorded_append, hw, hone]; rfl)
  | done =>
    obtain rfl := Option.some.inj hl
    cases hn

theorem nextInvoice_commit {v : Metered} {l : InvoiceLoc} {r : Option InvoiceLoc}
    (h : nextInvoice plans l v = .commit r) : (∃ a usage, l = .done a usage) ∧ r = none := by
  revert h
  fun_cases nextInvoice plans l v <;> intro h <;> cases h
  exact ⟨⟨_, _, rfl⟩, rfl⟩

theorem nextInvoice_rollback {v : Metered} {l : InvoiceLoc} {r : Option InvoiceLoc}
    (h : nextInvoice plans l v = .rollback r) : r = none := by
  revert h
  fun_cases nextInvoice plans l v <;> intro h <;> cases h <;> rfl

theorem metering_local (plans : Plans) (requests : List InvoiceArgs) :
    SessionLocal (meteredSystem plans) (Metering plans requests) := by
  refine .of_next (fun hx hl hn => hx.statement hl hn) (fun _ _ hn => ?_) nextInvoice_rollback .ended
  rw [(nextInvoice_commit hn).2]
  exact .ended

theorem metering_start (d : Metered) (requests : List InvoiceArgs) (t : ℕ)
    (x : Session InvoiceRow InvoiceWrite InvoiceLoc) (hx : (d.creating requests).sessions[t]? = some x) :
    Metering plans requests t x := by
  simp only [Metered.creating, List.getElem?_map, Option.map_eq_some_iff] at hx
  obtain ⟨l, ⟨a, hr, rfl⟩, rfl⟩ := hx
  exact .checking hr

end Sessions

/-- The usage of a tenant's invoices stays within the limit of its plan, over every
interleaving of requests in one period in which each of the tenant's requests commits
while the usage has not grown since its check. -/
theorem usage_within_limit {plans : Plans} {tenantId : ℕ} {limit : UsageLimit} {since : DateTime} {d : Metered}
    {requests : List InvoiceArgs} {evs : List Event} {w : World Metered InvoiceWrite InvoiceRow InvoiceLoc}
    (hlimit : limitOf plans tenantId invoicesCode = some limit)
    (hperiod : ∀ a ∈ requests, a.tenantId = tenantId → periodStart a.now limit.period = since)
    (hd : sumUsage d.usageEvents tenantId invoicesCode since ≤ limit.limitValue)
    (h : Run (Restrict (UsageNotGrown plans tenantId) (meteredSystem plans).Step) (d.creating requests) evs w) :
    sumUsage w.db.usageEvents tenantId invoicesCode since ≤ limit.limitValue := by
  refine (metering_local plans requests).run
    (I := fun d => sumUsage d.usageEvents tenantId invoicesCode since ≤ limit.limitValue) ?_
    (metering_start d requests) hd h
  intro w t x l' hI hx hC hst ha
  obtain ⟨l, hl, hn⟩ := RowLaw.eq_some_of_action ha
  obtain ⟨⟨a, usage, rfl⟩, -⟩ := nextInvoice_commit hn
  induction hx with
  | done hr hroom hw =>
    rename_i a' usage' locks writes
    obtain ⟨rfl, rfl⟩ := InvoiceLoc.done.inj (Option.some.inj hl)
    rw [view_usageEvents, hw]
    show sumUsage (recordUsageEvent w.db.usageEvents a'.usageEvent) tenantId invoicesCode since ≤ limit.limitValue
    rw [sumUsage_recordUsageEvent]
    by_cases htenant : a'.tenantId = tenantId
    · obtain ⟨u, hu, hroom⟩ := hroom limit (htenant ▸ hlimit)
      have hsince := hperiod a' (List.mem_of_getElem? hr) htenant
      have hgrown := hC _ hst _ rfl (a', usage') rfl htenant u hu
        (sumUsage w.db.usageEvents tenantId invoicesCode since) (by simp [currentUsage, hlimit, hsince])
      have hone : a'.usageEvent.quantity = 1 := rfl
      split <;> omega
    · rw [if_neg fun hcounts => htenant hcounts.1]
      omega
  | _ => cases hl

section Examples

def meteredInvoice : InvoiceCreate where
  partyId := 5
  legalEntityId := none
  taxProfileId := none
  workItemId := none
  documentId := none
  currency := "KZT"
  dueDate := none
  notes := none
  lines := [⟨none, "Cabin", 2, 100, 0, by decide⟩]
  issue := true
  lines_ne_nil := by decide

def meteredDay : DateTime := ⟨2026, 5, 17, 3600, by decide, by decide, by decide⟩

/-- Two invoices of one tenant on one day. -/
def meteredInvoices : List InvoiceArgs :=
  [⟨1, ⟨0, 2026, 0⟩, meteredDay, meteredDay, 7, meteredInvoice⟩,
    ⟨1, ⟨0, 2026, 0⟩, meteredDay, meteredDay, 8, meteredInvoice⟩]

/-- The plan of tenant 1 allows `limitValue` invoices a month. -/
def meteredPlans (limitValue : ℤ) : Plans where
  subscriptions := (∅ : Table ℕ Subscription).insert 1 ⟨3, .trial⟩
  usageLimits := (∅ : Table (ℕ × String) UsageLimit).insert (3, invoicesCode) ⟨limitValue, .monthly⟩

def noUsage : Metered := ⟨⟨∅, ∅, ∅, (∅ : Table ℕ ℕ).insert 5 1, ∅, ∅, ∅⟩, []⟩

def meteredMonth : DateTime := ⟨2026, 5, 1, 0, by decide, by decide, by decide⟩

/-- The second request checks the limit before the first one records anything, and goes on
once the first has committed, so that it takes the next number. -/
theorem usage_over_limit : ∃ evs w,
    Run (meteredSystem (meteredPlans 1)).Step (noUsage.creating meteredInvoices) evs w ∧
      limitOf (meteredPlans 1) 1 invoicesCode = some ⟨1, .monthly⟩ ∧
      (∀ a ∈ meteredInvoices, periodStart a.now .monthly = meteredMonth) ∧
      sumUsage noUsage.usageEvents 1 invoicesCode meteredMonth = 0 ∧
      sumUsage w.db.usageEvents 1 invoicesCode meteredMonth = 2 := by
  let evs : List Event := [.turn 1] ++ List.replicate 11 (.turn 0) ++ List.replicate 10 (.turn 1)
  have hrun : (execute? (fun _ _ => True) (meteredSystem (meteredPlans 1)).step? (noUsage.creating meteredInvoices)
      evs).map (fun w => sumUsage w.db.usageEvents 1 invoicesCode meteredMonth) = some 2 := by
    decide +kernel
  obtain ⟨w, hw, hdb⟩ := Option.map_eq_some_iff.1 hrun
  exact ⟨evs, w, (Run.of_execute? hw).of_restrict, by decide, by decide, by decide, hdb⟩

/-- The theorem at the same requests made one after the other, with a limit of two. -/
theorem usage_within_limit_serially : ∃ evs w,
    Run (Restrict (UsageNotGrown (meteredPlans 2) 1) (meteredSystem (meteredPlans 2)).Step)
        (noUsage.creating meteredInvoices) evs w ∧
      w.db.books.invoices.rows.map (fun r => (r.2.invoiceNumber, r.2.status, r.2.total)) =
        [("INV-2026-00001", .issued, 20000), ("INV-2026-00002", .issued, 20000)] ∧
      sumUsage w.db.usageEvents 1 invoicesCode meteredMonth ≤ 2 := by
  let evs : List Event := List.replicate 11 (.turn 0) ++ List.replicate 11 (.turn 1)
  have hrun : (execute? (UsageNotGrown (meteredPlans 2) 1) (meteredSystem (meteredPlans 2)).step?
      (noUsage.creating meteredInvoices) evs).map
        (fun w => w.db.books.invoices.rows.map fun r => (r.2.invoiceNumber, r.2.status, r.2.total)) =
      some [("INV-2026-00001", .issued, 20000), ("INV-2026-00002", .issued, 20000)] := by
    decide +kernel
  obtain ⟨w, hw, hdb⟩ := Option.map_eq_some_iff.1 hrun
  have hrun := Run.of_execute? hw
  have hlimit : limitOf (meteredPlans 2) 1 invoicesCode = some ⟨2, .monthly⟩ := by decide
  have hperiod : ∀ a ∈ meteredInvoices, a.tenantId = 1 → periodStart a.now .monthly = meteredMonth := by decide
  exact ⟨evs, w, hrun, hdb, usage_within_limit hlimit hperiod (by decide) hrun⟩

end Examples

end CoreOps.Finance
