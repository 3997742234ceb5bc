import CoreOps.Lib.CheckedLoops
import CoreOps.DryRun.Gate

/-! The accounts of a dry run. Over a dataset of texts and missing values, a run comes to a
result whose summaries balance exactly when it can report each of its issues, can read and
add up the amounts, and has no payload that its schema refuses. -/

namespace CoreOps.DryRun

open Checked

/-- The rows of a source are accounted for: each was imported or skipped. -/
def EntitySummary.Balanced (e : EntitySummary) : Prop :=
  e.importedCount ≤ e.sourceCount ∧ e.sourceCount = e.importedCount + e.skippedCount

instance (e : EntitySummary) : Decidable e.Balanced :=
  inferInstanceAs (Decidable (e.importedCount ≤ e.sourceCount ∧ e.sourceCount = e.importedCount + e.skippedCount))

def Value.isText : Value → Bool
  | .none | .str _ => true
  | _ => false

/-- Every value of the row is a text, or missing. -/
def Textual (row : Row) : Prop := ∀ field ∈ row.rows, field.2.isText = true

instance (row : Row) : Decidable (Textual row) := inferInstanceAs (Decidable (∀ field ∈ row.rows, field.2.isText = true))

def Dataset.rows (data : Dataset) : List Row :=
  data.users ++ data.clients ++ data.services ++ data.orders ++ data.orderStages ++ data.orderItems ++
    data.contracts ++ data.payments

/-! What a run asks of the dataset. -/

section Conditions

variable (rt : Runtime)

/-- An issue can name the row: its id is a text, or it has none. -/
def HasRef (row : Row) : Prop := ∃ ref, rowRef row = .str ref

/-- The ids that other rows can refer to. -/
def knownIds (rows : List Row) : List Value := (rows.map fun row => row.get "id").filter Value.truthy

def unknownOrderStatus (o : Row) : Prop := ∃ status, mapLegacyOrderStatus rt (o.get "status") = .ok (status, true)

def unknownStageStatus (st : Row) : Prop := ∃ status, mapLegacyStageStatus rt (st.get "status") = .ok (status, true)

def unknownPaymentType (p : Row) : Prop :=
  ∃ type, legacyPaymentType rt (p.get "type") = .ok type ∧ (Finance.mapLegacyPaymentType type).2.2 = true

/-- The amount of a row, if it can be read. -/
def readAmount (row : Row) : ℚ := (amountOf (row.get "amount")).toOption.getD 0

/-- What the amounts of the payments add up to. -/
def totalOf (payments : List Row) : ℚ := payments.foldl (fun total p => Finance.add total (readAmount p)) 0

/-- The rows that a run reports have a reference. -/
structure Referable (data : Dataset) : Prop where
  users : ∀ done u rest, data.users = done ++ u :: rest →
    loginOf rt u = "" ∨ loginOf rt u ∈ done.map (loginOf rt) → HasRef u
  clients : ∀ c ∈ data.clients, displayNameOf c = "" → HasRef c
  orders : ∀ o ∈ data.orders, unknownOrderStatus rt o ∨ o.get "client_id" ∉ knownIds data.clients → HasRef o
  orderStages : ∀ st ∈ data.orderStages,
    unknownStageStatus rt st ∨ st.get "template_id" = .none ∨ st.get "order_id" ∉ knownIds data.orders → HasRef st
  orderItems : ∀ line ∈ data.orderItems,
    line.get "order_id" ∉ knownIds data.orders ∨ line.get "service_id" ∉ knownIds data.services → HasRef line
  contracts : ∀ c ∈ data.contracts, (c.get "order_id").truthy = false ∨ amountOf (c.get "amount") = .ok 0 → HasRef c
  payments : ∀ p ∈ data.payments, unknownPaymentType rt p ∨ p.get "order_id" ∉ knownIds data.orders → HasRef p

/-- The amounts are decimals, and those of the payments can be added up. -/
structure Summable (data : Dataset) : Prop where
  contracts : ∀ c ∈ data.contracts, ∃ amount, amountOf (c.get "amount") = .ok amount
  payments : ∀ p ∈ data.payments, ∃ amount, amountOf (p.get "amount") = .ok amount
  totals : ∀ done p rest, data.payments = done ++ p :: rest → Fits (totalOf (done ++ [p]))

/-- Every payload that a row becomes is one that its schema takes. -/
structure Accepted (data : Dataset) (context : Context) : Prop where
  parties : ∀ p ∈ data.clients.flatMap (partyPayloads rt), p.validate = .ok ()
  catalogItems : ∀ s ∈ data.services, (catalogPayload s).validate = .ok ()
  workItems : ∀ w ∈ data.orders.flatMap (workItemPayloads rt), w.validate = .ok ()
  documents : ∀ d ∈ data.contracts.flatMap (documentPayloads context), d.validate = .ok ()
  payments : ∀ p ∈ data.payments.flatMap (paymentPayloads rt), p.validate = .ok ()

structure Accountable (data : Dataset) (context : Context) : Prop where
  sourceSystem_le : context.sourceSystem.length ≤ 64
  referable : Referable rt data
  summable : Summable data
  accepted : Accepted rt data context

end Conditions

/-! Issues. -/

section Issues

variable {t : Tally} {entity issueCode message : String} {ref : Value}

theorem exists_addIssue {severity : Severity} :
    (∃ t', t.addIssue entity issueCode severity ref message = .ok t') ↔ ∃ text, ref = .str text := by
  cases ref <;> simp [Tally.addIssue]

theorem exists_warnIf {p : Prop} [Decidable p] {counter : Counter} :
    (∃ t', t.warnIf p counter entity issueCode ref message = .ok t') ↔ (p → ∃ text, ref = .str text) := by
  by_cases hp : p
  · simp [Tally.warnIf, hp, exists_addIssue]
  · simp [Tally.warnIf, hp]

end Issues

/-! Texts and missing values can be looked up, and mapped. -/

section Texts

variable {rt : Runtime} {rows : List Row} {row : Row}

theorem get_textual (h : Textual row) (key : String) : row.get key = .none ∨ ∃ text, row.get key = .str text := by
  unfold Row.get
  cases hget : row.get? key with
  | none => exact .inl rfl
  | some v =>
    have htext := h (key, v) (Table.mem_rows.2 hget)
    cases v with
    | none => exact .inl rfl
    | str text => exact .inr ⟨text, rfl⟩
    | _ => cases htext

theorem key_get (h : Textual row) (key : String) : (row.get key).key = row.get key ∧ (row.get key).hashable = true := by
  rcases get_textual h key with hnone | ⟨text, hstr⟩
  · rw [hnone]; exact ⟨rfl, rfl⟩
  · rw [hstr]; exact ⟨rfl, rfl⟩

theorem idsOf_textual (h : ∀ row ∈ rows, Textual row) : idsOf rows = .ok (knownIds rows) := by
  refine mapM_eq_self fun v hv => ?_
  obtain ⟨row, hrow, rfl⟩ := List.mem_map.1 (List.mem_filter.1 hv).1
  obtain ⟨hkey, hhash⟩ := key_get (h row hrow) "id"
  rw [hkey, hhash]
  rfl

theorem isIn_textual (h : Textual row) (key : String) (ids : List Value) :
    isIn (row.get key) ids = .ok (decide (row.get key ∈ ids)) := by
  obtain ⟨hkey, hhash⟩ := key_get h key
  rw [isIn, hkey, hhash]
  rfl

theorem mapLegacyOrderStatus_textual (rt : Runtime) (h : Textual row) :
    ∃ mapped, mapLegacyOrderStatus rt (row.get "status") = .ok mapped := by
  rcases get_textual h "status" with hnone | ⟨text, hstr⟩
  · exact ⟨_, by rw [hnone]; rfl⟩
  · exact ⟨_, by rw [hstr]; rfl⟩

theorem mapLegacyStageStatus_textual (rt : Runtime) (h : Textual row) :
    ∃ mapped, mapLegacyStageStatus rt (row.get "status") = .ok mapped := by
  rcases get_textual h "status" with hnone | ⟨text, hstr⟩
  · exact ⟨_, by rw [hnone]; rfl⟩
  · exact ⟨_, by rw [hstr]; rfl⟩

theorem legacyPaymentType_textual (rt : Runtime) (h : Textual row) : ∃ type, legacyPaymentType rt (row.get "type") = .ok type := by
  rcases get_textual h "type" with hnone | ⟨text, hstr⟩
  · exact ⟨_, by rw [hnone]; rfl⟩
  · exact ⟨_, by rw [hstr]; rfl⟩

theorem optionalText_textual (h : Textual row) (key : String) : ∃ text, optionalText (row.get key) = .ok text := by
  rcases get_textual h key with hnone | ⟨text, hstr⟩
  · exact ⟨_, by rw [hnone]; rfl⟩
  · exact ⟨_, by rw [hstr]; rfl⟩

end Texts

/-! When the loops of a run go through. -/

section Loops

variable {rt : Runtime} {context : Context} {data : Dataset}

theorem exists_checkContext (context : Context) (t : Tally) : ∃ t', checkContext context t = .ok t' := by
  unfold checkContext
  split
  · exact ⟨t, rfl⟩
  · exact exists_addIssue.2 ⟨_, rfl⟩

/-- The logins seen after one more user. -/
def seeLogin (rt : Runtime) (seen : List String) (u : Row) : List String :=
  if loginOf rt u = "" ∨ loginOf rt u ∈ seen then seen else loginOf rt u :: seen

theorem checkUser_seen {acc acc' : Tally × List String} {u : Row} (h : checkUser rt acc u = .ok acc') :
    acc'.2 = seeLogin rt acc.2 u := by
  obtain ⟨t, seen⟩ := acc
  simp only [checkUser] at h
  unfold seeLogin
  by_cases hblank : loginOf rt u = ""
  · simp only [if_pos hblank, bind_eq_ok, pure_eq_ok] at h
    obtain ⟨t', -, rfl⟩ := h
    rw [if_pos (.inl hblank)]
  · by_cases hseen : loginOf rt u ∈ seen
    · simp only [if_neg hblank, if_pos hseen, bind_eq_ok, pure_eq_ok] at h
      obtain ⟨t', -, rfl⟩ := h
      rw [if_pos (.inr hseen)]
    · simp only [if_neg hblank, if_neg hseen, pure_eq_ok] at h
      obtain rfl := h
      rw [if_neg (not_or.2 ⟨hblank, hseen⟩)]

theorem exists_checkUser (acc : Tally × List String) (u : Row) :
    (∃ acc', checkUser rt acc u = .ok acc') ↔ (loginOf rt u = "" ∨ loginOf rt u ∈ acc.2 → HasRef u) := by
  obtain ⟨t, seen⟩ := acc
  simp only [checkUser]
  by_cases hblank : loginOf rt u = ""
  · simp [hblank, exists_addIssue, HasRef]
  · by_cases hseen : loginOf rt u ∈ seen
    · simp [hblank, hseen, exists_addIssue, HasRef]
    · simp [hblank, hseen]

theorem mem_foldl_seeLogin {login : String} (hlogin : login ≠ "") (users : List Row) (seen : List String) :
    login ∈ users.foldl (seeLogin rt) seen ↔ login ∈ seen ∨ login ∈ users.map (loginOf rt) := by
  induction users generalizing seen with
  | nil => simp
  | cons u users ih =>
    have hstep : login ∈ seeLogin rt seen u ↔ login ∈ seen ∨ login = loginOf rt u := by
      unfold seeLogin
      split <;> grind
    rw [List.foldl_cons, ih, hstep, List.map_cons, List.mem_cons, or_assoc]

theorem exists_users (t : Tally) : (∃ acc, data.users.foldlM (checkUser rt) (t, []) = .ok acc) ↔
    ∀ done u rest, data.users = done ++ u :: rest →
      loginOf rt u = "" ∨ loginOf rt u ∈ done.map (loginOf rt) → HasRef u := by
  rw [exists_foldlM_iff (P := fun seen u => loginOf rt u = "" ∨ loginOf rt u ∈ seen → HasRef u) Prod.snd (seeLogin rt)
    (fun acc u _ => exists_checkUser acc u) fun _ _ _ _ h => checkUser_seen h]
  refine forall_congr' fun done => forall_congr' fun u => forall_congr' fun rest => imp_congr_right fun _ => ?_
  by_cases hblank : loginOf rt u = ""
  · simp [hblank]
  · simp [hblank, mem_foldl_seeLogin hblank]

theorem exists_clients (rt : Runtime) (t : Tally) : (∃ acc, data.clients.foldlM (checkClient rt) (t, []) = .ok acc) ↔
    ∀ c ∈ data.clients, displayNameOf c = "" → HasRef c := by
  refine exists_foldlM_iff_forall fun acc c _ => ?_
  obtain ⟨t, payloads⟩ := acc
  simp only [checkClient]
  by_cases hblank : displayNameOf c = ""
  · simp [hblank, exists_addIssue, HasRef]
  · simp [hblank]

theorem exists_orders (h : ∀ o ∈ data.orders, Textual o) (ids : List Value) (t : Tally) :
    (∃ acc, data.orders.foldlM (checkOrder rt ids) (t, []) = .ok acc) ↔
      ∀ o ∈ data.orders, unknownOrderStatus rt o ∨ o.get "client_id" ∉ ids → HasRef o := by
  refine exists_foldlM_iff_forall fun acc o ho => ?_
  obtain ⟨⟨status, review⟩, hmapped⟩ := mapLegacyOrderStatus_textual rt (h o ho)
  simp only [checkOrder, hmapped, isIn_textual (h o ho), unknownOrderStatus, exists_bind_eq_ok]
  simp [exists_warnIf, HasRef, or_imp]

theorem exists_orderStages (h : ∀ st ∈ data.orderStages, Textual st) (ids : List Value) (t : Tally) :
    (∃ t', data.orderStages.foldlM (checkOrderStage rt ids) t = .ok t') ↔ ∀ st ∈ data.orderStages,
      unknownStageStatus rt st ∨ st.get "template_id" = .none ∨ st.get "order_id" ∉ ids → HasRef st := by
  refine exists_foldlM_iff_forall fun t st hst => ?_
  obtain ⟨⟨status, review⟩, hmapped⟩ := mapLegacyStageStatus_textual rt (h st hst)
  simp only [checkOrderStage, hmapped, isIn_textual (h st hst), unknownStageStatus, exists_bind_eq_ok]
  simp [exists_warnIf, HasRef, or_imp]

theorem exists_orderItems (h : ∀ line ∈ data.orderItems, Textual line) (orderIds serviceIds : List Value) (t : Tally) :
    (∃ t', data.orderItems.foldlM (checkOrderItem orderIds serviceIds) t = .ok t') ↔ ∀ line ∈ data.orderItems,
      line.get "order_id" ∉ orderIds ∨ line.get "service_id" ∉ serviceIds → HasRef line := by
  refine exists_foldlM_iff_forall fun t line hline => ?_
  simp only [checkOrderItem, isIn_textual (h line hline), exists_bind_eq_ok]
  simp [exists_warnIf, HasRef, or_imp]

theorem exists_contracts (rt : Runtime) (context : Context) (h : ∀ c ∈ data.contracts, Textual c) (t : Tally) :
    (∃ acc, data.contracts.foldlM (checkContract rt context) (t, []) = .ok acc) ↔
      ∀ c ∈ data.contracts, (∃ amount, amountOf (c.get "amount") = .ok amount) ∧
        ((c.get "order_id").truthy = false ∨ amountOf (c.get "amount") = .ok 0 → HasRef c) := by
  refine exists_foldlM_iff_forall fun acc c hc => ?_
  obtain ⟨status, hstatus⟩ := optionalText_textual (h c hc) "status"
  rcases hamount : amountOf (c.get "amount") with e | amount
  · simp [checkContract, hamount]
  · simp only [checkContract, hamount, hstatus, assessLegacyContractImport, exists_bind_eq_ok]
    simp [exists_warnIf, HasRef, or_imp]

theorem exists_addAmount {total amount : ℚ} :
    (∃ total', addAmount total amount = .ok total') ↔ Fits (Finance.add total amount) := by
  simp [addAmount]

/-- The two totals after one more payment. -/
def addTotals (totals : ℚ × ℚ) (p : Row) : ℚ × ℚ :=
  (Finance.add totals.1 (readAmount p), Finance.add totals.2 (readAmount p))

/-- The two totals are kept apart, and stay the same. -/
theorem foldl_addTotals (payments : List Row) : payments.foldl addTotals (0, 0) = (totalOf payments, totalOf payments) := by
  suffices hfold : ∀ total, payments.foldl addTotals (total, total) =
      (payments.foldl (fun total p => Finance.add total (readAmount p)) total,
        payments.foldl (fun total p => Finance.add total (readAmount p)) total) from hfold 0
  induction payments with
  | nil => exact fun _ => rfl
  | cons p payments ih => exact fun _ => ih _

theorem totalOf_append (done : List Row) (p : Row) : totalOf (done ++ [p]) = Finance.add (totalOf done) (readAmount p) := by
  simp [totalOf]

theorem checkPayment_totals {orderIds : List Value} {acc acc' : PaymentTally} {p : Row}
    (h : checkPayment rt orderIds acc p = .ok acc') :
    (acc'.sourceTotal, acc'.mappedTotal) = addTotals (acc.sourceTotal, acc.mappedTotal) p := by
  simp only [checkPayment, addAmount, bind_eq_ok, pure_eq_ok] at h
  obtain ⟨amount, hamount, _, ⟨-, -, rfl⟩, -, -, -, -, -, -, -, -, _, ⟨-, -, rfl⟩, rfl⟩ := h
  have hread : readAmount p = amount := by rw [readAmount, hamount]; rfl
  rw [addTotals, hread]

/-- What a payment needs, given the totals before it. -/
def PaymentFits (rt : Runtime) (ids : List Value) (totals : ℚ × ℚ) (p : Row) : Prop :=
  (∃ amount, amountOf (p.get "amount") = .ok amount) ∧
    (Fits (addTotals totals p).1 ∧ Fits (addTotals totals p).2) ∧
    (unknownPaymentType rt p ∨ p.get "order_id" ∉ ids → HasRef p)

theorem exists_checkPayment (rt : Runtime) {p : Row} (h : Textual p) (ids : List Value) (acc : PaymentTally) :
    (∃ acc', checkPayment rt ids acc p = .ok acc') ↔ PaymentFits rt ids (acc.sourceTotal, acc.mappedTotal) p := by
  unfold PaymentFits addTotals
  obtain ⟨type, htype⟩ := legacyPaymentType_textual rt h
  rcases hamount : amountOf (p.get "amount") with e | amount
  · simp [checkPayment, hamount]
  · have hread : readAmount p = amount := by rw [readAmount, hamount]; rfl
    simp only [checkPayment, hamount, htype, isIn_textual h, unknownPaymentType, hread, exists_bind_eq_ok]
    simp [exists_warnIf, exists_addAmount, HasRef, or_imp]
    rw [and_assoc]
    exact and_congr_right fun _ => by rw [← and_assoc, and_comm]

theorem exists_payments (h : ∀ p ∈ data.payments, Textual p) (ids : List Value) (t : Tally) :
    (∃ acc, data.payments.foldlM (checkPayment rt ids) ⟨t, [], 0, 0⟩ = .ok acc) ↔
      (∀ p ∈ data.payments, ∃ amount, amountOf (p.get "amount") = .ok amount) ∧
      (∀ done p rest, data.payments = done ++ p :: rest → Fits (totalOf (done ++ [p]))) ∧
      ∀ p ∈ data.payments, unknownPaymentType rt p ∨ p.get "order_id" ∉ ids → HasRef p := by
  have hloop := exists_foldlM_iff (fun acc : PaymentTally => (acc.sourceTotal, acc.mappedTotal)) addTotals
    (fun acc p hp => exists_checkPayment rt (h p hp) ids acc)
    (fun acc p _ acc' hok => checkPayment_totals hok) (b := ⟨t, [], 0, 0⟩)
  rw [hloop]
  simp only [foldl_addTotals]
  constructor
  · intro hall
    refine ⟨fun p hp => ?_, fun done p rest hsplit => ?_, fun p hp => ?_⟩
    · obtain ⟨done, rest, hsplit⟩ := List.append_of_mem hp
      exact (hall done p rest hsplit).1
    · rw [totalOf_append]
      exact (hall done p rest hsplit).2.1.1
    · obtain ⟨done, rest, hsplit⟩ := List.append_of_mem hp
      exact (hall done p rest hsplit).2.2
  · rintro ⟨hamounts, htotals, hrefs⟩ done p rest hsplit
    have hp : p ∈ data.payments := by simp [hsplit]
    have hfits := htotals done p rest hsplit
    rw [totalOf_append] at hfits
    exact ⟨hamounts p hp, ⟨hfits, hfits⟩, hrefs p hp⟩

theorem exists_checkFinance (p : PaymentTally) : ∃ t, checkFinance p = .ok t := by
  unfold checkFinance
  split
  · exact ⟨p.tally, rfl⟩
  · exact exists_addIssue.2 ⟨_, rfl⟩

/-- The rows go through exactly when each reported one has a reference, and the amounts add up. -/
theorem exists_checkRows (rt : Runtime) (context : Context) (h : ∀ row ∈ data.rows, Textual row) :
    (∃ c, checkRows rt data context = .ok c) ↔ Referable rt data ∧ Summable data := by
  simp only [Dataset.rows, List.mem_append, or_imp, forall_and] at h
  obtain ⟨⟨⟨⟨⟨⟨⟨-, hclients⟩, hservices⟩, horders⟩, hstages⟩, hitems⟩, hcontracts⟩, hpayments⟩ := h
  constructor
  · rintro ⟨c, hc⟩
    simp only [checkRows, idsOf_textual hclients, idsOf_textual hservices, idsOf_textual horders, bind_eq_ok] at hc
    obtain ⟨t₀, -, ⟨t₁, seen⟩, h₁, _, hci, _, hsi, _, hoi, ⟨t₂, parties⟩, h₂, ⟨t₃, workItems⟩, h₃, t₄, h₄, t₅, h₅,
      ⟨t₆, documents⟩, h₆, p, h₇, -⟩ := hc
    cases hci
    cases hsi
    cases hoi
    obtain ⟨hamounts, htotals, hrefs⟩ := (exists_payments hpayments _ _).1 ⟨_, h₇⟩
    have hdocuments := (exists_contracts rt context hcontracts _).1 ⟨_, h₆⟩
    exact ⟨{
      users := (exists_users _).1 ⟨_, h₁⟩
      clients := (exists_clients rt _).1 ⟨_, h₂⟩
      orders := (exists_orders horders _ _).1 ⟨_, h₃⟩
      orderStages := (exists_orderStages hstages _ _).1 ⟨_, h₄⟩
      orderItems := (exists_orderItems hitems _ _ _).1 ⟨_, h₅⟩
      contracts := fun c hc => (hdocuments c hc).2
      payments := hrefs }, fun c hc => (hdocuments c hc).1, hamounts, htotals⟩
  · rintro ⟨href, hsum⟩
    obtain ⟨t₀, h₀⟩ := exists_checkContext context {}
    obtain ⟨⟨t₁, seen⟩, h₁⟩ := (exists_users t₀).2 href.users
    obtain ⟨⟨t₂, parties⟩, h₂⟩ := (exists_clients rt t₁).2 href.clients
    obtain ⟨⟨t₃, workItems⟩, h₃⟩ := (exists_orders horders _ t₂).2 href.orders
    obtain ⟨t₄, h₄⟩ := (exists_orderStages hstages _ t₃).2 href.orderStages
    obtain ⟨t₅, h₅⟩ := (exists_orderItems hitems _ _ t₄).2 href.orderItems
    obtain ⟨⟨t₆, documents⟩, h₆⟩ := (exists_contracts rt context hcontracts t₅).2
      fun c hc => ⟨hsum.contracts c hc, href.contracts c hc⟩
    obtain ⟨p, h₇⟩ := (exists_payments hpayments _ t₆).2 ⟨hsum.payments, hsum.totals, href.payments⟩
    obtain ⟨t₇, h₈⟩ := exists_checkFinance p
    simp only [checkRows, idsOf_textual hclients, idsOf_textual hservices, idsOf_textual horders, exists_bind_eq_ok]
    exact ⟨t₀, h₀, _, h₁, _, rfl, _, rfl, _, rfl, _, h₂, _, h₃, t₄, h₄, t₅, h₅, _, h₆, p, h₇, t₇, h₈, _, rfl⟩

end Loops

/-! The summaries. -/

section Summaries

variable {rt : Runtime} {context : Context} {data : Dataset}

/-- What the summaries take from the lengths of the payload lists. -/
structure Counted (data : Dataset) (c : Checks) : Prop where
  parties_le : c.parties.length ≤ data.clients.length
  catalogItems_eq : c.catalogItems.length = data.services.length
  workItems_eq : c.workItems.length = data.orders.length
  documents_eq : c.documents.length = data.contracts.length
  payments_eq : c.payments.length = data.payments.length

theorem checkOrder_count {ids : List Value} {acc acc' : Tally × List WorkItemPayload} {o : Row}
    (h : checkOrder rt ids acc o = .ok acc') : acc'.2.length = acc.2.length + 1 := by
  simp only [checkOrder, bind_eq_ok, pure_eq_ok] at h
  obtain ⟨_, -, _, -, _, -, _, -, rfl⟩ := h
  simp

theorem checkContract_count {acc acc' : Tally × List DocumentPayload} {c : Row}
    (h : checkContract rt context acc c = .ok acc') : acc'.2.length = acc.2.length + 1 := by
  simp only [checkContract, bind_eq_ok, pure_eq_ok] at h
  obtain ⟨_, -, _, -, _, -, _, -, rfl⟩ := h
  simp

theorem checkPayment_count {ids : List Value} {acc acc' : PaymentTally} {p : Row}
    (h : checkPayment rt ids acc p = .ok acc') : acc'.payloads.length = acc.payloads.length + 1 := by
  simp only [checkPayment, bind_eq_ok, pure_eq_ok] at h
  obtain ⟨_, -, _, -, _, -, _, -, _, -, _, -, _, -, rfl⟩ := h
  simp

theorem checkRows_counted {c : Checks} (h : checkRows rt data context = .ok c) : Counted data c := by
  simp only [checkRows, bind_eq_ok, pure_eq_ok] at h
  obtain ⟨_, -, ⟨_, _⟩, -, _, -, _, -, _, -, ⟨t₂, parties⟩, h₂, ⟨t₃, workItems⟩, h₃, _, -, _, -, ⟨t₆, documents⟩, h₆,
    p, h₇, _, -, rfl⟩ := h
  refine ⟨?_, List.length_map .., ?_, ?_, ?_⟩
  · have hparties := foldlM_flatMap Prod.snd (g := partyPayloads rt) (fun _ _ _ h => (checkClient_adds h).2) h₂
    have hone : ∀ c ∈ data.clients, (partyPayloads rt c).length ≤ 1 := by
      intro c _
      unfold partyPayloads
      split <;> simp
    show (t₂, parties).2.length ≤ _
    rw [hparties, List.nil_append, List.length_flatMap]
    simpa using List.sum_le_card_nsmul (data.clients.map fun c => (partyPayloads rt c).length) 1 (by simpa using hone)
  · simpa using foldlM_count (fun acc => acc.2.length) (fun _ _ _ => checkOrder_count) h₃
  · simpa using foldlM_count (fun acc => acc.2.length) (fun _ _ _ => checkContract_count) h₆
  · simpa using foldlM_count (fun acc => acc.payloads.length) (fun _ _ _ => checkPayment_count) h₇

/-- Only the users' summary takes away what is nowhere added: the refused payloads. -/
theorem entitySummaries_balanced {c : Checks} {t : Tally} (h : Counted data c)
    (hle : t.validationErrors ≤ data.users.length) :
    (∀ e ∈ entitySummaries data context c t, e.Balanced) ↔ t.validationErrors = 0 := by
  obtain ⟨hparties, hcatalog, hwork, hdocuments, hpayments⟩ := h
  simp only [entitySummaries, EntitySummary.Balanced, List.forall_mem_cons, hcatalog, hwork, hdocuments, hpayments]
  constructor
  · rintro ⟨-, ⟨-, husers⟩, -⟩
    omega
  · intro hnone
    refine ⟨?_, by omega, by omega, by omega, by omega, by omega, by omega, by simp⟩
    split <;> simp

theorem exists_checkTarget (rt : Runtime) (c : Checks) : ∃ t, checkTarget rt c = .ok t := by
  have hreport : ∀ ref t r, ∃ t', reportRefusal rt ref t r = .ok t' := by
    intro ref t r
    rcases r with e | ⟨⟩
    · exact exists_addIssue.2 ⟨_, rfl⟩
    · exact ⟨t, rfl⟩
  rw [checkTarget, exists_bind_eq_ok]
  obtain ⟨t, ht⟩ := hreport "tenant_schema" c.tally tenantPayload.validate
  exact ⟨t, ht, (exists_foldlM_iff_forall (P := fun _ => True) fun t r _ => iff_of_true (hreport _ t r) trivial).2
    fun _ _ => trivial⟩

theorem validatePayloads_eq_ok {P : Type} {validate : P → Except SchemaError Unit} {payloads : List P} :
    validatePayloads validate payloads = .ok () ↔ ∀ p ∈ payloads, validate p = .ok () := forM_eq_ok

/-- No schema refuses a payload exactly when each takes every payload of its own. -/
theorem refusalsOf_eq_ok : (∀ r ∈ refusalsOf rt data context, r = .ok ()) ↔ Accepted rt data context := by
  simp only [refusalsOf, List.forall_mem_cons, validatePayloads_eq_ok, List.mem_map, forall_exists_index, and_imp,
    forall_apply_eq_imp_iff₂]
  constructor
  · rintro ⟨hparties, hcatalog, hwork, hdocuments, hpayments, -⟩
    exact ⟨hparties, hcatalog, hwork, hdocuments, hpayments⟩
  · rintro ⟨hparties, hcatalog, hwork, hdocuments, hpayments⟩
    exact ⟨hparties, hcatalog, hwork, hdocuments, hpayments, fun r hr => absurd hr List.not_mem_nil⟩

theorem exists_summarize {c : Checks} {t : Tally} : (∃ result, summarize data context c t = .ok result) ↔
    t.validationErrors ≤ data.users.length ∧ context.sourceSystem.length ≤ 64 := by
  simp [summarize, buildBatchSummary]

theorem summarize_entities {c : Checks} {t : Tally} {result : Result} (h : summarize data context c t = .ok result) :
    result.summary.entities = entitySummaries data context c t := by
  simp only [summarize, buildBatchSummary, bind_eq_ok, pure_eq_ok] at h
  obtain ⟨-, -, _, ⟨-, -, rfl⟩, rfl⟩ := h
  rfl

/-- The refused payloads that a run has counted are those of the dataset. -/
theorem checkTarget_refused {c : Checks} {t : Tally} (hc : checkRows rt data context = .ok c)
    (ht : checkTarget rt c = .ok t) : t.validationErrors = 0 ↔ Accepted rt data context := by
  obtain ⟨hrows, -, hrefusals⟩ := checkRows_ok hc
  have hrefused := (hrows.trans (checkTarget_adds ht)).refused_eq
  rw [hrefusals] at hrefused
  have hstart : ({} : Tally).validationErrors = 0 := rfl
  rw [← refusalsOf_eq_ok, ← refusal_sum_eq_zero]
  omega

end Summaries

section Examples

/-- A source with a repeated login, a client without a name, and rows that refer to nothing. -/
def textDataset : Dataset where
  users := [row [("id", .str "u-1"), ("login", .str "owner")], row [("id", .str "u-2"), ("login", .str "Owner")]]
  clients := [row [("id", .str "c-1"), ("display_name", .str "Client A")], row [("display_name", .none)]]
  services := [row [("id", .str "s-1"), ("name", .str "Consulting")]]
  orders := [row [("id", .str "o-1"), ("number", .str "ORD-1"), ("client_id", .str "c-9"), ("status", .str "LOST")]]
  contracts := [row [("id", .str "k-1"), ("order_id", .str "o-1"), ("amount", .str "7000.50")]]
  payments := [row [("id", .str "p-1"), ("order_id", .str "o-1"), ("type", .str "INCOME"), ("amount", .str "7000.50")]]

/-- A service whose name is null, and a payment whose amount is no number. -/
def namelessService : Dataset := { textDataset with services := [row [("id", .str "s-1"), ("name", .none)]] }

def unreadableAmount : Dataset := { textDataset with payments := [row [("id", .str "p-1"), ("amount", .str "n/a")]] }

theorem runs_view :
    (fun result => decide (∀ e ∈ result.summary.entities, e.Balanced)) <$> run demoRuntime textDataset demoContext =
        .ok true ∧
      (fun result => result.summary.entities[1]?) <$> run demoRuntime namelessService demoContext =
        .ok (some ⟨"users", 2, 1, 0, 1, 1⟩) ∧
      (fun _ => ()) <$> run demoRuntime unreadableAmount demoContext = .error .invalidOperation := by
  decide +kernel

end Examples

end CoreOps.DryRun
