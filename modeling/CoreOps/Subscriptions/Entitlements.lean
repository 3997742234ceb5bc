import Mathlib.Algebra.Ring.Int.Defs
import Mathlib.Data.Prod.Lex
import CoreOps.Modules.Registry

/-! Plans and the usage of their metered resources. A tenant has one subscription, a plan
one limit for each code; a usage event is counted in every period that had begun when it
was recorded. Instants are calendar dates in UTC with the time of day. -/

namespace CoreOps.Subscriptions

open Checked
open Modules (SubscriptionStatus)

inductive UsagePeriod
  | daily
  | monthly
  | yearly
  | lifetime
  deriving DecidableEq, Repr

/-- An instant; the time of day is in microseconds. -/
structure DateTime where
  year : ℕ
  month : ℕ
  day : ℕ
  time : ℕ
  one_le_year : 1 ≤ year
  one_le_month : 1 ≤ month
  one_le_day : 1 ≤ day
  deriving DecidableEq, Repr

def DateTime.key (t : DateTime) : ℕ ×ₗ ℕ ×ₗ ℕ ×ₗ ℕ := toLex (t.year, toLex (t.month, toLex (t.day, t.time)))

instance : LE DateTime := ⟨fun a b => a.key ≤ b.key⟩

instance (a b : DateTime) : Decidable (a ≤ b) := inferInstanceAs (Decidable (a.key ≤ b.key))

structure Subscription where
  planId : ℕ
  status : SubscriptionStatus
  deriving DecidableEq, Repr

structure UsageLimit where
  limitValue : ℤ
  period : UsagePeriod
  deriving DecidableEq, Repr

structure UsageEvent where
  tenantId : ℕ
  limitCode : String
  quantity : ℤ
  createdAt : DateTime
  deriving DecidableEq, Repr

/-- Subscriptions by tenant, limits by plan and code. -/
structure Plans where
  subscriptions : Table ℕ Subscription
  usageLimits : Table (ℕ × String) UsageLimit

inductive EntitlementError
  | featureNotEntitled (message : String)
  | usageLimitExceeded (message : String)
  deriving DecidableEq, Repr

def getActiveForTenant (plans : Plans) (tenantId : ℕ) : Option Subscription :=
  (plans.subscriptions.get? tenantId).filter fun s => s.status ∈ [SubscriptionStatus.active, .trial]

def getPlanLimit (plans : Plans) (planId : ℕ) (limitCode : String) : Option UsageLimit :=
  plans.usageLimits.get? (planId, limitCode)

def sumUsage (events : List UsageEvent) (tenantId : ℕ) (limitCode : String) (since : DateTime) : ℤ :=
  ((events.filter fun e => e.tenantId = tenantId ∧ e.limitCode = limitCode ∧ since ≤ e.createdAt).map
    UsageEvent.quantity).sum

def periodStart (now : DateTime) : UsagePeriod → DateTime
  | .daily => { now with time := 0 }
  | .monthly => { now with day := 1, time := 0, one_le_day := le_rfl }
  | .yearly => { now with month := 1, day := 1, time := 0, one_le_month := le_rfl, one_le_day := le_rfl }
  | .lifetime => ⟨1, 1, 1, 0, le_rfl, le_rfl, le_rfl⟩

/-- The limit of a code in the tenant's current plan. -/
def limitOf (plans : Plans) (tenantId : ℕ) (limitCode : String) : Option UsageLimit :=
  (getActiveForTenant plans tenantId).bind fun subscription => getPlanLimit plans subscription.planId limitCode

/-- The sum the check of a request makes; there is none when the plan does not meter the code. -/
def currentUsage (plans : Plans) (events : List UsageEvent) (tenantId : ℕ) (limitCode : String) (now : DateTime) :
    Option ℤ :=
  (limitOf plans tenantId limitCode).map fun limit => sumUsage events tenantId limitCode (periodStart now limit.period)

def assertWithinLimit (plans : Plans) (events : List UsageEvent) (tenantId : ℕ) (limitCode : String) (increment : ℤ)
    (now : DateTime) : Except EntitlementError Unit := do
  let subscription ← orRaise (getActiveForTenant plans tenantId)
    (.featureNotEntitled "No active subscription for tenant")
  match getPlanLimit plans subscription.planId limitCode with
  | none => return ()
  | some usageLimit =>
    let currentUsage := sumUsage events tenantId limitCode (periodStart now usageLimit.period)
    let used := currentUsage + increment
    let limitValue := usageLimit.limitValue
    raiseIf (used > limitValue) (.usageLimitExceeded s!"Usage limit '{limitCode}' exceeded ({used}/{limitValue})")

def recordUsageEvent (events : List UsageEvent) (event : UsageEvent) : List UsageEvent := events ++ [event]

section Usage

variable {plans : Plans} {events : List UsageEvent} {tenantId : ℕ} {limitCode : String}

/-- A period has begun by the instant it is the period of. -/
theorem periodStart_le (now : DateTime) (period : UsagePeriod) : periodStart now period ≤ now := by
  show (periodStart now period).key ≤ now.key
  have hyear := now.one_le_year
  have hmonth := now.one_le_month
  have hday := now.one_le_day
  cases period <;> simp only [DateTime.key, periodStart, Prod.Lex.toLex_le_toLex, true_and] <;> omega

/-- A request that passes the check has room for what it adds. -/
theorem room_of_assertWithinLimit {increment : ℤ} {now : DateTime} {limit : UsageLimit}
    (h : assertWithinLimit plans events tenantId limitCode increment now = .ok ())
    (hlimit : limitOf plans tenantId limitCode = some limit) :
    sumUsage events tenantId limitCode (periodStart now limit.period) + increment ≤ limit.limitValue := by
  obtain ⟨subscription, hsub, hplan⟩ := Option.bind_eq_some_iff.1 hlimit
  simp only [assertWithinLimit, hsub, orRaise, bind_eq_ok, Except.ok.injEq, exists_eq_left', hplan,
    raiseIf_eq_ok, not_lt] at h
  exact h

/-- An event adds its quantity to the sums it is counted in, and nothing to the others. -/
theorem sumUsage_recordUsageEvent (events : List UsageEvent) (event : UsageEvent) (since : DateTime) :
    sumUsage (recordUsageEvent events event) tenantId limitCode since = sumUsage events tenantId limitCode since +
      if event.tenantId = tenantId ∧ event.limitCode = limitCode ∧ since ≤ event.createdAt then event.quantity
      else 0 := by
  unfold sumUsage recordUsageEvent
  rw [List.filter_append, List.map_append, List.sum_append]
  by_cases h : event.tenantId = tenantId ∧ event.limitCode = limitCode ∧ since ≤ event.createdAt
  · simp [h]
  · simp only [h, if_false, List.filter_cons, List.filter_nil, decide_false, Bool.false_eq_true, List.map_nil,
      List.sum_nil]

end Usage

end CoreOps.Subscriptions
