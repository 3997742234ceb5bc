import CoreOps.Lib.SlidingWindow
import Mathlib.Algebra.Order.Ring.Cast
import Mathlib.Data.List.Induction
import Mathlib.Logic.Function.Basic

/-! The in-memory rate limiter of the public leads: for each client and window length a
list of stamps, pruned and appended to by each call, rule by rule. Clock values are
numbers of any ordered ring. -/

namespace CoreOps.PublicLeads

open SlidingWindow

def publicLeadsRateLimitMessage : String := "Too many requests. Please try again later."

structure RateLimitRule where
  windowSeconds : ℤ
  maxRequests : ℤ
  deriving DecidableEq, Repr

/-- Keys with their windows, to the stamps of accepted hits. -/
abbrev Buckets (T : Type*) := String × ℤ → List T

def clientKey (key : String) : String := if key = "" then "unknown" else key

section Calls

variable {T : Type*}

/-- A call, and what the clock shows it. -/
structure Call (T : Type*) where
  now : T
  key : String
  rules : List RateLimitRule

/-- The times of the calls of a client that are checked under the rule. -/
def timesOf (key : String) (rule : RateLimitRule) (calls : List (Call T)) : List T :=
  (calls.filter fun c => clientKey c.key = key ∧ rule ∈ c.rules).map (·.now)

theorem timesOf_append (key : String) (rule : RateLimitRule) (calls more : List (Call T)) :
    timesOf key rule (calls ++ more) = timesOf key rule calls ++ timesOf key rule more := by
  simp [timesOf]

theorem timesOf_singleton (key : String) (rule : RateLimitRule) (c : Call T) :
    timesOf key rule [c] = if clientKey c.key = key ∧ rule ∈ c.rules then [c.now] else [] := by
  by_cases h : clientKey c.key = key ∧ rule ∈ c.rules <;> simp [timesOf, h]

end Calls

section Limiter

variable {T : Type*} [Ring T] [LinearOrder T]

/-- A rule that limits anything. -/
def RateLimitRule.Applies (rule : RateLimitRule) : Prop := 0 < rule.windowSeconds ∧ 0 < rule.maxRequests

instance (rule : RateLimitRule) : Decidable rule.Applies :=
  inferInstanceAs (Decidable (0 < rule.windowSeconds ∧ 0 < rule.maxRequests))

/-- The loop over the rules. What the rules before a refusal have written stays. -/
def checkRules (now : T) (key : String) : List RateLimitRule → Buckets T → Except String Unit × Buckets T
  | [], buckets => (.ok (), buckets)
  | rule :: rules, buckets =>
    if rule.windowSeconds ≤ 0 ∨ rule.maxRequests ≤ 0 then checkRules now key rules buckets
    else
      let bucketKey := (key, rule.windowSeconds)
      let timestamps := recent (rule.windowSeconds : T) now (buckets bucketKey)
      if rule.maxRequests ≤ timestamps.length then (.error publicLeadsRateLimitMessage, buckets)
      else checkRules now key rules (Function.update buckets bucketKey (timestamps ++ [now]))

def checkAndIncrement (c : Call T) (buckets : Buckets T) : Except String Unit × Buckets T :=
  checkRules c.now (clientKey c.key) c.rules buckets

/-- A limiter with the calls it has accepted so far. -/
structure Limiter (T : Type*) where
  buckets : Buckets T
  accepted : List (Call T)

def Limiter.fresh : Limiter T := ⟨fun _ => [], []⟩

def Limiter.serve (l : Limiter T) (c : Call T) : Limiter T :=
  match checkAndIncrement c l.buckets with
  | (.ok _, buckets) => ⟨buckets, l.accepted ++ [c]⟩
  | (.error _, buckets) => ⟨buckets, l.accepted⟩

def Limiter.serveAll (calls : List (Call T)) : Limiter T := calls.foldl serve fresh

theorem serveAll_append (calls : List (Call T)) (c : Call T) :
    Limiter.serveAll (calls ++ [c]) = (Limiter.serveAll calls).serve c := by
  simp [Limiter.serveAll]

theorem accepted_of_calls (calls : List (Call T)) : ∀ c ∈ (Limiter.serveAll calls).accepted, c ∈ calls := by
  induction calls using List.reverseRecOn with
  | nil => simp [Limiter.serveAll, Limiter.fresh]
  | append_singleton calls last ih =>
    intro c hc
    rw [serveAll_append] at hc
    unfold Limiter.serve at hc
    split at hc
    · rcases List.mem_append.1 hc with hc | hc
      · exact List.mem_append_left _ (ih c hc)
      · exact List.mem_append_right _ hc
    · exact List.mem_append_left _ (ih c hc)

/-- How many stamps of a bucket are recent. -/
def load (later : T) (k : String × ℤ) (buckets : Buckets T) : ℕ := (recent (k.2 : T) later (buckets k)).length

/-- What holds of the limiter, for one client and one rule, at any time from `now` on. -/
structure Limits (key : String) (rule : RateLimitRule) (now : T) (l : Limiter T) : Prop where
  kept : ∀ later, now ≤ later →
    (recent (rule.windowSeconds : T) later (timesOf key rule l.accepted)).length ≤
      load later (key, rule.windowSeconds) l.buckets
  spaced : Spaced rule.maxRequests.toNat (rule.windowSeconds : T) (timesOf key rule l.accepted)

theorem Limits.mono {key : String} {rule : RateLimitRule} {now later : T} {l : Limiter T}
    (h : Limits key rule now l) (hle : now ≤ later) : Limits key rule later l :=
  ⟨fun _ hlater => h.kept _ (hle.trans hlater), h.spaced⟩

end Limiter

section Loop

variable {T : Type*} [Ring T] [LinearOrder T] [IsStrictOrderedRing T]

/-- A rule that lets the call pass adds its stamp and loses none that is recent. -/
theorem load_update {now later : T} (h : now ≤ later) (k j : String × ℤ) (buckets : Buckets T) :
    load later j (Function.update buckets k (recent (k.2 : T) now (buckets k) ++ [now])) =
      load later j buckets + if j = k ∧ later - now < (k.2 : T) then 1 else 0 := by
  by_cases hj : j = k
  · subst hj
    unfold load
    rw [Function.update_self, recent_append, recent_recent h, recent_singleton, List.length_append]
    by_cases hrecent : later - now < (j.2 : T) <;> simp [hrecent]
  · simp [load, hj]

theorem load_checkRules {now later : T} (h : now ≤ later) (key : String) (rules : List RateLimitRule)
    (buckets : Buckets T) (k : String × ℤ) :
    load later k buckets ≤ load later k (checkRules now key rules buckets).2 := by
  induction rules generalizing buckets with
  | nil => exact le_rfl
  | cons rule rules ih =>
    unfold checkRules
    split
    · exact ih buckets
    · dsimp only
      split
      · exact le_rfl
      · refine le_trans ?_ (ih _)
        rw [load_update h (key, rule.windowSeconds)]
        omega

/-- A call that passes found room under each of its rules, and has left its stamp. -/
theorem room_of_passed {now : T} {key : String} {rules : List RateLimitRule} {buckets : Buckets T} {u : Unit}
    (hok : (checkRules now key rules buckets).1 = .ok u) {rule : RateLimitRule} (hrule : rule ∈ rules)
    (happlies : rule.Applies) :
    (load now (key, rule.windowSeconds) buckets : ℤ) < rule.maxRequests ∧
    ∀ later, now ≤ later → later - now < (rule.windowSeconds : T) →
      load later (key, rule.windowSeconds) buckets + 1 ≤
        load later (key, rule.windowSeconds) (checkRules now key rules buckets).2 := by
  induction rules generalizing buckets with
  | nil => cases hrule
  | cons first rules ih =>
    unfold checkRules at hok ⊢
    split at hok
    · rename_i hskip
      rw [if_pos hskip]
      rcases List.mem_cons.1 hrule with rfl | hrule
      · unfold RateLimitRule.Applies at happlies
        omega
      · exact ih hok hrule
    · rename_i hcounts
      rw [if_neg hcounts]
      dsimp only at hok ⊢
      split at hok
      · cases hok
      · rename_i hroom
        rw [if_neg hroom]
        rcases List.mem_cons.1 hrule with rfl | hrule
        · refine ⟨by simpa [load] using hroom, fun later hlater hrecent => ?_⟩
          refine le_trans ?_ (load_checkRules hlater key rules _ _)
          rw [load_update hlater (key, rule.windowSeconds), if_pos ⟨rfl, hrecent⟩]
        · obtain ⟨hfree, hstamped⟩ := ih hok hrule
          have hgrow : ∀ later, now ≤ later → load later (key, rule.windowSeconds) buckets ≤
              load later (key, rule.windowSeconds) (Function.update buckets (key, first.windowSeconds)
                (recent (first.windowSeconds : T) now (buckets (key, first.windowSeconds)) ++ [now])) := by
            intro later hlater
            rw [load_update hlater (key, first.windowSeconds)]
            omega
          refine ⟨?_, fun later hlater hrecent => ?_⟩
          · have hnow := hgrow now le_rfl
            omega
          · have hlater' := hgrow later hlater
            have hnext := hstamped later hlater hrecent
            omega

/-- One call, on the clock of the last one or after it. -/
theorem Limits.serve {key : String} {rule : RateLimitRule} (happlies : rule.Applies) {l : Limiter T} {c : Call T}
    (h : Limits key rule c.now l) : Limits key rule c.now (l.serve c) := by
  have hgrow : ∀ later, c.now ≤ later → load later (key, rule.windowSeconds) l.buckets ≤
      load later (key, rule.windowSeconds) (checkAndIncrement c l.buckets).2 :=
    fun later hlater => load_checkRules hlater (clientKey c.key) c.rules l.buckets _
  unfold Limiter.serve
  split
  · rename_i u buckets hserved
    simp only [hserved] at hgrow
    by_cases hcounts : clientKey c.key = key ∧ rule ∈ c.rules
    · -- the call is one of those counted: it found room, and its stamp is in the bucket
      obtain ⟨hkey, hrule⟩ := hcounts
      have hok : (checkRules c.now (clientKey c.key) c.rules l.buckets).1 = .ok u := congrArg Prod.fst hserved
      obtain ⟨hroom, hstamped⟩ := room_of_passed hok hrule happlies
      have hafter : (checkRules c.now (clientKey c.key) c.rules l.buckets).2 = buckets := congrArg Prod.snd hserved
      rw [hafter, hkey] at hstamped
      rw [hkey] at hroom
      have hnow := h.kept c.now le_rfl
      constructor
      · intro later hlater
        have hkept := h.kept later hlater
        simp only [timesOf_append, timesOf_singleton, hkey, hrule, and_self, if_true, recent_append,
          recent_singleton, List.length_append]
        by_cases hrecent : later - c.now < (rule.windowSeconds : T)
        · have hstamp := hstamped later hlater hrecent
          simp only [hrecent, if_true, List.length_singleton]
          omega
        · have hload := hgrow later hlater
          simp only [hrecent, if_false, List.length_nil]
          omega
      · simp only [timesOf_append, timesOf_singleton, hkey, hrule, and_self, if_true]
        exact .snoc h.spaced (by omega)
    · constructor
      · intro later hlater
        simp only [timesOf_append, timesOf_singleton, hcounts, if_false, List.append_nil]
        exact (h.kept later hlater).trans (hgrow later hlater)
      · simp only [timesOf_append, timesOf_singleton, hcounts, if_false, List.append_nil]
        exact h.spaced
  · rename_i message buckets hserved
    rw [hserved] at hgrow
    exact ⟨fun later hlater => (h.kept later hlater).trans (hgrow later hlater), h.spaced⟩

theorem limits_serveAll (key : String) {rule : RateLimitRule} (happlies : rule.Applies) (calls : List (Call T))
    (hclock : calls.Pairwise fun earlier c => earlier.now ≤ c.now) (now : T) (hnow : ∀ c ∈ calls, c.now ≤ now) :
    Limits key rule now (Limiter.serveAll calls) := by
  induction calls using List.reverseRecOn generalizing now with
  | nil => exact ⟨fun later _ => by simp [Limiter.serveAll, Limiter.fresh, timesOf, recent], .nil⟩
  | append_singleton calls c ih =>
    rw [List.pairwise_append] at hclock
    have hbefore : ∀ earlier ∈ calls, earlier.now ≤ c.now := fun earlier h => hclock.2.2 earlier h c (by simp)
    rw [serveAll_append]
    exact ((ih hclock.1 c.now hbefore).serve happlies).mono (hnow c (by simp))

/-- Two a minute and three an hour: the third call of the minute is refused, and the hour
rule refuses what the minute rule would let pass. -/
def hourlyCalls : List (Call ℤ) :=
  [0, 10, 20, 60, 80, 90].map fun now => ⟨now, "192.0.2.1", [⟨60, 2⟩, ⟨3600, 3⟩]⟩

/-- A call that gets past a rule leaves its stamp there, whatever the later rules answer. -/
theorem load_lt_of_room (now : T) (key : String) {rule : RateLimitRule} (happlies : rule.Applies)
    (rules : List RateLimitRule) (buckets : Buckets T) :
    load now (key, rule.windowSeconds) buckets <
      load now (key, rule.windowSeconds) (checkRules now key rules (Function.update buckets (key, rule.windowSeconds)
        (recent (rule.windowSeconds : T) now (buckets (key, rule.windowSeconds)) ++ [now]))).2 := by
  have hwindow : (0 : T) < (rule.windowSeconds : T) := by exact_mod_cast happlies.1
  refine lt_of_lt_of_le ?_ (load_checkRules le_rfl key rules _ _)
  rw [load_update le_rfl (key, rule.windowSeconds), if_pos ⟨rfl, by rwa [sub_self]⟩]
  omega

/-- The first of the rules that limit anything has no room for the call. -/
def FirstRefuses (now : T) (key : String) (rules : List RateLimitRule) (buckets : Buckets T) : Prop :=
  ∃ rule, rules.find? (fun rule => rule.Applies) = some rule ∧
    rule.maxRequests ≤ load now (key, rule.windowSeconds) buckets

theorem checkRules_keeps_iff {now : T} {key : String} {rules : List RateLimitRule} {buckets : Buckets T}
    {message : String} (h : (checkRules now key rules buckets).1 = .error message) :
    (∀ k, recent (k.2 : T) now ((checkRules now key rules buckets).2 k) = recent (k.2 : T) now (buckets k)) ↔
      FirstRefuses now key rules buckets := by
  induction rules with
  | nil => cases h
  | cons rule rules ih =>
    unfold checkRules at h ⊢
    by_cases hskip : rule.windowSeconds ≤ 0 ∨ rule.maxRequests ≤ 0
    · have happlies : ¬ rule.Applies := by
        unfold RateLimitRule.Applies
        omega
      rw [if_pos hskip] at h ⊢
      rw [ih h, FirstRefuses, FirstRefuses, List.find?_cons_of_neg (by simpa using happlies)]
    · have happlies : rule.Applies := by
        unfold RateLimitRule.Applies
        omega
      rw [if_neg hskip] at h ⊢
      dsimp only at h ⊢
      have hfirst : FirstRefuses now key (rule :: rules) buckets ↔
          rule.maxRequests ≤ load now (key, rule.windowSeconds) buckets := by
        rw [FirstRefuses, List.find?_cons_of_pos (by simpa using happlies)]
        simp
      rw [hfirst]
      by_cases hfull : rule.maxRequests ≤ load now (key, rule.windowSeconds) buckets
      · unfold load at hfull
        rw [if_pos hfull]
        exact ⟨fun _ => hfull, fun _ _ => rfl⟩
      · have hlater := load_lt_of_room now key happlies rules buckets
        unfold load at hfull hlater
        rw [if_neg hfull]
        refine ⟨fun hsame => ?_, fun hroom => absurd hroom hfull⟩
        rw [hsame (key, rule.windowSeconds)] at hlater
        exact absurd hlater (lt_irrefl _)

/-- A refused call leaves the recent stamps of all buckets as they were just when the first
rule that limits anything is the one that refuses it. -/
theorem refused_keeps_iff {c : Call T} {buckets : Buckets T} {message : String}
    (h : (checkAndIncrement c buckets).1 = .error message) :
    (∀ k, recent (k.2 : T) c.now ((checkAndIncrement c buckets).2 k) = recent (k.2 : T) c.now (buckets k)) ↔
      FirstRefuses c.now (clientKey c.key) c.rules buckets :=
  checkRules_keeps_iff h

/-- One call an hour: the next one is refused, and counts against the minute. -/
def callAt (now : ℤ) (rules : List RateLimitRule) : Call ℤ := ⟨now, "192.0.2.1", rules⟩

def minuteAndHour : List RateLimitRule := [⟨60, 5⟩, ⟨3600, 1⟩]

def afterFirst : Buckets ℤ := (checkAndIncrement (callAt 0 minuteAndHour) fun _ => []).2

theorem refused_uses_quota :
    (checkAndIncrement (callAt 70 minuteAndHour) afterFirst).1 = .error publicLeadsRateLimitMessage ∧
      ¬ ∀ k, recent (k.2 : ℤ) 70 ((checkAndIncrement (callAt 70 minuteAndHour) afterFirst).2 k) =
        recent (k.2 : ℤ) 70 (afterFirst k) := by
  refine ⟨by decide, fun hsame => ?_⟩
  exact absurd (hsame ("192.0.2.1", 60)) (by decide)

theorem refused_keeps_hourly :
    (checkAndIncrement (callAt 70 [⟨3600, 1⟩]) afterFirst).1 = .error publicLeadsRateLimitMessage ∧
      ∀ k, recent (k.2 : ℤ) 70 ((checkAndIncrement (callAt 70 [⟨3600, 1⟩]) afterFirst).2 k) =
        recent (k.2 : ℤ) 70 (afterFirst k) := by
  have hrefused : (checkAndIncrement (callAt 70 [⟨3600, 1⟩]) afterFirst).1 = .error publicLeadsRateLimitMessage := by
    decide
  exact ⟨hrefused, (refused_keeps_iff hrefused).2 ⟨⟨3600, 1⟩, by decide, by decide⟩⟩

end Loop

end CoreOps.PublicLeads
