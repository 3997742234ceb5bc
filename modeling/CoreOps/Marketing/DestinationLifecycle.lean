import CoreOps.Marketing.PublishDestinations

/-! What a destination may become in any calls of the service, and what holds of every
destination: its identity is fixed by the first validation and unique among those that
are not archived. -/

namespace CoreOps.Marketing

open Checked Secrets Text

/-- Validated, or locked: the external id may not change any more. -/
def MarketingPublishDestination.Fixed (row : MarketingPublishDestination) : Prop :=
  row.validationStatus ≠ .unchecked ∨ row.identityLockedAt ≠ none

instance (row : MarketingPublishDestination) : Decidable row.Fixed := inferInstanceAs (Decidable (_ ∨ _))

/-- What a destination `row` may have become. -/
structure Follows (row row' : MarketingPublishDestination) : Prop where
  tenantId : row'.tenantId = row.tenantId
  connection : row'.publishingConnectionId = row.publishingConnectionId
  provider : row'.provider = row.provider
  destinationType : row'.destinationType = row.destinationType
  fixed : row.Fixed → row'.Fixed ∧ row'.externalId = row.externalId
  archived : row.status = .archived → row' = row.stamp row'.updatedByUserId
  enabled : row'.status = .enabled → row.status = .enabled ∨ destinationCapabilityEnabled row.destinationType

/-- What holds of one destination under its connection. -/
structure DestinationSound (s : DestinationState) (row : MarketingPublishDestination) : Prop where
  capability : row.status = .enabled → destinationCapabilityEnabled row.destinationType
  provider : row.provider = destinationTypeProvider row.destinationType
  connection : ∃ c, s.connections.get? row.publishingConnectionId = some c ∧ c.tenantId = row.tenantId ∧
    c.provider = row.provider

/-- Every destination is sound, and no two that are not archived have one identity. -/
structure DestinationsSound (s : DestinationState) : Prop where
  rows : ∀ id row, s.destinations.get? id = some row → DestinationSound s row
  identity : s.destinations.UniqueOn (·.activeIdentity)

namespace Follows

variable {a b c : MarketingPublishDestination}

theorem refl (a : MarketingPublishDestination) : Follows a a :=
  ⟨rfl, rfl, rfl, rfl, fun h => ⟨h, rfl⟩, fun _ => rfl, .inl⟩

theorem trans (h : Follows a b) (h' : Follows b c) : Follows a c where
  tenantId := h'.tenantId.trans h.tenantId
  connection := h'.connection.trans h.connection
  provider := h'.provider.trans h.provider
  destinationType := h'.destinationType.trans h.destinationType
  fixed ha := by
    obtain ⟨hb, hab⟩ := h.fixed ha
    obtain ⟨hc, hbc⟩ := h'.fixed hb
    exact ⟨hc, hbc.trans hab⟩
  archived ha := by
    have hb := h.archived ha
    have harchived : b.status = .archived := by
      rw [hb]
      exact ha
    have hc := h'.archived harchived
    rw [hb] at hc
    exact hc
  enabled hc := by
    rcases h'.enabled hc with hb | hb
    · exact h.enabled hb
    · exact .inr (h.destinationType ▸ hb)

/-- Stamping a row shows nowhere else. -/
theorem stamp (h : Follows a b) (userId : Option Uuid) : Follows a (b.stamp userId) where
  tenantId := h.tenantId
  connection := h.connection
  provider := h.provider
  destinationType := h.destinationType
  fixed := h.fixed
  archived ha := by
    rw [h.archived ha]
    rfl
  enabled := h.enabled

end Follows

/-! What each method makes of a row. -/

section Methods

variable {row row' : MarketingPublishDestination}

theorem assertNotArchived_ok {v : Unit} (h : row.assertNotArchived = .ok v) : row.status ≠ .archived :=
  raiseIf_eq_ok.1 h

theorem updateExternalId_follows (hactive : row.status ≠ .archived) {externalId : String}
    (h : row.updateExternalId externalId = .ok row') : Follows row row' := by
  simp only [MarketingPublishDestination.updateExternalId, MarketingPublishDestination.assertExternalIdMutable,
    bind_eq_ok, raiseIf_eq_ok, pure_eq_ok] at h
  obtain ⟨-, hmutable, -, -, rfl⟩ := h
  exact ⟨rfl, rfl, rfl, rfl, fun hfixed => absurd hfixed hmutable, fun harch => absurd harch hactive, .inl⟩

theorem enable_follows (h : row.enable = .ok row') : Follows row row' := by
  unfold MarketingPublishDestination.enable at h
  obtain ⟨_, hactive, h⟩ := bind_eq_ok.1 h
  split at h
  · obtain rfl := pure_eq_ok.1 h
    exact .refl _
  · simp only [bind_eq_ok, raiseIf_eq_ok, pure_eq_ok, not_not] at h
    obtain ⟨-, -, -, hcapability, rfl⟩ := h
    exact ⟨rfl, rfl, rfl, rfl, fun hfixed => ⟨hfixed, rfl⟩, fun harch => absurd harch (assertNotArchived_ok hactive),
      fun _ => .inr hcapability⟩

theorem disable_follows (h : row.disable = .ok row') : Follows row row' := by
  unfold MarketingPublishDestination.disable at h
  obtain ⟨_, hactive, h⟩ := bind_eq_ok.1 h
  split at h
  · obtain rfl := pure_eq_ok.1 h
    exact .refl _
  · simp only [bind_eq_ok, raiseIf_eq_ok, pure_eq_ok] at h
    obtain ⟨-, -, rfl⟩ := h
    refine ⟨rfl, rfl, rfl, rfl, fun hfixed => ⟨hfixed, rfl⟩, fun harch => ?_, fun henabled => ?_⟩
    · exact absurd harch (assertNotArchived_ok hactive)
    · cases henabled

theorem archive_follows (h : row.archive = .ok row') : Follows row row' := by
  unfold MarketingPublishDestination.archive at h
  split at h
  · obtain rfl := pure_eq_ok.1 h
    exact .refl _
  · rename_i hactive
    simp only [bind_eq_ok, raiseIf_eq_ok, pure_eq_ok] at h
    obtain ⟨-, -, rfl⟩ := h
    refine ⟨rfl, rfl, rfl, rfl, fun hfixed => ⟨hfixed, rfl⟩, fun harch => absurd harch hactive, fun henabled => ?_⟩
    cases henabled

/-- Validation never unlocks: only a reset to unchecked leaves `UNCHECKED`, and the
lock stays then. -/
theorem applyStructuralValidation_follows {validationStatus : MarketingDestinationValidationStatus}
    (hchecked : validationStatus ≠ .unchecked) {code : Option String} {now : ℤ}
    (h : row.applyStructuralValidation validationStatus code now = .ok row') : Follows row row' := by
  unfold MarketingPublishDestination.applyStructuralValidation at h
  rw [if_neg hchecked] at h
  simp only [bind_eq_ok, raiseIf_eq_ok, pure_eq_ok] at h
  obtain ⟨_, hactive, -, -, rfl⟩ := h
  exact ⟨rfl, rfl, rfl, rfl, fun _ => ⟨.inl hchecked, rfl⟩, fun harch => absurd harch (assertNotArchived_ok hactive),
    .inl⟩

theorem structuralOutcome_checked (row : MarketingPublishDestination) : (structuralOutcome row).1 ≠ .unchecked := by
  unfold structuralOutcome
  split
  · exact fun h => by cases h
  · split <;> exact fun h => by cases h

theorem validatedDestination_follows {now : ℤ} {userId : Option Uuid}
    (h : validatedDestination row now userId = .ok row') : Follows row row' := by
  unfold validatedDestination at h
  obtain ⟨-, -, h⟩ := bind_eq_ok.1 h
  obtain ⟨validated, hvalidated, h⟩ := bind_eq_ok.1 h
  obtain rfl := pure_eq_ok.1 h
  exact (applyStructuralValidation_follows (structuralOutcome_checked row) hvalidated).stamp userId

theorem updatePublishDestinationDisplay_follows {a : DestinationUpdate}
    (h : updatePublishDestinationDisplay row a = .ok row') : Follows row row' := by
  unfold updatePublishDestinationDisplay at h
  obtain ⟨_, hactive, h⟩ := bind_eq_ok.1 h
  obtain ⟨name, -, h⟩ := bind_eq_ok.1 h
  obtain ⟨metadata, -, h⟩ := bind_eq_ok.1 h
  obtain rfl := pure_eq_ok.1 h
  exact ⟨rfl, rfl, rfl, rfl, fun hfixed => ⟨hfixed, rfl⟩, fun harch => absurd harch (assertNotArchived_ok hactive), .inl⟩

theorem updatePublishDestinationExternalId_follows {externalId : String} {userId : Option Uuid}
    (h : updatePublishDestinationExternalId row externalId userId = .ok row') : Follows row row' := by
  unfold updatePublishDestinationExternalId at h
  obtain ⟨_, hactive, h⟩ := bind_eq_ok.1 h
  obtain ⟨renamed, hrenamed, h⟩ := bind_eq_ok.1 h
  obtain rfl := pure_eq_ok.1 h
  exact (updateExternalId_follows (assertNotArchived_ok hactive) hrenamed).stamp _

theorem updatedDestination_follows {a : DestinationUpdate} (h : updatedDestination row a = .ok row') :
    Follows row row' := by
  unfold updatedDestination at h
  obtain ⟨shown, hshown, h⟩ := bind_eq_ok.1 h
  have hdisplay : Follows row shown := by
    split at hshown
    · exact updatePublishDestinationDisplay_follows hshown
    · obtain rfl := Except.ok.inj hshown
      exact .refl _
  unfold orUnchanged at h
  split at h
  · obtain rfl := Except.ok.inj h
    exact hdisplay
  · exact hdisplay.trans (updatePublishDestinationExternalId_follows h)

end Methods

/-! What a call does. -/

section Calls

variable {s s' : DestinationState} {tenantId destinationId : Uuid} {row : MarketingPublishDestination}

theorem flushDestination_ok {v : Unit} (h : flushDestination (s := s) destinationId row = .ok v) :
    ¬ s.destinations.Taken (·.activeIdentity) destinationId row := by
  simp only [flushDestination, bind_eq_ok, raiseIf_eq_ok] at h
  obtain ⟨-, -, h⟩ := h
  exact h

theorem createPublishDestination_ok {a : DestinationCreate} (h : createPublishDestination tenantId s a = .ok row) :
    DestinationSound s row := by
  unfold createPublishDestination at h
  obtain ⟨connection, hconnection, h⟩ := bind_eq_ok.1 h
  obtain ⟨_, hprovider, h⟩ := bind_eq_ok.1 h
  obtain ⟨-, -, h⟩ := bind_eq_ok.1 h
  obtain ⟨name, -, h⟩ := bind_eq_ok.1 h
  obtain ⟨metadata, -, h⟩ := bind_eq_ok.1 h
  obtain rfl := pure_eq_ok.1 h
  obtain ⟨hget, htenant⟩ := Option.filter_eq_some_iff.1 (orRaise_eq_ok.1 hconnection)
  refine ⟨fun henabled => ?_, not_not.1 (raiseIf_eq_ok.1 hprovider), connection, hget, of_decide_eq_true htenant, rfl⟩
  by_contra hcapability
  rw [if_neg hcapability] at henabled
  cases henabled

/-- A call adds a sound row, or moves one row as `Follows` says; both are checked against
the index. -/
inductive DestinationWrite (s : DestinationState) : DestinationState → Prop
  | added (id row) (hnew : s.destinations.get? id = none) (hsound : DestinationSound s row)
    (hfree : ¬ s.destinations.Taken (·.activeIdentity) id row) :
    DestinationWrite s { s with destinations := s.destinations.insert id row }
  | changed (id row row') (hget : s.destinations.get? id = some row) (hfollows : Follows row row')
    (hfree : ¬ s.destinations.Taken (·.activeIdentity) id row') :
    DestinationWrite s { s with destinations := s.destinations.modify id fun _ => row' }

theorem changeDestination_ok
    {change : MarketingPublishDestination → Except DestinationError MarketingPublishDestination}
    (h : changeDestination tenantId s destinationId change = .ok s')
    (hchange : ∀ row row', change row = .ok row' → Follows row row') : DestinationWrite s s' := by
  unfold changeDestination at h
  obtain ⟨row, hrow, h⟩ := bind_eq_ok.1 h
  obtain ⟨row', hrow', h⟩ := bind_eq_ok.1 h
  obtain ⟨_, hflush, h⟩ := bind_eq_ok.1 h
  obtain rfl := pure_eq_ok.1 h
  obtain ⟨hget, -⟩ := Option.filter_eq_some_iff.1 (orRaise_eq_ok.1 hrow)
  exact .changed destinationId row row' hget (hchange row row' hrow') (flushDestination_ok hflush)

theorem createDestination_ok {a : DestinationCreate} (h : createDestination tenantId s destinationId a = .ok s') :
    DestinationWrite s s' := by
  unfold createDestination at h
  obtain ⟨row, hrow, h⟩ := bind_eq_ok.1 h
  obtain ⟨_, hnew, h⟩ := bind_eq_ok.1 h
  obtain ⟨_, hflush, h⟩ := bind_eq_ok.1 h
  obtain rfl := pure_eq_ok.1 h
  have hnew := raiseIf_eq_ok.1 (mapError_eq_ok.1 hnew)
  rw [Bool.not_eq_true, Option.isSome_eq_false_iff, Option.isNone_iff_eq_none] at hnew
  exact .added destinationId row hnew (createPublishDestination_ok hrow) (flushDestination_ok (mapError_eq_ok.1 hflush))

theorem execDestination_ok {op : DestinationOp} (h : execDestination s op = .ok s') : DestinationWrite s s' := by
  have hstamped {method : MarketingPublishDestination → Except DestinationError MarketingPublishDestination}
      {userId : Option Uuid} (hm : ∀ row row', method row = .ok row' → Follows row row') :
      ∀ row row', (do return (← method row).stamp userId) = Except.ok row' → Follows row row' := by
    intro row row' h
    obtain ⟨moved, hmoved, h⟩ := bind_eq_ok.1 h
    obtain rfl := pure_eq_ok.1 h
    exact (hm row moved hmoved).stamp userId
  cases op with
  | create tenantId destinationId a => exact createDestination_ok h
  | update tenantId destinationId a =>
    exact changeDestination_ok (mapError_eq_ok.1 h) fun _ _ => updatedDestination_follows
  | validate tenantId destinationId now userId => exact changeDestination_ok h fun _ _ => validatedDestination_follows
  | enable tenantId destinationId userId => exact changeDestination_ok h (hstamped fun _ _ => enable_follows)
  | disable tenantId destinationId userId => exact changeDestination_ok h (hstamped fun _ _ => disable_follows)
  | archive tenantId destinationId userId => exact changeDestination_ok h (hstamped fun _ _ => archive_follows)

end Calls

/-! What every call keeps. -/

section Kept

variable {s s' : DestinationState}

theorem DestinationSound.of_follows {row row' : MarketingPublishDestination} (h : DestinationSound s row)
    (hf : Follows row row') : DestinationSound s row' where
  capability henabled := by
    rw [hf.destinationType]
    exact (hf.enabled henabled).elim h.capability id
  provider := by rw [hf.provider, hf.destinationType, h.provider]
  connection := by rw [hf.connection, hf.tenantId, hf.provider]; exact h.connection

theorem DestinationWrite.sound (h : DestinationWrite s s') (hs : DestinationsSound s) : DestinationsSound s' := by
  cases h with
  | added id row hnew hsound hfree =>
    refine ⟨fun j w hw => ?_, hs.identity.insert hfree⟩
    rw [Table.get?_insert_new _ _ _ hnew] at hw
    split at hw
    · obtain rfl := Option.some.inj hw
      exact ⟨hsound.capability, hsound.provider, hsound.connection⟩
    · exact ⟨(hs.rows j w hw).capability, (hs.rows j w hw).provider, (hs.rows j w hw).connection⟩
  | changed id row row' hget hfollows hfree =>
    refine ⟨fun j w hw => ?_, hs.identity.modify fun _ _ => hfree⟩
    rw [Table.get?_modify] at hw
    split at hw
    · obtain ⟨v, -, rfl⟩ := Option.map_eq_some_iff.1 hw
      have hsound := (hs.rows id row hget).of_follows hfollows
      exact ⟨hsound.capability, hsound.provider, hsound.connection⟩
    · exact ⟨(hs.rows j w hw).capability, (hs.rows j w hw).provider, (hs.rows j w hw).connection⟩

theorem DestinationWrite.evolves (h : DestinationWrite s s') : s.destinations.Evolves Follows s'.destinations := by
  cases h with
  | added id row hnew => exact Table.evolves_insert Follows.refl hnew
  | changed id row row' hget hfollows =>
    refine Table.evolves_modify Follows.refl fun v hv => ?_
    obtain rfl := Option.some.inj (hget.symm.trans hv)
    exact hfollows

variable {ops : List DestinationOp}

theorem destinationsSound_run (h : Run (CallStep execDestination) s ops s') (hs : DestinationsSound s) :
    DestinationsSound s' :=
  h.invariant_calls DestinationsSound hs fun _ _ _ hsound hok => (execDestination_ok hok).sound hsound

theorem destinations_evolve (h : Run (CallStep execDestination) s ops s') :
    s.destinations.Evolves Follows s'.destinations :=
  Table.evolves_calls Follows.refl (fun _ _ _ => Follows.trans) (fun _ _ _ hok => (execDestination_ok hok).evolves) h

theorem destinationsSound_empty (h : s.destinations = ∅) : DestinationsSound s := by
  refine ⟨fun id row hget => ?_, ?_⟩
  · rw [h, Table.get?_empty] at hget
    cases hget
  · rw [h]
    exact Table.uniqueOn_empty

/-- Two destinations that are not archived and agree in identity are one. -/
theorem DestinationsSound.eq_of_identity (h : DestinationsSound s) {id id' : Uuid}
    {row row' : MarketingPublishDestination} (hget : s.destinations.get? id = some row)
    (hget' : s.destinations.get? id' = some row') (hactive : row.status ≠ .archived) (hactive' : row'.status ≠ .archived)
    (htenant : row.tenantId = row'.tenantId) (hconnection : row.publishingConnectionId = row'.publishingConnectionId)
    (htype : row.destinationType = row'.destinationType) (hexternal : row.externalId = row'.externalId) : id = id' := by
  refine h.identity id id' row row' hget hget' ?_ ?_
  · simp [MarketingPublishDestination.activeIdentity, hactive]
  · simp [MarketingPublishDestination.activeIdentity, hactive, hactive', htenant, hconnection, htype, hexternal]

end Kept

/-- In every run of the service, an enabled destination is of an enabled capability and
its provider is that of its connection and its type; no two destinations of a tenant that
are not archived have one identity; and from then on a destination that was validated or
locked keeps its external id, and one that was archived all but the stamp of the user who
archives it once more. -/
theorem destination_identity_stable {s₀ s s' : DestinationState} {ops ops' : List DestinationOp}
    (hempty : s₀.destinations = ∅) (h : Run (CallStep execDestination) s₀ ops s)
    (h' : Run (CallStep execDestination) s ops' s') :
    (∀ id row, s.destinations.get? id = some row → row.status = .enabled →
      destinationCapabilityEnabled row.destinationType ∧ row.provider = destinationTypeProvider row.destinationType ∧
      ∃ c, getPublishingConnection row.tenantId s row.publishingConnectionId = some c ∧ c.provider = row.provider) ∧
    (∀ id id' row row', s.destinations.get? id = some row → s.destinations.get? id' = some row' →
      row.status ≠ .archived → row'.status ≠ .archived → row.tenantId = row'.tenantId →
      row.publishingConnectionId = row'.publishingConnectionId → row.destinationType = row'.destinationType →
      row.externalId = row'.externalId → id = id') ∧
    ∀ id row, s.destinations.get? id = some row → ∃ row', s'.destinations.get? id = some row' ∧
      (row.validationStatus ≠ .unchecked ∨ row.identityLockedAt ≠ none → row'.externalId = row.externalId) ∧
      (row.status = .archived → row' = { row with updatedByUserId := row'.updatedByUserId }) := by
  have hsound := destinationsSound_run h (destinationsSound_empty hempty)
  refine ⟨fun id row hget henabled => ?_, fun _ _ _ _ => hsound.eq_of_identity, fun id row hget => ?_⟩
  · have hrow := hsound.rows id row hget
    obtain ⟨c, hc, htenant, hprovider⟩ := hrow.connection
    refine ⟨hrow.capability henabled, hrow.provider, c, ?_, hprovider⟩
    exact Option.filter_eq_some_iff.2 ⟨hc, decide_eq_true htenant⟩
  · obtain ⟨row', hget', hfollows⟩ := destinations_evolve h' id row hget
    exact ⟨row', hget', fun hfixed => (hfollows.fixed hfixed).2, hfollows.archived⟩

/-! A chat that one user adds, validates and archives, and another archives again. -/

def demoConnection : MarketingPublishingConnection := ⟨7, .telegram, .active, .valid, none, none, none⟩

def demoUnpublished : DestinationState := ⟨⟨[(3, demoConnection)], by simp⟩, ∅⟩

def demoArchiving : List DestinationOp :=
  [.create 7 1 ⟨3, .telegramChat, " -100200 ", "News", none, some 1⟩, .validate 7 1 5 (some 1), .archive 7 1 (some 1)]

def demoArchived : DestinationState := demoArchiving.foldl (settle execDestination) demoUnpublished

theorem demoArchived_row : (demoArchived.destinations.get? 1).map
    (fun row => (row.externalId, row.status, row.validationStatus, row.updatedByUserId)) =
      some ("-100200", .archived, .unavailable, some 1) := by
  decide

theorem destination_identity_stable_chat : ∃ row row', demoArchived.destinations.get? 1 = some row ∧
    (settle execDestination demoArchived (.archive 7 1 (some 2))).destinations.get? 1 = some row' ∧
    row'.externalId = row.externalId ∧ row' = { row with updatedByUserId := row'.updatedByUserId } := by
  obtain ⟨row, hrow, hvalues⟩ := Option.map_eq_some_iff.1 demoArchived_row
  obtain ⟨-, -, hstable⟩ := destination_identity_stable (rfl : demoUnpublished.destinations = ∅) Run.of_foldl
    (Run.single (e := DestinationOp.archive 7 1 (some 2)) rfl)
  obtain ⟨row', hrow', hfixed, harchived⟩ := hstable 1 row hrow
  simp only [Prod.mk.injEq] at hvalues
  refine ⟨row, row', hrow, hrow', hfixed (.inl ?_), harchived hvalues.2.1⟩
  rw [hvalues.2.2.1]
  decide

/-- Archiving an archived destination succeeds and stamps its user. -/
theorem archived_destination_changes : ¬ ∀ (s₀ s s' : DestinationState) (ops ops' : List DestinationOp),
    s₀.destinations = ∅ → Run (CallStep execDestination) s₀ ops s → Run (CallStep execDestination) s ops' s' →
    ∀ id row, s.destinations.get? id = some row → row.status = .archived → s'.destinations.get? id = some row := by
  intro hclaim
  obtain ⟨row, hrow, hvalues⟩ := Option.map_eq_some_iff.1 demoArchived_row
  simp only [Prod.mk.injEq] at hvalues
  have hkept := hclaim demoUnpublished demoArchived _ demoArchiving [.archive 7 1 (some 2)] rfl Run.of_foldl
    (Run.single rfl) 1 row hrow hvalues.2.1
  have hstamped : ((settle execDestination demoArchived (.archive 7 1 (some 2))).destinations.get? 1).map
      (·.updatedByUserId) = some (some 2) := by decide
  rw [hkept, Option.map_some, hvalues.2.2.2] at hstamped
  cases hstamped

end CoreOps.Marketing
