import Mathlib
import CoreOps.Booking.NoDoubleBooking

/-! Stays by date and the instants they are stored at. In a zone whose offset never
changes, a check-out no later in the day than the check-in leaves the object free between
two guests of one day, and no pair of times of day closes the gap of a whole night. So two
stays of one object meet as instants exactly when they share a night. -/

namespace CoreOps.Booking

open Checked

/-- The zone is `offset` ahead of UTC, on every day. -/
def FixedOffset (tz : TimezoneDb) (tzName : String) (offset : ℤ) : Prop :=
  ∀ localDay localClock, tz.toUtc tzName localDay localClock = localDay * 86400000000 + localClock - offset

/-- A time of day, as Python's `time` holds it. -/
def IsClock (clock : ℤ) : Prop := 0 ≤ clock ∧ clock < 86400000000

instance (clock : ℤ) : Decidable (IsClock clock) := inferInstanceAs (Decidable (_ ∧ _))

/-- The nights of a stay, each named by the date it begins on. -/
def BookingStayRequest.dates (stay : BookingStayRequest) : Set ℤ := Set.Ico stay.checkInDate stay.checkOutDate

/-- Two stays of at least a night share one exactly when each begins before the other ends. -/
theorem dates_inter_nonempty {a b : BookingStayRequest} (ha : a.checkInDate < a.checkOutDate)
    (hb : b.checkInDate < b.checkOutDate) :
    (a.dates ∩ b.dates).Nonempty ↔ a.checkInDate < b.checkOutDate ∧ b.checkInDate < a.checkOutDate := by
  rw [BookingStayRequest.dates, BookingStayRequest.dates, Set.Ico_inter_Ico, Set.nonempty_Ico]
  simp only [max_lt_iff, lt_min_iff]
  constructor
  · rintro ⟨⟨-, hba⟩, hab, -⟩
    exact ⟨hab, hba⟩
  · rintro ⟨hab, hba⟩
    exact ⟨⟨ha, hba⟩, hab, hb⟩

/-- The repository's overlap query is the same test as the service's. -/
theorem mem_findOverlappingItems {s : State} {objectId : ℕ} {checkInAt checkOutAt now : ℤ} {excluded : Option ℕ}
    {r : (ℕ × BookingOrder) × BookingItem × ℕ} :
    r ∈ findOverlappingItems s objectId checkInAt checkOutAt now excluded ↔
      r ∈ itemRows s ∧ r.2.1.bookableObjectId = objectId ∧ r.2.1.status = .active ∧
        r.1.2.status ∈ blockingOrderStatuses ∧
        intervalsOverlap r.2.1.checkInAt r.2.1.checkOutAt checkInAt checkOutAt = true ∧
        some r.1.1 ≠ excluded ∧ isOrderBlocking r.1.2 now = true := by
  simp only [findOverlappingItems, List.mem_filter, decide_eq_true_eq, intervalsOverlap, Bool.and_eq_true, and_assoc]

section FixedOffset

variable {tz : TimezoneDb} {territory : BookingTerritory} {obj : BookingBookableObject} {objectId : ℕ} {offset : ℤ}

/-- What is built for a stay: its dates, and the instants of its times of day on them. -/
theorem buildItemInterval_eq_ok {checkInDate checkOutDate : ℤ} {i : ResolvedStayInterval}
    (h : buildItemInterval tz territory objectId obj checkInDate checkOutDate = .ok i) :
    checkInDate < checkOutDate ∧ i.checkInAt < i.checkOutAt ∧ i = {
      bookableObjectId := objectId
      checkInDate := checkInDate
      checkOutDate := checkOutDate
      checkInAt := tz.toUtc territory.timezone checkInDate (resolveEffectiveCheckTimes territory obj).1
      checkOutAt := tz.toUtc territory.timezone checkOutDate (resolveEffectiveCheckTimes territory obj).2
      nights := checkOutDate - checkInDate } := by
  simp only [buildItemInterval, localStayToUtcInstant, bind_eq_ok, raiseIf_eq_ok, not_le, pure_eq_ok] at h
  obtain ⟨-, hdates, _, ⟨-, -, rfl⟩, _, ⟨-, -, rfl⟩, -, hlt, rfl⟩ := h
  refine ⟨hdates, hlt, ?_⟩
  have hnights : ¬ checkOutDate - checkInDate < 1 := by omega
  rw [if_neg hnights]

/-- A stay of at least a night is never refused in such a zone: a night is longer than the
hours between a check-out and the check-in it follows. -/
theorem exists_buildItemInterval (hz : FixedOffset tz territory.timezone offset)
    (hvalid : tz.isValidTimezone territory.timezone = true)
    (hin : IsClock (resolveEffectiveCheckTimes territory obj).1)
    (hout : IsClock (resolveEffectiveCheckTimes territory obj).2) {checkInDate checkOutDate : ℤ}
    (hdates : checkInDate < checkOutDate) :
    ∃ i, buildItemInterval tz territory objectId obj checkInDate checkOutDate = .ok i := by
  obtain ⟨-, hin⟩ := hin
  obtain ⟨hout, -⟩ := hout
  have hlt : tz.toUtc territory.timezone checkInDate (resolveEffectiveCheckTimes territory obj).1 <
      tz.toUtc territory.timezone checkOutDate (resolveEffectiveCheckTimes territory obj).2 := by
    rw [hz, hz]
    omega
  simp only [buildItemInterval, localStayToUtcInstant, bind_eq_ok, raiseIf_eq_ok, not_le, pure_eq_ok, not_not]
  exact ⟨_, ⟨⟩, hdates, _, ⟨⟨⟩, hvalid, rfl⟩, _, ⟨⟨⟩, hvalid, rfl⟩, ⟨⟩, hlt, rfl⟩

/-- One stay ends after the other begins, as instants, exactly when it does by date. -/
theorem toUtc_lt_toUtc (hz : FixedOffset tz territory.timezone offset) {checkIn checkOut : ℤ}
    (hin : IsClock checkIn) (hout : IsClock checkOut) (hle : checkOut ≤ checkIn) (d d' : ℤ) :
    tz.toUtc territory.timezone d checkIn < tz.toUtc territory.timezone d' checkOut ↔ d < d' := by
  obtain ⟨-, hin⟩ := hin
  obtain ⟨hout, -⟩ := hout
  rw [hz, hz]
  constructor
  · intro h
    by_contra hge
    have hle' : d' * 86400000000 ≤ d * 86400000000 := by omega
    omega
  · intro h
    omega

/-- Back-to-back stays never conflict and overlapping ones always do: of two stays in one
object, in a zone of a fixed offset and with the check-out no later in the day than the
check-in, the built intervals overlap exactly when the stays share a night. Each interval
ends after it begins, and counts the nights between its dates. -/
theorem intervals_overlap_iff_dates (hz : FixedOffset tz territory.timezone offset)
    (hin : IsClock (resolveEffectiveCheckTimes territory obj).1)
    (hout : IsClock (resolveEffectiveCheckTimes territory obj).2)
    (hle : (resolveEffectiveCheckTimes territory obj).2 ≤ (resolveEffectiveCheckTimes territory obj).1)
    {a b : BookingStayRequest} (ha : a.checkInDate < a.checkOutDate) (hb : b.checkInDate < b.checkOutDate)
    {i j : ResolvedStayInterval}
    (hi : buildItemInterval tz territory objectId obj a.checkInDate a.checkOutDate = .ok i)
    (hj : buildItemInterval tz territory objectId obj b.checkInDate b.checkOutDate = .ok j) :
    (intervalsOverlap i.checkInAt i.checkOutAt j.checkInAt j.checkOutAt = true ↔ (a.dates ∩ b.dates).Nonempty) ∧
      (i.checkInAt < i.checkOutAt ∧ i.nights = a.checkOutDate - a.checkInDate) ∧
      j.checkInAt < j.checkOutAt ∧ j.nights = b.checkOutDate - b.checkInDate := by
  obtain ⟨-, hilt, hi⟩ := buildItemInterval_eq_ok hi
  obtain ⟨-, hjlt, hj⟩ := buildItemInterval_eq_ok hj
  refine ⟨?_, ⟨hilt, congrArg ResolvedStayInterval.nights hi⟩, hjlt, congrArg ResolvedStayInterval.nights hj⟩
  rw [dates_inter_nonempty ha hb, hi, hj]
  simp only [intervalsOverlap, Bool.and_eq_true, decide_eq_true_eq, gt_iff_lt]
  rw [toUtc_lt_toUtc hz hin hout hle, toUtc_lt_toUtc hz hin hout hle]

end FixedOffset

section Examples

def demoTerritory : BookingTerritory := ⟨1, "UTC", "KZT", 50400000000, 43200000000, 30, 1, .active⟩

def demoCabin : BookingBookableObject := ⟨1, 1, 1, "cabin-1", 1000000, none, none, .active⟩

/-- A guest leaves cabin 1 at noon of the day another arrives, at 14:00. -/
theorem intervals_overlap_iff_dates_turnover :
    ∃ i j, buildItemInterval utcDb demoTerritory 1 demoCabin 10 12 = .ok i ∧
      buildItemInterval utcDb demoTerritory 1 demoCabin 12 15 = .ok j ∧
      intervalsOverlap i.checkInAt i.checkOutAt j.checkInAt j.checkOutAt = false ∧ j.nights = 3 := by
  have hz : FixedOffset utcDb demoTerritory.timezone 0 := fun _ _ => (Int.sub_zero _).symm
  obtain ⟨i, hi⟩ : ∃ i, buildItemInterval utcDb demoTerritory 1 demoCabin 10 12 = .ok i :=
    exists_buildItemInterval hz rfl (by decide) (by decide) (by decide)
  obtain ⟨j, hj⟩ : ∃ j, buildItemInterval utcDb demoTerritory 1 demoCabin 12 15 = .ok j :=
    exists_buildItemInterval hz rfl (by decide) (by decide) (by decide)
  obtain ⟨hiff, -, -, hnights⟩ := intervals_overlap_iff_dates (a := ⟨1, 10, 12⟩) (b := ⟨1, 12, 15⟩) hz
    (by decide) (by decide) (by decide) (by decide) (by decide) hi hj
  refine ⟨i, j, hi, hj, ?_, hnights⟩
  rw [Bool.eq_false_iff, Ne, hiff, dates_inter_nonempty (by decide) (by decide)]
  decide

end Examples

end CoreOps.Booking
