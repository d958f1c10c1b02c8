import Promotions.Proofs.Vetting
import Promotions.Proofs.Zones

/-! The window of a promotion holds the moments from its start to its finish, both included. A date
that does not compare with the time is objected to first, though the other date may decide alone; a
time in the window leaves the validation as it is without dates. Dates with an offset from universal
time are compared as moments, whatever the time is. A date that stands in the very zone of the time
is compared by the reading of its clock, and that differs where the zone changes its offset. -/
namespace Promotions

/-- The objections that the dates of a promotion give rise to. -/
def Objection.ofDates : Objection → Bool
  | mixedDates | notStarted _ | expired _ => true
  | _ => false

namespace Promotion
open Timestamp

/-- Some date, be it the start or the finish, does not compare with the time. -/
def Mixes (p : Promotion) (now : Timestamp) : Prop :=
  (∃ date ∈ p.start, date.isAware ≠ now.isAware) ∨ ∃ date ∈ p.finish, date.isAware ≠ now.isAware

def Early (p : Promotion) (now : Timestamp) : Prop := ∃ date ∈ p.start, now.Before date

def Late (p : Promotion) (now : Timestamp) : Prop := ∃ date ∈ p.finish, date.Before now

/-- Each date is absent, without a zone, or has nothing but an offset from universal time. -/
def ByOffset (p : Promotion) : Prop :=
  (∀ date ∈ p.start, date.ByOffset) ∧ ∀ date ∈ p.finish, date.ByOffset

/-- No date shares a zone with the time that has changed its offset in between. -/
def Steady (p : Promotion) (now : Timestamp) : Prop :=
  (∀ date ∈ p.start, now.Steady date) ∧ ∀ date ∈ p.finish, now.Steady date

def undated (p : Promotion) : Promotion := { p with start := none, finish := none }

/-- Nothing but one objection is found. -/
def Reports (p : Promotion) (clock : Clock) (context : Option Context) (o : Objection) : Prop :=
  p.validate clock context = ⟨p.name, false, [o], []⟩

/-- The dates change nothing. -/
def Passes (p : Promotion) (clock : Clock) (context : Option Context) : Prop :=
  p.validate clock context = p.undated.validate clock context

/-- The window is a closed interval of moments. A window of one moment holds it, one that ends
before it starts holds none, and the offsets in which its dates are written do not matter. -/
structure OfMoments (p : Promotion) (clock : Clock) (context : Option Context) (now : Timestamp) :
    Prop where
  early : ∀ date, p.Reports clock context (.notStarted date) ↔
    ¬ p.Mixes now ∧ date ∈ p.start ∧ now.point < date.point
  late : ∀ date, p.Reports clock context (.expired date) ↔
    ¬ p.Mixes now ∧ (∀ first ∈ p.start, first.point ≤ now.point) ∧
      date ∈ p.finish ∧ date.point < now.point
  passes : p.Passes clock context ↔ ¬ p.Mixes now ∧ (∀ first ∈ p.start, first.point ≤ now.point) ∧
    ∀ last ∈ p.finish, now.point ≤ last.point
  single : ∀ first ∈ p.start, ∀ last ∈ p.finish, SameMoment now first → SameMoment now last →
    p.Passes clock context
  inverted : ∀ first ∈ p.start, ∀ last ∈ p.finish, last.point < first.point →
    ¬ p.Passes clock context
  moved : ∀ (p' : Promotion) (clock' : Clock) (context' : Option Context), p'.active = true →
    Option.Rel SameMoment p.start p'.start → Option.Rel SameMoment p.finish p'.finish →
    SameMoment now (clock' (p'.start.or p'.finish)) →
    p'.Steady (clock' (p'.start.or p'.finish)) →
    (p.Passes clock context ↔ p'.Passes clock' context')

variable {p : Promotion} {clock : Clock} {context : Option Context} {now : Timestamp}

theorem mixesIff {date : Option Timestamp} :
    mixes now date = true ↔ ∃ d ∈ date, d.isAware ≠ now.isAware := by
  have incomparable (d : Timestamp) :
      (order? now d).isNone = true ↔ d.isAware ≠ now.isAware := by
    rw [← Option.not_isSome, orderIsSome, Bool.not_eq_true', beq_eq_false_iff_ne, ne_comm]
  cases date <;> simp [mixes, incomparable]

theorem mixedFirst : (mixes now p.start || mixes now p.finish) = true ↔ p.Mixes now := by
  rw [Bool.or_eq_true, mixesIff, mixesIff, Mixes]

theorem comparable (unmixed : ¬ p.Mixes now) {date : Timestamp}
    (present : date ∈ p.start ∨ date ∈ p.finish) : now.isAware = date.isAware := by
  by_contra apart
  rcases present with starts | finishes
  · exact unmixed (.inl ⟨date, starts, Ne.symm apart⟩)
  · exact unmixed (.inr ⟨date, finishes, Ne.symm apart⟩)

theorem windowMixed : p.windowObjection now = some .mixedDates ↔ p.Mixes now := by
  rw [← mixedFirst, windowObjection]
  split
  · rename_i mixed
    exact iff_of_true rfl mixed
  · rename_i unmixed
    refine iff_of_false ?_ unmixed
    split <;> simp

theorem windowUnmixed (unmixed : ¬ p.Mixes now) : p.windowObjection now =
    ((p.start.filter fun date => order? now date == some .lt).map .notStarted).or
      ((p.finish.filter fun date => order? now date == some .gt).map .expired) := by
  rw [windowObjection, if_neg (mixedFirst.not.mpr unmixed)]
  cases p.start.filter fun date => order? now date == some .lt <;> rfl

theorem earlyIff (unmixed : ¬ p.Mixes now) {date : Timestamp} :
    (p.start.filter fun date => order? now date == some .lt) = some date ↔
      date ∈ p.start ∧ now.Before date := by
  rw [Option.filter_eq_some_iff, beq_iff_eq, orderBelow]
  exact and_congr_right fun present => and_iff_right (comparable unmixed (.inl present))

theorem lateIff (unmixed : ¬ p.Mixes now) {date : Timestamp} :
    (p.finish.filter fun date => order? now date == some .gt) = some date ↔
      date ∈ p.finish ∧ date.Before now := by
  rw [Option.filter_eq_some_iff, beq_iff_eq, orderAbove]
  exact and_congr_right fun present => and_iff_right (comparable unmixed (.inr present))

theorem notEarlyIff (unmixed : ¬ p.Mixes now) :
    (p.start.filter fun date => order? now date == some .lt) = none ↔ ¬ p.Early now := by
  simp only [Option.eq_none_iff_forall_ne_some, ne_eq, earlyIff unmixed, Early, not_exists]

theorem notLateIff (unmixed : ¬ p.Mixes now) :
    (p.finish.filter fun date => order? now date == some .gt) = none ↔ ¬ p.Late now := by
  simp only [Option.eq_none_iff_forall_ne_some, ne_eq, lateIff unmixed, Late, not_exists]

theorem windowEarly {date : Timestamp} : p.windowObjection now = some (.notStarted date) ↔
    ¬ p.Mixes now ∧ date ∈ p.start ∧ now.Before date := by
  by_cases mixed : p.Mixes now
  · simp [windowMixed.mpr mixed, mixed]
  · simp [windowUnmixed mixed, Option.or_eq_some_iff, mixed, earlyIff mixed]

theorem windowLate {date : Timestamp} : p.windowObjection now = some (.expired date) ↔
    ¬ p.Mixes now ∧ ¬ p.Early now ∧ date ∈ p.finish ∧ date.Before now := by
  by_cases mixed : p.Mixes now
  · simp [windowMixed.mpr mixed, mixed]
  · simp [windowUnmixed mixed, Option.or_eq_some_iff, mixed, lateIff mixed, notEarlyIff mixed]

theorem windowNone :
    p.windowObjection now = none ↔ ¬ p.Mixes now ∧ ¬ p.Early now ∧ ¬ p.Late now := by
  by_cases mixed : p.Mixes now
  · simp [windowMixed.mpr mixed, mixed]
  · simp only [windowUnmixed mixed, Option.or_eq_none_iff, Option.map_eq_none_iff,
      notEarlyIff mixed, notLateIff mixed, mixed, not_false_eq_true, true_and]

theorem windowOfDates {o : Objection} (missed : p.windowObjection now = some o) :
    o.ofDates = true := by
  by_cases mixed : p.Mixes now
  · rw [windowMixed.mpr mixed] at missed
    cases missed
    rfl
  · rw [windowUnmixed mixed, Option.or_eq_some_iff, Option.map_eq_some_iff,
      Option.map_eq_some_iff] at missed
    rcases missed with ⟨date, -, rfl⟩ | ⟨-, date, -, rfl⟩ <;> rfl

/- What comes after the dates finds other things. -/
theorem laterOutside :
    (∀ o ∈ contextObjection context, o.ofDates = false) ∧
    (∀ seen conditions, ∀ o ∈ conditionObjections seen conditions, o.ofDates = false) ∧
    ∀ rewards, ∀ o ∈ rewardObjections rewards, o.ofDates = false := by
  refine ⟨fun o found => ?_, fun seen conditions => ?_, fun rewards o found => ?_⟩
  · unfold contextObjection at found
    split at found
    · cases found
      rfl
    · cases found
      rfl
    · split at found <;> cases found
      rfl
  · induction conditions generalizing seen with
    | nil => nofun
    | cons c rest ih =>
      intro o found
      simp only [conditionObjections, List.mem_append, List.mem_ite_nil_left,
        List.mem_ite_nil_right, List.mem_singleton] at found
      rcases found with (⟨-, rfl⟩ | ⟨-, rfl⟩) | later
      · rfl
      · rfl
      · exact ih _ o later
  · obtain ⟨r, -, rfl⟩ := List.mem_map.mp found
    rfl

theorem firstActive (active : p.active = true) : p.firstObjection clock context =
    (p.windowObjection (clock (p.start.or p.finish))).or (contextObjection context) := by
  simp [firstObjection, active]

theorem errorsOutside (p : Promotion) (clock : Clock) (context : Option Context)
    (active : p.active = true)
    (inside : p.windowObjection (clock (p.start.or p.finish)) = none) :
    ∀ o ∈ (p.validate clock context).errors, o.ofDates = false := by
  obtain ⟨ofContext, ofConditions, ofRewards⟩ := @laterOutside context
  intro o found
  rw [validate, firstActive active, inside, Option.none_or] at found
  cases early : contextObjection context with
  | some other =>
    rw [early, List.mem_singleton] at found
    rw [found]
    exact ofContext other early
  | none =>
    rw [early, List.mem_append] at found
    exact found.elim (ofConditions _ _ o) (ofRewards _ o)

theorem reportsMissed (active : p.active = true) {o : Objection}
    (missed : p.windowObjection (clock (p.start.or p.finish)) = some o) :
    p.Reports clock context o := by
  rw [Reports, validate, firstActive active, missed, Option.some_or]

theorem reportsIff (active : p.active = true) {o : Objection} (ofDates : o.ofDates = true) :
    p.Reports clock context o ↔ p.windowObjection (clock (p.start.or p.finish)) = some o := by
  refine ⟨fun reported => ?_, reportsMissed active⟩
  cases window : p.windowObjection (clock (p.start.or p.finish)) with
  | none =>
    have outside := errorsOutside p clock context active window o
    rw [reported, ofDates] at outside
    cases outside List.mem_cons_self
  | some other =>
    have alone := (reportsMissed active window).symm.trans reported
    injection alone with _ _ same
    rw [List.cons.inj same |>.1]

theorem passesIff (active : p.active = true) : p.Passes clock context ↔
    p.windowObjection (clock (p.start.or p.finish)) = none := by
  have undated : p.undated.windowObjection (clock none) = none := rfl
  constructor
  · intro passed
    cases window : p.windowObjection (clock (p.start.or p.finish)) with
    | none => rfl
    | some o =>
      have outside := errorsOutside p.undated clock context active undated o
      rw [← passed, reportsMissed active window, windowOfDates window] at outside
      cases outside List.mem_cons_self
  · intro inside
    have first : p.firstObjection clock context = p.undated.firstObjection clock context := by
      rw [firstActive active, inside]
      exact (firstActive (p := p.undated) active).symm
    rw [Passes, validate, validate, first]
    rfl

theorem ByOffset.steady (byOffset : p.ByOffset) (now : Timestamp) : p.Steady now :=
  ⟨fun date present => (byOffset.1 date present).steady now,
    fun date present => (byOffset.2 date present).steady now⟩

theorem notMixesIff : ¬ p.Mixes now ↔ (∀ date ∈ p.start, date.isAware = now.isAware) ∧
    ∀ date ∈ p.finish, date.isAware = now.isAware := by
  simp only [Mixes, not_or, not_exists, not_and, ne_eq, Decidable.not_not]

theorem startedIff (steady : p.Steady now) :
    ¬ p.Early now ↔ ∀ date ∈ p.start, date.point ≤ now.point := by
  simp only [Early, not_exists, not_and]
  refine forall₂_congr fun date present => ?_
  rw [steadyBefore (steady.1 date present), Int.not_lt]

theorem goingIff (steady : p.Steady now) :
    ¬ p.Late now ↔ ∀ date ∈ p.finish, now.point ≤ date.point := by
  simp only [Late, not_exists, not_and]
  refine forall₂_congr fun date present => ?_
  rw [steadyBefore (steady.2 date present).symm, Int.not_lt]

theorem momentsIff (active : p.active = true)
    (steady : p.Steady (clock (p.start.or p.finish))) : p.Passes clock context ↔
      ¬ p.Mixes (clock (p.start.or p.finish)) ∧
      (∀ date ∈ p.start, date.point ≤ (clock (p.start.or p.finish)).point) ∧
      ∀ date ∈ p.finish, (clock (p.start.or p.finish)).point ≤ date.point := by
  rw [passesIff active, windowNone, startedIff steady, goingIff steady]

theorem boundAlike {date date' : Option Timestamp} (same : Option.Rel SameMoment date date')
    {P : Bool → Int → Prop} :
    (∀ d ∈ date, P d.isAware d.point) ↔ ∀ d ∈ date', P d.isAware d.point := by
  cases same with
  | none => simp
  | some same => simp [same.1, same.2]

theorem ofMoments (active : p.active = true) (told : clock (p.start.or p.finish) = now)
    (steady : p.Steady now) : p.OfMoments clock context now := by
  subst told
  have passes : p.Passes clock context ↔ _ := momentsIff active steady
  refine ⟨fun date => ?_, fun date => ?_, passes,
    fun first starts last finishes atStart atEnd => ?_,
    fun first starts last finishes inverted passed => ?_,
    fun p' clock' context' active' starts finishes sameNow steady' => ?_⟩
  · rw [reportsIff active rfl, windowEarly]
    exact and_congr_right fun _ => and_congr_right fun present =>
      steadyBefore (steady.1 date present)
  · rw [reportsIff active rfl, windowLate, startedIff steady]
    exact and_congr_right fun _ => and_congr_right fun _ => and_congr_right fun present =>
      steadyBefore (steady.2 date present).symm
  · rw [passes, notMixesIff]
    have onlyFirst (date) (present : date ∈ p.start) : date = first :=
      Option.mem_unique present starts
    have onlyLast (date) (present : date ∈ p.finish) : date = last :=
      Option.mem_unique present finishes
    refine ⟨⟨fun date present => ?_, fun date present => ?_⟩, fun date present => ?_,
      fun date present => ?_⟩
    · rw [onlyFirst date present, atStart.1]
    · rw [onlyLast date present, atEnd.1]
    · rw [onlyFirst date present, atStart.2]
    · rw [onlyLast date present, atEnd.2]
  · obtain ⟨-, started, going⟩ := passes.mp passed
    have := started first starts
    have := going last finishes
    omega
  · rw [passes, momentsIff active' steady', notMixesIff, notMixesIff, sameNow.1, sameNow.2]
    refine and_congr (and_congr ?_ ?_) (and_congr ?_ ?_)
    · exact boundAlike starts (P := fun aware _ => aware = _)
    · exact boundAlike finishes (P := fun aware _ => aware = _)
    · exact boundAlike starts (P := fun _ point => point ≤ _)
    · exact boundAlike finishes (P := fun _ point => _ ≤ point)

/- The dates of the sale in an offset that moves them to the next day. -/
def movedSale : Promotion :=
  let moved := { openingInstant with day := 2, hour := 0, zone := some (.fixed 50400000000) }
  { openingSale with start := some moved, finish := some moved }

/- The start of this sale lies behind its finish. -/
def neverSale : Promotion :=
  { openingSale with start := some { openingInstant with day := 2 } }

def newYork (hours : Int) : Zone := .named "America/New_York" (hours * 3600000000)

/- In this night the clocks of New York go from two back to one. -/
def halfPastOne : Timestamp := ⟨2024, 11, 3, 1, 30, 0, 0, some (newYork (-4))⟩

def quarterPastOne : Timestamp := { halfPastOne with minute := 15, zone := some (newYork (-5)) }

def nightSale : Promotion := { openingSale with start := none, finish := some halfPastOne }

/- The same moment in universal time. -/
def halfPastFive : Timestamp := { halfPastOne with hour := 5, zone := some (.fixed 0) }

theorem bothByOffset {first last : Timestamp} (starts : p.start = some first)
    (ends : p.finish = some last) (byOffset : first.ByOffset) (byOffset' : last.ByOffset) :
    p.ByOffset := by
  constructor
  · rw [starts]
    rintro _ ⟨⟩
    exact byOffset
  · rw [ends]
    rintro _ ⟨⟩
    exact byOffset'

end Promotion
end Promotions
