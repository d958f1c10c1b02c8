import Promotions.Proofs.Applying
import Promotions.Proofs.Granting

/-! Which promotions validation accepts. The loop over the conditions keeps the names it has seen;
that no name is met twice is distinctness of the names, and a reward is warned about where looking
up its condition finds none. Warnings decide nothing, and what is warned about does nothing. -/
namespace Promotions

theorem Reward.grantedTo {context : Option Context} {r : Reward} {award : Award}
    (granted : r.grant context = .ok (.granted award)) : award.condition = r.condition := by
  cases grantedIff.mp granted
  rfl

namespace Promotion

/-- Both dates belong to the window. A date that does not compare with the time is in no window. -/
structure InWindow (p : Promotion) (now : Timestamp) : Prop where
  start : ∀ date ∈ p.start, ∃ order, Timestamp.order? now date = some order ∧ order ≠ .lt
  finish : ∀ date ∈ p.finish, ∃ order, Timestamp.order? now date = some order ∧ order ≠ .gt

structure Ready (p : Promotion) (clock : Clock) (context : Option Context) : Prop where
  active : p.active = true
  window : p.InWindow (clock (p.start.or p.finish))
  context : ∃ given cart config, context = some given ∧ given.cart = some cart ∧
    given.config = some config ∧ cart.items ≠ []

structure WellFormed (p : Promotion) : Prop where
  conditions : ∀ c ∈ p.conditions, c.isValid = true
  rewards : ∀ r ∈ p.rewards, r.isValid = true
  distinct : p.conditions.Pairwise fun c d => Text.lower c.name ≠ Text.lower d.name

def retargeted (p : Promotion) (target : Reward → String) : Promotion :=
  { p with rewards := p.rewards.map fun r => { r with condition := target r } }

variable {p : Promotion} {clock : Clock} {context : Option Context}

theorem dateKept {now : Timestamp} {date : Option Timestamp} {bad : Ordering} :
    mixes now date = false ∧ (date.filter fun d => Timestamp.order? now d == some bad) = none ↔
      ∀ d ∈ date, ∃ order, Timestamp.order? now d = some order ∧ order ≠ bad := by
  cases date with
  | none => simp [mixes]
  | some d => cases order : Timestamp.order? now d <;> simp [mixes, order]

theorem boundsIff {now : Timestamp} : p.InWindow now ↔
    (∀ date ∈ p.start, ∃ order, Timestamp.order? now date = some order ∧ order ≠ .lt) ∧
      ∀ date ∈ p.finish, ∃ order, Timestamp.order? now date = some order ∧ order ≠ .gt :=
  ⟨fun window => ⟨window.start, window.finish⟩, fun both => ⟨both.1, both.2⟩⟩

theorem windowObjectionNone {now : Timestamp} :
    p.windowObjection now = none ↔ p.InWindow now := by
  have parts : p.InWindow now ↔
      (mixes now p.start = false ∧
        (p.start.filter fun d => Timestamp.order? now d == some .lt) = none) ∧
      (mixes now p.finish = false ∧
        (p.finish.filter fun d => Timestamp.order? now d == some .gt) = none) := by
    rw [dateKept, dateKept]
    exact boundsIff
  rw [parts, windowObjection]
  cases mixes now p.start with
  | true => simp
  | false =>
    cases mixes now p.finish with
    | true => simp
    | false =>
      cases early : p.start.filter fun d => Timestamp.order? now d == some .lt with
      | some date => simp
      | none => simp

theorem readyIff : p.firstObjection clock context = none ↔ p.Ready clock context := by
  rw [firstObjectionNone, windowObjectionNone, contextObjectionNone]
  constructor
  · intro facts
    obtain ⟨active, window, given⟩ := facts
    exact ⟨active, window, given⟩
  · intro ready
    exact ⟨ready.active, ready.window, ready.context⟩

theorem distinctIff {conditions : List Condition} : (lowerNames conditions).Nodup ↔
    conditions.Pairwise fun c d => Text.lower c.name ≠ Text.lower d.name := List.pairwise_map

theorem acceptsIff : (p.validate clock context).isValid = true ↔
    p.Ready clock context ∧ p.WellFormed := by
  rw [validIff, readyIff, distinctIff]
  constructor
  · intro facts
    obtain ⟨ready, ⟨conditions, distinct⟩, rewards⟩ := facts
    exact ⟨ready, conditions, rewards, distinct⟩
  · intro facts
    obtain ⟨ready, formed⟩ := facts
    exact ⟨ready, ⟨formed.conditions, formed.distinct⟩, formed.rewards⟩

/- The names that were seen, and the first condition of a name, are two ways to look a name up. -/
theorem seenIff {name : String} :
    Text.lower name ∈ lowerNames p.conditions ↔ (p.condition? name).isSome = true := by
  simp [lowerNames, condition?, List.find?_isSome, Text.sameName]

theorem strayListed : strayRewards (lowerNames p.conditions) p.rewards =
    (p.rewards.filter fun r => (p.condition? r.condition).isNone).map fun r =>
      ⟨r.type, r.condition⟩ := by
  have stray (r : Reward) : (!(lowerNames p.conditions).contains (Text.lower r.condition)) =
      (p.condition? r.condition).isNone := by
    rw [List.contains_eq_mem, ← Option.not_isSome]
    simp only [seenIff, Bool.decide_eq_true]
  simp only [strayRewards, stray]

theorem validateNotReady (early : ¬ p.Ready clock context) :
    ∃ objection, p.validate clock context = ⟨p.name, false, [objection], []⟩ := by
  cases first : p.firstObjection clock context with
  | none => exact (early (readyIff.mp first)).elim
  | some objection => exact ⟨objection, by rw [validate, first]⟩

theorem validateReady (ready : p.Ready clock context) :
    p.validate clock context = ⟨p.name, (conditionObjections [] p.conditions ++
      rewardObjections p.rewards).isEmpty, conditionObjections [] p.conditions ++
      rewardObjections p.rewards, strayRewards (lowerNames p.conditions) p.rewards⟩ := by
  rw [validate, readyIff.mpr ready]

theorem validIffNoErrors : (p.validate clock context).isValid = true ↔
    (p.validate clock context).errors = [] := by
  by_cases ready : p.Ready clock context
  · rw [validateReady ready]
    exact List.isEmpty_iff
  · obtain ⟨objection, same⟩ := validateNotReady ready
    rw [same]
    exact iff_of_false Bool.false_ne_true (List.cons_ne_nil _ _)

theorem retargetedAlike {target : Reward → String}
    (named : ∀ r ∈ p.rewards, target r = "" ↔ r.condition = "") :
    ((p.retargeted target).validate clock context).isValid =
      (p.validate clock context).isValid := by
  have each : ∀ r ∈ p.rewards,
      Reward.isValid { r with condition := target r } = r.isValid := by
    intro r mem
    simp only [Reward.isValid, ne_eq, named r mem]
  have formed : (p.retargeted target).WellFormed ↔ p.WellFormed := by
    constructor
    · intro formed
      refine ⟨formed.conditions, fun r mem => ?_, formed.distinct⟩
      rw [← each r mem]
      exact formed.rewards _ (List.mem_map_of_mem mem)
    · intro formed
      refine ⟨formed.conditions, fun s among => ?_, formed.distinct⟩
      obtain ⟨r, mem, rfl⟩ := List.mem_map.mp among
      rw [each r mem]
      exact formed.rewards r mem
  have ready : (p.retargeted target).Ready clock context ↔ p.Ready clock context :=
    ⟨fun ready => ⟨ready.active, ⟨ready.window.start, ready.window.finish⟩, ready.context⟩,
      fun ready => ⟨ready.active, ⟨ready.window.start, ready.window.finish⟩, ready.context⟩⟩
  rw [Bool.eq_iff_iff, acceptsIff, acceptsIff, formed, ready]

/- Only what names a condition is due. -/
theorem dueKnown {held : List Condition} {r : Reward} (among : ∀ c ∈ held, c ∈ p.conditions)
    (due : r ∈ p.due held) : (p.condition? r.condition).isSome = true := by
  obtain ⟨-, c, mem, targets⟩ := memDue.mp due
  refine List.find?_isSome.mpr ⟨c, among c mem, ?_⟩
  rw [Text.sameNameComm]
  exact targets

theorem resultKnown (valid : (p.validate clock context).isValid = true) {result : Result}
    (returned : p.apply clock context = .ok result) :
    (∀ award ∈ result.awards, (p.condition? award.condition).isSome = true) ∧
    ∀ problem ∈ result.errors, ∃ r ∈ p.rewards, ∃ refusal,
      problem = .refused r.type r.condition refusal ∧
        r.grant context = .ok (.refused refusal) ∧ (p.condition? r.condition).isSome = true := by
  cases appliedIff.mp returned with
  | rejected invalid =>
    rw [valid] at invalid
    cases invalid
  | idle _ conditions => exact ⟨nofun, nofun⟩
  | @settled given held found total _ conditions nonempty rewards sum =>
    obtain ⟨-, rfl⟩ := triggeredIff.mp conditions
    have among : ∀ c ∈ p.conditions.filter (holding given), c ∈ p.conditions :=
      fun c mem => (List.mem_filter.mp mem).1
    constructor
    · intro award mem
      obtain ⟨r, due, granted⟩ := awardOrigin rewards mem
      rw [Reward.grantedTo granted]
      exact dueKnown among due
    · intro problem mem
      obtain ⟨r, due, refusal, refused, same⟩ := problemOrigin rewards mem
      exact ⟨r, (memDue.mp due).1, refusal, same, refused, dueKnown among due⟩

/-- A promotion is valid exactly if nothing is objected to, that is, if it is ready and well-formed.
If it is not ready, that is the only objection; if it is, every reward without a condition is warned
about, which decides nothing, and none of them is granted or refused. -/
theorem validatesExactly (p : Promotion) (clock : Clock) (context : Option Context) :
    ((p.validate clock context).isValid = true ↔ (p.validate clock context).errors = []) ∧
    ((p.validate clock context).isValid = true ↔ p.Ready clock context ∧ p.WellFormed) ∧
    (¬ p.Ready clock context →
      (∃ objection, (p.validate clock context).errors = [objection]) ∧
        (p.validate clock context).warnings = []) ∧
    (p.Ready clock context → (p.validate clock context).warnings =
      (p.rewards.filter fun r => (p.condition? r.condition).isNone).map fun r =>
        ⟨r.type, r.condition⟩) ∧
    (∀ target : Reward → String, (∀ r ∈ p.rewards, target r = "" ↔ r.condition = "") →
      ((p.retargeted target).validate clock context).isValid =
        (p.validate clock context).isValid) ∧
    ((p.validate clock context).isValid = true → ∀ result, p.apply clock context = .ok result →
      ∀ r ∈ p.rewards, p.condition? r.condition = none →
        (∀ award ∈ result.awards, award.condition ≠ r.condition) ∧
        ∀ problem ∈ result.errors, ∃ type target refusal,
          problem = .refused type target refusal ∧ target ≠ r.condition) := by
  refine ⟨validIffNoErrors, acceptsIff, fun early => ?_, fun ready => ?_,
    fun target => retargetedAlike, fun valid result returned r mem stray => ?_⟩
  · obtain ⟨objection, same⟩ := validateNotReady early
    rw [same]
    exact ⟨⟨objection, rfl⟩, rfl⟩
  · rw [validateReady ready]
    exact strayListed
  · obtain ⟨awards, problems⟩ := resultKnown valid returned
    have apart {name : String} (known : (p.condition? name).isSome = true) :
        name ≠ r.condition := by
      intro same
      rw [same, stray] at known
      cases known
    refine ⟨fun award among => apart (awards award among), fun problem among => ?_⟩
    obtain ⟨q, -, refusal, same, -, known⟩ := problems problem among
    exact ⟨q.type, q.condition, refusal, same, apart known⟩

/- The window is a single instant, and the second reward is for a condition that is not there. -/
def openingInstant : Timestamp := ⟨2024, 6, 1, 12, 0, 0, 0, some (.fixed 7200000000)⟩

def openingSale : Promotion where
  name := "Opening"
  conditions := [⟨"A", "any", [], none, true⟩]
  rewards := [⟨"a", "freeShipping", [], none, true⟩, ⟨"B", "points", [], none, true⟩]
  active := true
  start := some openingInstant
  finish := some { openingInstant with hour := 10, zone := some (.fixed 0) }

theorem openingSaleWarns :
    openingSale.Ready (.fixed openingInstant) (some .sample) ∧
    ¬ openingSale.Ready (.fixed openingInstant) none ∧
    (∃ objection, (openingSale.validate (.fixed openingInstant) none).errors = [objection]) ∧
    (openingSale.validate (.fixed openingInstant) (some .sample)).isValid = true ∧
    (openingSale.validate (.fixed openingInstant) (some .sample)).warnings = [⟨"points", "B"⟩] ∧
    ((openingSale.retargeted fun _ => "C").validate (.fixed openingInstant)
      (some .sample)).isValid = true ∧
    ∃ result, openingSale.apply (.fixed openingInstant) (some .sample) = .ok result ∧
      result.awards.length = 1 ∧ ∀ award ∈ result.awards, award.condition ≠ "B" := by
  obtain ⟨-, accepts, -, warns, retargets, silent⟩ :=
    validatesExactly openingSale (.fixed openingInstant) (some .sample)
  obtain ⟨-, -, early, -, -, -⟩ := validatesExactly openingSale (.fixed openingInstant) none
  have valid : (openingSale.validate (.fixed openingInstant) (some .sample)).isValid = true := rfl
  have ready := (accepts.mp valid).1
  have unready : ¬ openingSale.Ready (.fixed openingInstant) none := by
    intro ready
    obtain ⟨given, _, _, same, _⟩ := ready.context
    cases same
  have named : ∀ r ∈ openingSale.rewards, "C" = "" ↔ r.condition = "" := by decide
  have kept := retargets (fun _ => "C") named
  obtain ⟨result, returned, count⟩ : ∃ result,
      openingSale.apply (.fixed openingInstant) (some .sample) = .ok result ∧
        result.awards.length = 1 := ⟨_, rfl, rfl⟩
  have second : (⟨"B", "points", [], none, true⟩ : Reward) ∈ openingSale.rewards :=
    List.mem_cons_of_mem _ List.mem_cons_self
  obtain ⟨awards, -⟩ := silent valid result returned _ second rfl
  refine ⟨ready, unready, (early unready).1, valid, ?_, kept.trans valid, result, returned, count,
    awards⟩
  rw [warns ready]
  rfl

end Promotion

end Promotions
