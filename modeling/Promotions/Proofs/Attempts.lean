import Promotions.Proofs.Applying
import Mathlib.Data.List.Nodup

/-! The account of a run. Rewards and conditions are told apart by their place in the promotion, as
two lines may read the same. The run tries each reward of a condition that holds for that condition,
condition by condition; that no reward is tried twice is due to validation, which refuses two
conditions that one name could mean. -/
namespace Promotions.Promotion

def targetedBy (names : List String) (r : Reward) : Bool := names.any r.targets

structure Slot where
  condition : Nat
  place : Nat
  reward : Reward

def Slot.Before (a b : Slot) : Prop :=
  a.condition < b.condition ∨ a.condition = b.condition ∧ a.place < b.place

def slots (p : Promotion) (holds : Condition → Bool) : List Slot :=
  (p.conditions.zipIdx.filter fun c => holds c.1).flatMap fun c =>
    (p.rewards.zipIdx.filter fun r => r.1.targets c.1.name).map fun r => ⟨c.2, r.2, r.1⟩

structure Attempt extends Slot where
  verdict : Verdict

namespace Attempt

def award? (a : Attempt) : Option Award :=
  match a.verdict with
  | .granted award => some award
  | .refused _ => none

def problem? (a : Attempt) : Option Problem :=
  match a.verdict with
  | .granted _ => none
  | .refused refusal => some (.refused a.reward.type a.reward.condition refusal)

def entry (a : Attempt) : Reward × Verdict := (a.reward, a.verdict)

end Attempt

structure Account (p : Promotion) (context : Context) (result : Result)
    (attempts : List Attempt) : Prop where
  due : ∀ a ∈ attempts, p.rewards[a.place]? = some a.reward ∧
    ∃ c, p.conditions[a.condition]? = some c ∧ c.holdsIn (some context) = .ok true ∧
      a.reward.targets c.name = true
  judged : ∀ a ∈ attempts, a.reward.grant (some context) = .ok a.verdict
  ordered : attempts.Pairwise fun a b => a.toSlot.Before b.toSlot
  once : ∀ place r, p.rewards[place]? = some r →
    (attempts.map (·.place)).count place = if targetedBy result.triggered r then 1 else 0
  awards : result.awards = attempts.filterMap Attempt.award?
  errors : result.errors = attempts.filterMap Attempt.problem?
  summary : ∃ total, Result.total result.awards = .ok total ∧
    result.summary = some ⟨total, result.triggered.length, result.awards.length⟩
  counted : result.awards.length + result.errors.length =
    (p.rewards.filter (targetedBy result.triggered)).length

variable {p : Promotion} {holds : Condition → Bool}

theorem keptItems {α : Type} (items : List α) (keep : α → Bool) :
    (items.zipIdx.filter fun x => keep x.1).map Prod.fst = items.filter keep := by
  have pushed := List.filter_map (f := Prod.fst) (p := keep) (l := items.zipIdx)
  rw [List.zipIdx_map_fst] at pushed
  exact pushed.symm

theorem slotsRewards : (p.slots holds).map (·.reward) = p.due (p.conditions.filter holds) := by
  have rewards (c : Condition × Nat) :
      (p.rewards.zipIdx.filter fun r => r.1.targets c.1.name).map Prod.fst =
        p.rewardsFor c.1.name := keptItems p.rewards (·.targets c.1.name)
  rw [due, ← keptItems, List.flatMap_map]
  simp only [slots, List.map_flatMap, List.map_map, Function.comp_def, rewards]

theorem memSlots {s : Slot} : s ∈ p.slots holds ↔ p.rewards[s.place]? = some s.reward ∧
    ∃ c, p.conditions[s.condition]? = some c ∧ holds c = true ∧
      s.reward.targets c.name = true := by
  simp only [slots, List.mem_flatMap, List.mem_filter, List.mem_map, Prod.exists,
    List.mk_mem_zipIdx_iff_getElem?]
  constructor
  · intro facts
    obtain ⟨c, i, ⟨atCondition, held⟩, r, j, ⟨atReward, targets⟩, rfl⟩ := facts
    exact ⟨atReward, c, atCondition, held, targets⟩
  · intro facts
    obtain ⟨atReward, c, atCondition, held, targets⟩ := facts
    exact ⟨c, s.condition, ⟨atCondition, held⟩, s.reward, s.place, ⟨atReward, targets⟩, rfl⟩

theorem placesAscend {α : Type} (items : List α) (keep : α × Nat → Bool) :
    (items.zipIdx.filter keep).Pairwise fun a b => a.2 < b.2 := by
  apply List.Pairwise.filter
  rw [← List.pairwise_map (f := Prod.snd) (R := (· < ·)), List.zipIdx_map_snd]
  exact List.pairwise_lt_range'

theorem slotsOrdered : (p.slots holds).Pairwise Slot.Before := by
  refine List.pairwise_flatMap.mpr ⟨fun c _ => ?_, ?_⟩
  · rw [List.pairwise_map]
    exact (placesAscend p.rewards _).imp fun ascend => .inr ⟨rfl, ascend⟩
  · refine (placesAscend p.conditions _).imp ?_
    intro c d ascend a first b second
    obtain ⟨_, _, rfl⟩ := List.mem_map.mp first
    obtain ⟨_, _, rfl⟩ := List.mem_map.mp second
    exact .inl ascend

theorem slotsDistinct (distinct : (lowerNames p.conditions).Nodup) :
    ((p.slots holds).map (·.place)).Nodup := by
  have apart : p.conditions.zipIdx.Pairwise fun c d =>
      Text.lower c.1.name ≠ Text.lower d.1.name := by
    have names : p.conditions.zipIdx.map (fun c => Text.lower c.1.name) =
        lowerNames p.conditions := by
      rw [lowerNames, ← List.zipIdx_map_fst 0 p.conditions, List.map_map]
      simp [Function.comp_def]
    rw [← names] at distinct
    exact List.pairwise_map.mp distinct
  simp only [slots, List.map_flatMap, List.map_map, Function.comp_def]
  refine List.nodup_flatMap.mpr ⟨fun c _ => ?_, (apart.filter _).imp ?_⟩
  · exact List.pairwise_map.mpr ((placesAscend p.rewards _).imp Nat.ne_of_lt)
  · intro c d apart place first second
    obtain ⟨⟨r, i⟩, mem, rfl⟩ := List.mem_map.mp first
    obtain ⟨⟨r', j⟩, mem', same⟩ := List.mem_map.mp second
    obtain ⟨atReward, targets⟩ := List.mem_filter.mp mem
    obtain ⟨atReward', targets'⟩ := List.mem_filter.mp mem'
    rw [List.mk_mem_zipIdx_iff_getElem?] at atReward atReward'
    subst same
    cases Option.some.inj (atReward.symm.trans atReward')
    simp only [Reward.targets, Text.sameName, beq_iff_eq] at targets targets'
    exact apart (targets.symm.trans targets')

theorem targetedIff {r : Reward} {place : Nat} (atReward : p.rewards[place]? = some r) :
    place ∈ (p.slots holds).map (·.place) ↔
      targetedBy ((p.conditions.filter holds).map (·.name)) r = true := by
  rw [List.mem_map, targetedBy, List.any_map, List.any_eq_true]
  constructor
  · intro facts
    obtain ⟨s, mem, rfl⟩ := facts
    obtain ⟨atSlot, c, atCondition, held, targets⟩ := memSlots.mp mem
    cases Option.some.inj (atReward.symm.trans atSlot)
    exact ⟨c, List.mem_filter.mpr ⟨List.mem_of_getElem? atCondition, held⟩, targets⟩
  · intro facts
    obtain ⟨c, mem, targets⟩ := facts
    obtain ⟨member, held⟩ := List.mem_filter.mp mem
    obtain ⟨i, atCondition⟩ := List.mem_iff_getElem?.mp member
    exact ⟨⟨i, place, r⟩, memSlots.mpr ⟨atReward, c, atCondition, held, targets⟩, rfl⟩

theorem slotsCount (distinct : (lowerNames p.conditions).Nodup) :
    (p.slots holds).length =
      (p.rewards.filter (targetedBy ((p.conditions.filter holds).map (·.name)))).length := by
  let owned := targetedBy ((p.conditions.filter holds).map (·.name))
  let targeted := p.rewards.zipIdx.filter fun r => owned r.1
  have places : ((p.slots holds).map (·.place)).Perm (targeted.map Prod.snd) := by
    refine (List.perm_ext_iff_of_nodup (slotsDistinct distinct) ?_).mpr fun place => ?_
    · exact List.pairwise_map.mpr ((placesAscend p.rewards _).imp Nat.ne_of_lt)
    · simp only [targeted, owned, List.mem_map, List.mem_filter, Prod.exists,
        List.mk_mem_zipIdx_iff_getElem?, exists_eq_right]
      constructor
      · intro facts
        obtain ⟨s, mem, rfl⟩ := facts
        have atReward := (memSlots.mp mem).1
        exact ⟨s.reward, atReward, (targetedIff atReward).mp (List.mem_map.mpr ⟨s, mem, rfl⟩)⟩
      · intro facts
        obtain ⟨r, atReward, targets⟩ := facts
        exact List.mem_map.mp ((targetedIff atReward).mpr targets)
  calc (p.slots holds).length
      = (targeted.map Prod.snd).length := by rw [← places.length_eq, List.length_map]
    _ = (targeted.map Prod.fst).length := by rw [List.length_map, List.length_map]
    _ = (p.rewards.filter owned).length := congrArg List.length (keptItems p.rewards owned)

theorem attemptsOf {context : Context} {slots : List Slot} {found : List (Reward × Verdict)}
    (judged : verdicts context (slots.map (·.reward)) = .ok found) :
    ∃ attempts : List Attempt, attempts.map (·.toSlot) = slots ∧
      attempts.map Attempt.entry = found ∧
      ∀ a ∈ attempts, a.reward.grant (some context) = .ok a.verdict := by
  induction slots generalizing found with
  | nil => cases judged; exact ⟨[], rfl, rfl, by simp⟩
  | cons s rest ih =>
    simp only [List.map_cons, verdicts, bind, Except.bind] at judged
    split at judged
    · contradiction
    · rename_i verdict granted
      split at judged
      · contradiction
      · rename_i later settled
        cases judged
        obtain ⟨attempts, same, entries, every⟩ := ih settled
        refine ⟨⟨s, verdict⟩ :: attempts, by simp [same], by simp [entries, Attempt.entry], ?_⟩
        exact List.forall_mem_cons.mpr ⟨granted, every⟩

theorem awardsOfAttempts (attempts : List Attempt) :
    awardsOf (attempts.map Attempt.entry) = attempts.filterMap Attempt.award? := by
  rw [awardsOf, List.filterMap_map]
  congr
  funext a
  cases verdict : a.verdict <;> simp [Attempt.entry, Attempt.award?, verdict]

theorem refusalsOfAttempts (attempts : List Attempt) :
    refusalsOf (attempts.map Attempt.entry) = attempts.filterMap Attempt.problem? := by
  rw [refusalsOf, List.filterMap_map]
  congr
  funext a
  cases verdict : a.verdict <;> simp [Attempt.entry, Attempt.problem?, verdict]

/- Each reward that a triggered condition owns is tried once, every other one never. -/
theorem accountOfSettled {context : Context} {found : List (Reward × Verdict)} {total : Decimal}
    (distinct : (lowerNames p.conditions).Nodup)
    (rewards : verdicts context (p.due (p.conditions.filter (holding context))) = .ok found)
    (sum : Result.total (awardsOf found) = .ok total) :
    ∃ attempts, Account p context
      ⟨p.name, true, (p.conditions.filter (holding context)).map (·.name), awardsOf found,
        refusalsOf found, some ⟨total, (p.conditions.filter (holding context)).length,
          (awardsOf found).length⟩⟩ attempts := by
  rw [← slotsRewards] at rewards
  obtain ⟨attempts, same, rfl, judged⟩ := attemptsOf rewards
  have places : attempts.map (·.place) = (p.slots (holding context)).map (·.place) := by
    rw [← same, List.map_map]
    rfl
  have tried {a : Attempt} (mem : a ∈ attempts) : a.toSlot ∈ p.slots (holding context) := by
    rw [← same]
    exact List.mem_map_of_mem mem
  refine ⟨attempts, ⟨fun a mem => ?_, judged, ?_, fun place r atReward => ?_,
    awardsOfAttempts attempts, refusalsOfAttempts attempts, ⟨total, sum, by simp⟩, ?_⟩⟩
  · obtain ⟨atReward, c, atCondition, held, targets⟩ := memSlots.mp (tried mem)
    exact ⟨atReward, c, atCondition, holdingIff.mp held, targets⟩
  · have ordered : (attempts.map (·.toSlot)).Pairwise Slot.Before := by
      rw [same]
      exact slotsOrdered
    exact List.pairwise_map.mp ordered
  · rw [places, (slotsDistinct distinct).count]
    simp only [targetedIff atReward]
  · rw [awardsAndRefusals, List.length_map, ← slotsCount distinct, ← same, List.length_map]

theorem appliedExactlyOnce {p : Promotion} {clock : Clock} {context : Option Context}
    {result : Result} (returned : p.apply clock context = .ok result) :
    ((p.validate clock context).isValid = false → result =
      ⟨p.name, false, [], [], (p.validate clock context).errors.map .objection, none⟩) ∧
    ((p.validate clock context).isValid = true → ∃ given, context = some given ∧
      (∀ c ∈ p.conditions, c.holdsIn context = .ok (holding given c)) ∧
      result.promotion = p.name ∧
      result.triggered = (p.conditions.filter (holding given)).map (·.name) ∧
      (result.applicable = true ↔ result.triggered ≠ []) ∧
      (result.triggered = [] → result.awards = [] ∧ result.errors = [] ∧ result.summary = none) ∧
      (result.applicable = true → ∃ attempts, Account p given result attempts)) := by
  cases appliedIff.mp returned with
  | rejected invalid => exact ⟨fun _ => rfl, fun valid => by rw [invalid] at valid; contradiction⟩
  | @idle given valid conditions =>
    refine ⟨fun invalid => (by rw [valid] at invalid; contradiction), fun _ => ?_⟩
    obtain ⟨every, none⟩ := triggeredIff.mp conditions
    exact ⟨given, rfl, every, rfl, by simp [← none], by simp, by simp, by simp⟩
  | @settled given held found total valid conditions nonempty rewards sum =>
    refine ⟨fun invalid => (by rw [valid] at invalid; contradiction), fun _ => ?_⟩
    obtain ⟨every, rfl⟩ := triggeredIff.mp conditions
    refine ⟨given, rfl, every, rfl, rfl, ?_, ?_, fun _ => ?_⟩
    · simpa using nonempty
    · intro none
      exact absurd (List.map_eq_nil_iff.mp none) nonempty
    · exact accountOfSettled (distinctOfValid valid) rewards sum

/- Rewards out of the order of their conditions, in other letter case, inactive, and of a condition
that does not hold. -/
def summerSale : Promotion where
  name := "Summer"
  conditions := [⟨"A", "any", [], none, true⟩,
    ⟨"B", "minimumQuantity", ["config.minQuantity"], none, true⟩, ⟨"C", "all", [], none, false⟩]
  rewards := [⟨"b", "points", [], none, true⟩,
    ⟨"A", "discountAmount", ["config.discountAmount"], none, true⟩,
    ⟨"a", "freeShipping", [], none, false⟩, ⟨"C", "freeShipping", [], none, true⟩]
  active := true
  start := none
  finish := none

def summerNoon : Timestamp := ⟨2024, 6, 1, 12, 0, 0, 0, none⟩

def summerResult : Result where
  promotion := "Summer"
  applicable := true
  triggered := ["A", "B"]
  awards := [
    ⟨.discountAmount, "A", ⟨.finite false 500 (-2), "Fixed amount discount applied: $5.00",
      [("amount", .number (.finite false 500 (-2)))]⟩⟩,
    ⟨.points, "b", ⟨.finite false 219940 (-3), "Points awarded: 219.940 points",
      [("multiplier", .number (.finite false 20 (-1)))]⟩⟩]
  errors := [.refused "freeShipping" "a" (.inactive "freeShipping" "a")]
  summary := some ⟨.finite false 224940 (-3), 2, 2⟩

theorem summerSaleTriedOnce :
    summerSale.apply (.fixed summerNoon) (some .sample) = .ok summerResult ∧
      ∃ attempts, Account summerSale .sample summerResult attempts := by
  have returned : summerSale.apply (.fixed summerNoon) (some .sample) = .ok summerResult := rfl
  obtain ⟨given, same, _, _, _, _, _, settled⟩ := (appliedExactlyOnce returned).2 rfl
  cases same
  exact ⟨returned, settled rfl⟩

end Promotions.Promotion
