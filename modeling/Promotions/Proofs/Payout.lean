import Promotions.Proofs.Applying
import Promotions.Proofs.Granting
import Promotions.Proofs.Decimal.Summed

/-! Lists of rewards, granted one by one or valued one by one. The values of active rewards are the
values of their awards, with a zero for each one that is refused. -/
namespace Promotions.Promotion

def addValue (context : Context) (total : Decimal) (r : Reward) : Except Value.Fault Decimal := do
  let value ← r.value (some context)
  Value.Fault.lift (total.add value)

variable {context : Context} {rewards : List Reward} {found : List (Reward × Verdict)}

theorem valueOfSteps : valueOf context rewards = rewards.foldlM (addValue context) .zero := rfl

theorem verdictsFault {fault : Value.Fault} : verdicts context rewards = .error fault ↔
    ∃ before r after found, rewards = before ++ r :: after ∧
      verdicts context before = .ok found ∧ r.grant (some context) = .error fault := by
  induction rewards with
  | nil => simp [verdicts]
  | cons r rest ih =>
    constructor
    · intro failed
      cases first : r.grant (some context) with
      | error f =>
        simp only [verdicts, first, bind, Except.bind] at failed
        cases failed
        exact ⟨[], r, rest, [], rfl, rfl, first⟩
      | ok verdict =>
        cases later : verdicts context rest with
        | error f =>
          simp only [verdicts, first, later, bind, Except.bind] at failed
          cases failed
          obtain ⟨before, q, after, found, rfl, granted, last⟩ := ih.mp later
          exact ⟨r :: before, q, after, (r, verdict) :: found, rfl,
            by simp [verdicts, first, granted, bind, Except.bind, pure, Except.pure], last⟩
        | ok found => simp [verdicts, first, later, bind, Except.bind, pure, Except.pure] at failed
    · intro facts
      obtain ⟨before, q, after, found, split, granted, last⟩ := facts
      cases before with
      | nil =>
        cases split
        simp [verdicts, last, bind, Except.bind]
      | cons head before =>
        cases split
        simp only [verdicts, bindOk] at granted
        obtain ⟨verdict, first, others, later, _⟩ := granted
        have rest : verdicts context (before ++ q :: after) = .error fault :=
          ih.mpr ⟨before, q, after, others, rfl, later, last⟩
        simp [verdicts, first, rest, bind, Except.bind]

theorem verdictsOk : (∃ found, verdicts context rewards = .ok found) ↔
    ∀ r ∈ rewards, ∃ verdict, r.grant (some context) = .ok verdict := by
  induction rewards with
  | nil => simp [verdicts]
  | cons r rest ih =>
    rw [List.forall_mem_cons, ← ih]
    simp only [verdicts, bindOk, pure, Except.pure, Except.ok.injEq]
    constructor
    · intro facts
      obtain ⟨_, verdict, first, found, later, _⟩ := facts
      exact ⟨⟨verdict, first⟩, found, later⟩
    · intro facts
      obtain ⟨⟨verdict, first⟩, found, later⟩ := facts
      exact ⟨_, verdict, first, found, later, rfl⟩

theorem addValueAlike {x y : Decimal} (alike : Decimal.Alike x y) (r : Reward) :
    Decimal.Agree (addValue context x r) (addValue context y r) := by
  unfold addValue
  cases r.value (some context) with
  | error fault => exact .fault
  | ok value => exact (Decimal.addAlike alike value).mapError _

theorem addValueSettled {x y : Decimal} {r : Reward} (sum : addValue context x r = .ok y) :
    Decimal.Settled y := by
  obtain ⟨value, _, added⟩ := bindOk.mp sum
  exact Decimal.addSettled (mapErrorOk.mp added)

/- Rewards that are worth nothing can be left out of a sum. -/
theorem sumKept (keep : Reward → Bool)
    (worthless : ∀ r ∈ rewards, keep r = false →
      ∃ x, r.value (some context) = .ok x ∧ Decimal.IsZero x)
    {x y : Decimal} (settled : Decimal.Settled x) (alike : Decimal.Alike x y) :
    Decimal.Agree (rewards.foldlM (addValue context) x)
      ((rewards.filter keep).foldlM (addValue context) y) := by
  induction rewards generalizing x y with
  | nil => exact .value alike
  | cons r rest ih =>
    have others := fun q mem => worthless q (List.mem_cons_of_mem r mem)
    rw [List.foldlM_cons]
    cases kept : keep r with
    | true =>
      rw [List.filter_cons_of_pos kept, List.foldlM_cons]
      exact (addValueAlike alike r).bind fun z w sum same => ih others (addValueSettled sum) same
    | false =>
      rw [List.filter_cons_of_neg (by simp [kept])]
      obtain ⟨value, worth, none⟩ := worthless r List.mem_cons_self kept
      obtain ⟨z, sum, same⟩ := Decimal.addZero settled none
      have added : addValue context x r = .ok z := by
        simp [addValue, worth, sum, bind, Except.bind]
      rw [added]
      exact ih others (addValueSettled added) (same.trans alike)

def grants (context : Context) (r : Reward) : Bool :=
  match r.grant (some context) with
  | .ok (.granted _) => true
  | _ => false

theorem awardsSum (settled : verdicts context rewards = .ok found) (x : Decimal) :
    (rewards.filter (grants context)).foldlM (addValue context) x =
      Value.Fault.lift (((awardsOf found).map (·.worth.value)).foldlM Decimal.add x) := by
  induction rewards generalizing found x with
  | nil =>
    cases settled
    rfl
  | cons r rest ih =>
    simp only [verdicts, bindOk, pure, Except.pure, Except.ok.injEq] at settled
    obtain ⟨verdict, first, others, later, rfl⟩ := settled
    cases verdict with
    | refused refusal =>
      rw [List.filter_cons_of_neg (by simp [grants, first])]
      exact ih later x
    | granted award =>
      rw [List.filter_cons_of_pos (by simp [grants, first]), List.foldlM_cons, addValue,
        Reward.valueOfGrant first]
      show _ = Value.Fault.lift (x.add award.worth.value >>= fun y =>
        ((awardsOf others).map (·.worth.value)).foldlM Decimal.add y)
      cases sum : x.add award.worth.value with
      | error fault => simp [sum, bind, Except.bind]
      | ok y => simpa [sum, bind, Except.bind] using ih later y

theorem refusedWorthless (active : ∀ r ∈ rewards, r.active = true)
    (settled : verdicts context rewards = .ok found) {r : Reward} (mem : r ∈ rewards)
    (refused : grants context r = false) :
    ∃ x, r.value (some context) = .ok x ∧ Decimal.IsZero x := by
  rcases Reward.grantActive (some context) (active r mem) with
    ⟨fault, granted, _⟩ | ⟨award, granted, _⟩ | ⟨_, _, value⟩
  · obtain ⟨verdict, other⟩ := verdictsOk.mp ⟨found, settled⟩ r mem
    rw [granted] at other
    cases other
  · simp [grants, granted] at refused
  · exact ⟨.zero, value, Decimal.zeroIsZero⟩

theorem awardsFinite (documented : context.Documented)
    (settled : verdicts context rewards = .ok found) :
    ∀ award ∈ awardsOf found, award.worth.Finite := by
  induction rewards generalizing found with
  | nil =>
    cases settled
    simp [awardsOf]
  | cons r rest ih =>
    simp only [verdicts, bindOk, pure, Except.pure, Except.ok.injEq] at settled
    obtain ⟨verdict, first, found, later, rfl⟩ := settled
    have others := ih later
    cases verdict with
    | refused refusal => exact others
    | granted award =>
      intro other among
      rcases List.mem_cons.mp among with rfl | mem
      · exact Reward.grantFinite documented first
      · exact others other mem

theorem totalEnds (documented : context.Documented)
    (settled : verdicts context rewards = .ok found) :
    Ends (· = .overflow) (·.isFinite = true) (Result.total (awardsOf found)) := by
  apply Decimal.sumEnds
  intro v mem
  obtain ⟨award, among, rfl⟩ := List.mem_map.mp mem
  exact (awardsFinite documented settled award among).value

/- A sale that always applies, in a shop with one item. -/
def shopDocument (settings : Entries) : Value :=
  .dict [(.text "cart", .dict [(.text "items", .list [.dict [(.text "price", .int 10)]])]),
    (.text "config", .dict settings)]

def shop (config : Config) : Context := ⟨some ⟨[.ofFields "" (.ofNat 10) 1 "" []]⟩, some config, []⟩

def openSale (rewards : List Reward) : Promotion :=
  ⟨"Sale", [⟨"A", "any", [], none, true⟩], rewards, true, none, none⟩

def noon : Clock := .fixed ⟨2024, 6, 1, 12, 0, 0, 0, none⟩

def fixedAmount : Reward := ⟨"A", "discountAmount", [], none, true⟩

def shipping : Reward := ⟨"A", "freeShipping", [], none, true⟩

end Promotions.Promotion
