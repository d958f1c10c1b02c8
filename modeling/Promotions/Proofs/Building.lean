import Promotions.Proofs.Vetting

/-! Promotions that are put together line by line. Only a valid line is taken, so that validation of
what was built finds no fault in a line alone; all that is left is a condition whose name an earlier
one has. -/
namespace Promotions.Promotion

/-- A line that a caller asks to be added. -/
inductive Addition where
  | condition (c : Condition)
  | reward (r : Reward)
  deriving Inhabited

namespace Addition

def isValid : Addition → Bool
  | condition c => c.isValid
  | reward r => r.isValid

def condition? : Addition → Option Condition
  | condition c => some c
  | reward _ => none

def reward? : Addition → Option Reward
  | condition _ => none
  | reward r => some r

end Addition

variable {p built : Promotion} {calls accepted : List Addition} {conditions : List Condition}

def adding (p : Promotion) : Addition → Except InvalidRule Promotion
  | .condition c => p.withCondition c
  | .reward r => p.withReward r

/-- The calls that were accepted, and what they built. A refused call leaves the promotion as it
was. -/
def build (p : Promotion) : List Addition → List Addition × Promotion
  | [] => ([], p)
  | call :: later =>
      match p.adding call with
      | .ok longer => (call :: (longer.build later).1, (longer.build later).2)
      | .error _ => p.build later

/-- With lines put behind those that are there. -/
def extended (p : Promotion) (lines : List Addition) : Promotion :=
  { p with conditions := p.conditions ++ lines.filterMap (·.condition?)
           rewards := p.rewards ++ lines.filterMap (·.reward?) }

theorem extendedNone (p : Promotion) : p.extended [] = p := by simp [extended]

theorem extendedCons (p : Promotion) (line : Addition) (later : List Addition) :
    (p.extended [line]).extended later = p.extended (line :: later) := by
  cases line <;> simp [extended, Addition.condition?, Addition.reward?]

theorem addingAccepted {call : Addition} (valid : call.isValid = true) :
    p.adding call = .ok (p.extended [call]) := by
  cases call with
  | condition c =>
    have valid : c.isValid = true := valid
    simp [adding, withCondition, valid, extended, Addition.condition?, Addition.reward?]
  | reward r =>
    have valid : r.isValid = true := valid
    simp [adding, withReward, valid, extended, Addition.condition?, Addition.reward?]

theorem addingRefused {call : Addition} (invalid : call.isValid = false) :
    ∃ rule, p.adding call = .error rule := by
  cases call with
  | condition c =>
    have invalid : c.isValid = false := invalid
    exact ⟨.condition c, by simp [adding, withCondition, invalid]⟩
  | reward r =>
    have invalid : r.isValid = false := invalid
    exact ⟨.reward r, by simp [adding, withReward, invalid]⟩

/-- A call is judged by its line alone, whatever has been built before it. -/
theorem buildAccepted (p : Promotion) (calls : List Addition) :
    p.build calls = (calls.filter (·.isValid), p.extended (calls.filter (·.isValid))) := by
  induction calls generalizing p with
  | nil => rw [build, List.filter_nil, extendedNone]
  | cons call later ih =>
    rw [build]
    cases judged : call.isValid with
    | true =>
      rw [addingAccepted judged, List.filter_cons_of_pos judged,
        ← extendedCons p call (later.filter _)]
      simp only [ih]
    | false =>
      obtain ⟨rule, refused⟩ := addingRefused (p := p) judged
      rw [refused, List.filter_cons_of_neg (by simp [judged])]
      exact ih p

/-- Whether the name of a condition at a place is that of an earlier one, letter case aside. -/
def isRepeat (conditions : List Condition) (line : Condition × Nat) : Bool :=
  (conditions.take line.2).any fun d => Text.sameName d.name line.1.name

def repeated (conditions : List Condition) : List Condition :=
  (conditions.zipIdx.filter (isRepeat conditions)).map Prod.fst

/- The names that the loop has seen are those of the conditions in front. -/
theorem objectionsBehind (before : List Condition) {seen : List String}
    (names : ∀ name, seen.contains (Text.lower name) =
      before.any fun d => Text.sameName d.name name)
    (valid : ∀ c ∈ conditions, c.isValid = true) : conditionObjections seen conditions =
      ((conditions.zipIdx before.length).filter (isRepeat (before ++ conditions))).map
        fun line => .duplicateCondition line.1.name := by
  induction conditions generalizing before seen with
  | nil => rfl
  | cons c later ih =>
    obtain ⟨first, others⟩ := List.forall_mem_cons.mp valid
    have names' (name : String) : (Text.lower c.name :: seen).contains (Text.lower name) =
        (before ++ [c]).any fun d => Text.sameName d.name name := by
      rw [List.contains_cons, names, List.any_append, Bool.or_comm]
      simp [Text.sameName, Bool.beq_comm]
    have behind := ih (before ++ [c]) names' others
    rw [List.append_assoc, List.singleton_append, List.length_append, List.length_singleton]
      at behind
    have here : isRepeat (before ++ c :: later) (c, before.length) =
        seen.contains (Text.lower c.name) := by
      rw [isRepeat, List.take_left, names]
    rw [conditionObjections, behind, first, List.zipIdx_cons, List.filter_cons, here]
    cases seen.contains (Text.lower c.name) <;> rfl

theorem objectionsRepeated (valid : ∀ c ∈ conditions, c.isValid = true) :
    conditionObjections [] conditions =
      (repeated conditions).map fun c => .duplicateCondition c.name := by
  rw [repeated, List.map_map]
  exact objectionsBehind [] (fun _ => rfl) valid

theorem filteredConditions {c : Condition}
    (mem : c ∈ (calls.filter (·.isValid)).filterMap (·.condition?)) : c.isValid = true := by
  obtain ⟨call, among, same⟩ := List.mem_filterMap.mp mem
  cases call with
  | condition d =>
    cases same
    exact (List.mem_filter.mp among).2
  | reward r => cases same

theorem filteredRewards {r : Reward}
    (mem : r ∈ (calls.filter (·.isValid)).filterMap (·.reward?)) : r.isValid = true := by
  obtain ⟨call, among, same⟩ := List.mem_filterMap.mp mem
  cases call with
  | condition c => cases same
  | reward q =>
    cases same
    exact (List.mem_filter.mp among).2

/-- Calls on a promotion without lines build what the accepted ones say, and all its lines are
valid. Where it is ready, validation objects once to every condition whose name an earlier one has,
in order, and to nothing else. -/
theorem builtValidates (noConditions : p.conditions = []) (noRewards : p.rewards = [])
    (run : p.build calls = (accepted, built)) :
    accepted = calls.filter (·.isValid) ∧
    built = { p with conditions := accepted.filterMap (·.condition?)
                     rewards := accepted.filterMap (·.reward?) } ∧
    (∀ c ∈ built.conditions, c.isValid = true) ∧ (∀ r ∈ built.rewards, r.isValid = true) ∧
    ∀ clock context, built.Ready clock context →
      (built.validate clock context).errors =
        (repeated built.conditions).map (fun c => .duplicateCondition c.name) ∧
      ((built.validate clock context).isValid = true ↔
        built.conditions.Pairwise fun c d => Text.lower c.name ≠ Text.lower d.name) := by
  obtain ⟨rfl, rfl⟩ := Prod.mk.inj ((buildAccepted p calls).symm.trans run)
  have whole : p.extended (calls.filter (·.isValid)) =
      { p with conditions := (calls.filter (·.isValid)).filterMap (·.condition?)
               rewards := (calls.filter (·.isValid)).filterMap (·.reward?) } := by
    rw [extended, noConditions, noRewards, List.nil_append, List.nil_append]
  rw [whole]
  refine ⟨rfl, rfl, fun c => filteredConditions, fun r => filteredRewards,
    fun clock context ready => ⟨?_, ?_⟩⟩
  · have noneInvalid := rewardObjectionsEmpty.mpr
      fun r (mem : r ∈ (calls.filter (·.isValid)).filterMap (·.reward?)) => filteredRewards mem
    rw [validateReady ready, noneInvalid, List.append_nil]
    exact objectionsRepeated fun c => filteredConditions
  · rw [acceptsIff]
    exact ⟨fun valid => valid.2.distinct,
      fun distinct => ⟨ready, fun c => filteredConditions, fun r => filteredRewards, distinct⟩⟩

/- Two conditions share a name, and two more do; a nameless condition and an unknown reward are
refused. -/
def openingCalls : List Addition := [.condition ⟨"A", "any", [], none, true⟩,
  .condition ⟨"", "any", [], none, true⟩, .condition ⟨"B", "all", [], none, true⟩,
  .reward ⟨"A", "bonus", [], none, true⟩, .reward ⟨"a", "FREESHIPPING", [], none, true⟩,
  .condition ⟨"b", "any", [], none, true⟩, .condition ⟨"a", "any", [], none, false⟩]

def openingClock : Clock := .fixed ⟨2024, 6, 1, 0, 0, 0, 0, none⟩

theorem openingBuilt : ∃ accepted built,
    (empty "Opening").build openingCalls = (accepted, built) ∧
    accepted.length = 5 ∧ built.conditions.map (·.name) = ["A", "B", "b", "a"] ∧
    built.Ready openingClock (some .sample) ∧
    (built.validate openingClock (some .sample)).errors =
      [.duplicateCondition "b", .duplicateCondition "a"] ∧
    (built.validate openingClock (some .sample)).isValid = false := by
  obtain ⟨accepted, built, run, count, names, ready, repeats⟩ : ∃ accepted built,
      (empty "Opening").build openingCalls = (accepted, built) ∧ accepted.length = 5 ∧
        built.conditions.map (·.name) = ["A", "B", "b", "a"] ∧
        built.firstObjection openingClock (some .sample) = none ∧
        (repeated built.conditions).map (fun c => Objection.duplicateCondition c.name) =
          [.duplicateCondition "b", .duplicateCondition "a"] := ⟨_, _, rfl, rfl, rfl, rfl, rfl⟩
  obtain ⟨-, -, -, -, validated⟩ := builtValidates rfl rfl run
  obtain ⟨errors, valid⟩ := validated openingClock (some .sample) (readyIff.mp ready)
  have listed : (built.validate openingClock (some .sample)).errors =
      [.duplicateCondition "b", .duplicateCondition "a"] := errors.trans repeats
  refine ⟨accepted, built, run, count, names, readyIff.mp ready, listed, ?_⟩
  rw [← Bool.not_eq_true, validIffNoErrors, listed]
  exact List.cons_ne_nil _ _

end Promotions.Promotion
