import Promotions.Proofs.Ending
import Promotions.Promotion

/-! The data that a promotion lists as required. A condition needs what its function reads, a
configuration key for each parameter, and every path that stands in its expression, however deep;
the list has these and nothing else, and there is one unless a node is of no known kind. -/
namespace Promotions

namespace Expr

/-- An expression stands in another one, or is that one. -/
inductive Within : Expr → Expr → Prop
  | here {e} : Within e e
  | left {e left relation right} (deeper : Within e left) :
      Within e (comparison left relation right)
  | right {e left relation right} (deeper : Within e right) :
      Within e (comparison left relation right)
  | first {e left connective right} (deeper : Within e left) :
      Within e (logical left connective right)
  | second {e left connective right} (deeper : Within e right) :
      Within e (logical left connective right)
  | argument {e name arguments a} (among : a ∈ arguments) (deeper : Within e a) :
      Within e (call name arguments)

theorem Within.trans {a b c : Expr} (inner : Within a b) (outer : Within b c) : Within a c := by
  induction outer with
  | here => exact inner
  | left _ ih => exact .left ih
  | right _ ih => exact .right ih
  | first _ ih => exact .first ih
  | second _ ih => exact .second ih
  | argument among _ ih => exact .argument among ih

def Mentions (e : Expr) (path : String) : Prop :=
  ∃ segments, Within (.path segments) e ∧ pathText segments = path

/-- Expressions all of whose nodes are of known kinds. A comparison may lack its right side. -/
inductive Known : Expr → Prop
  | path {segments} : Known (path segments)
  | number {value} : Known (number value)
  | string {value} : Known (string value)
  | oneSided {left relation} (first : Known left) : Known (comparison left relation absent)
  | comparison {left relation right} (first : Known left) (second : Known right) :
      Known (comparison left relation right)
  | logical {left connective right} (first : Known left) (second : Known right) :
      Known (logical left connective right)
  | call {name arguments} (each : ∀ a ∈ arguments, Known a) : Known (call name arguments)

variable {e left right : Expr} {path : String} {paths : List String}

theorem mentionsPath {segments : List String} :
    (Expr.path segments).Mentions path ↔ pathText segments = path := by
  constructor
  · intro facts
    obtain ⟨found, within, same⟩ := facts
    cases within
    exact same
  · exact fun same => ⟨segments, .here, same⟩

theorem mentionsComparison {relation : Option String} :
    (comparison left relation right).Mentions path ↔ left.Mentions path ∨ right.Mentions path := by
  constructor
  · intro facts
    obtain ⟨segments, within, same⟩ := facts
    cases within with
    | left deeper => exact .inl ⟨segments, deeper, same⟩
    | right deeper => exact .inr ⟨segments, deeper, same⟩
  · intro either
    rcases either with ⟨segments, deeper, same⟩ | ⟨segments, deeper, same⟩
    · exact ⟨segments, .left deeper, same⟩
    · exact ⟨segments, .right deeper, same⟩

theorem mentionsLogical {connective : String} :
    (logical left connective right).Mentions path ↔ left.Mentions path ∨ right.Mentions path := by
  constructor
  · intro facts
    obtain ⟨segments, within, same⟩ := facts
    cases within with
    | first deeper => exact .inl ⟨segments, deeper, same⟩
    | second deeper => exact .inr ⟨segments, deeper, same⟩
  · intro either
    rcases either with ⟨segments, deeper, same⟩ | ⟨segments, deeper, same⟩
    · exact ⟨segments, .first deeper, same⟩
    · exact ⟨segments, .second deeper, same⟩

theorem mentionsCall {name : String} {arguments : List Expr} :
    (call name arguments).Mentions path ↔ ∃ a ∈ arguments, a.Mentions path := by
  constructor
  · intro facts
    obtain ⟨segments, within, same⟩ := facts
    cases within with
    | argument among deeper => exact ⟨_, among, segments, deeper, same⟩
  · intro facts
    obtain ⟨a, among, segments, deeper, same⟩ := facts
    exact ⟨segments, .argument among deeper, same⟩

theorem mentionsNone (e : Expr) (leaf : ∀ segments, ¬ Within (.path segments) e) :
    ¬ e.Mentions path :=
  fun ⟨segments, within, _⟩ => leaf segments within

/- The list of an expression, with the paths it has. -/
def Lists (e : Expr) (paths : List String) : Prop :=
  e.paths = .ok paths ∧ ∀ path, path ∈ paths ↔ e.Mentions path

theorem pathsOfListed {arguments : List Expr} (each : ∀ a ∈ arguments, ∃ paths, a.Lists paths) :
    ∃ paths, pathsOf arguments = .ok paths ∧
      ∀ path, path ∈ paths ↔ ∃ a ∈ arguments, a.Mentions path := by
  induction arguments with
  | nil => exact ⟨[], rfl, by simp⟩
  | cons a rest ih =>
    obtain ⟨⟨first, own, mentions⟩, others⟩ := List.forall_mem_cons.mp each
    obtain ⟨later, read, mentioned⟩ := ih others
    refine ⟨first ++ later, by rw [pathsOf, own, read]; rfl, fun path => ?_⟩
    simp only [List.mem_append, mentions, mentioned, List.mem_cons, exists_eq_or_imp]

theorem pathsOfBoth {relation : Option String} (present : right ≠ absent) :
    (comparison left relation right).paths = do return (← left.paths) ++ (← right.paths) := by
  rw [Expr.paths]
  exact present

theorem Known.lists (known : e.Known) : ∃ paths, e.Lists paths := by
  induction known with
  | path =>
    refine ⟨_, rfl, fun path => ?_⟩
    rw [List.mem_singleton, mentionsPath, eq_comm]
  | number => exact ⟨[], rfl, fun path => iff_of_false nofun (mentionsNone _ nofun)⟩
  | string => exact ⟨[], rfl, fun path => iff_of_false nofun (mentionsNone _ nofun)⟩
  | oneSided _ ih =>
    obtain ⟨paths, own, mentions⟩ := ih
    refine ⟨paths, own, fun path => ?_⟩
    rw [mentions, mentionsComparison, or_iff_left (mentionsNone absent nofun)]
  | @comparison left relation right _ second ih ih' =>
    obtain ⟨lefts, one, mentions⟩ := ih
    obtain ⟨rights, two, mentions'⟩ := ih'
    have present : right ≠ absent := by rintro rfl; cases second
    refine ⟨lefts ++ rights, by rw [pathsOfBoth present, one, two]; rfl, fun path => ?_⟩
    rw [List.mem_append, mentions, mentions', mentionsComparison]
  | logical _ _ ih ih' =>
    obtain ⟨lefts, one, mentions⟩ := ih
    obtain ⟨rights, two, mentions'⟩ := ih'
    refine ⟨lefts ++ rights, by rw [Expr.paths, one, two]; rfl, fun path => ?_⟩
    rw [List.mem_append, mentions, mentions', mentionsLogical]
  | call _ ih =>
    obtain ⟨paths, read, mentioned⟩ := pathsOfListed ih
    refine ⟨paths, by rw [Expr.paths, read], fun path => ?_⟩
    rw [mentioned, mentionsCall]

mutual

theorem knownOfPaths : ∀ {e : Expr} {paths : List String}, e.paths = .ok paths → e.Known
  | .path _, _, _ => .path
  | .number _, _, _ => .number
  | .string _, _, _ => .string
  | .comparison left relation right, paths, listed => by
    by_cases missing : right = absent
    · subst missing
      rw [Expr.paths] at listed
      exact .oneSided (knownOfPaths listed)
    · rw [pathsOfBoth missing] at listed
      obtain ⟨lefts, one, later⟩ := bindOk.mp listed
      obtain ⟨rights, two, _⟩ := bindOk.mp later
      exact .comparison (knownOfPaths one) (knownOfPaths two)
  | .logical left _ right, paths, listed => by
    rw [Expr.paths] at listed
    obtain ⟨lefts, one, later⟩ := bindOk.mp listed
    obtain ⟨rights, two, _⟩ := bindOk.mp later
    exact .logical (knownOfPaths one) (knownOfPaths two)
  | .call _ arguments, paths, listed => by
    rw [Expr.paths] at listed
    exact .call (knownOfPathsOf listed)

theorem knownOfPathsOf : ∀ {arguments : List Expr} {paths : List String},
    pathsOf arguments = .ok paths → ∀ a ∈ arguments, a.Known
  | [], _, _ => List.forall_mem_nil _
  | a :: rest, paths, listed => by
    rw [pathsOf] at listed
    obtain ⟨first, one, later⟩ := bindOk.mp listed
    obtain ⟨others, two, _⟩ := bindOk.mp later
    exact List.forall_mem_cons.mpr ⟨knownOfPaths one, knownOfPathsOf two⟩

end

end Expr

namespace Condition

/-- What a condition depends on, by the reasons that there are. -/
inductive Needs (c : Condition) : String → Prop
  | function {f} (found : ConditionFunction.find? c.function = some f) :
      Needs c (Promotion.functionData f)
  | parameter {parameter} (among : parameter ∈ c.parameters) :
      Needs c ("config." ++ configKey parameter)
  | mention {e path} (given : c.expression = some e) (mentions : e.Mentions path) : Needs c path

def Known (c : Condition) : Prop := ∀ e, c.expression = some e → e.Known

variable {c : Condition} {path : String} {paths : List String}

/- What does not come from the expression. -/
def callData (function : String) (parameters : List String) : List String :=
  ((ConditionFunction.find? function).map Promotion.functionData).toList ++
    parameters.map fun parameter => "config." ++ configKey parameter

theorem dataAlone (alone : c.expression = none) :
    Promotion.conditionData c = .ok (callData c.function c.parameters) := by
  rw [Promotion.conditionData, alone]
  rfl

theorem dataWith {e : Expr} (given : c.expression = some e) :
    Promotion.conditionData c = do return callData c.function c.parameters ++ (← e.paths) := by
  rw [Promotion.conditionData, given]
  rfl

theorem memCallData {function : String} {parameters : List String} :
    path ∈ callData function parameters ↔
      (∃ f, ConditionFunction.find? function = some f ∧ Promotion.functionData f = path) ∨
        ∃ parameter ∈ parameters, "config." ++ configKey parameter = path := by
  simp [callData]

theorem needsIff : c.Needs path ↔ path ∈ callData c.function c.parameters ∨
    ∃ e, c.expression = some e ∧ e.Mentions path := by
  rw [memCallData]
  constructor
  · intro needs
    cases needs with
    | function found => exact .inl (.inl ⟨_, found, rfl⟩)
    | parameter among => exact .inl (.inr ⟨_, among, rfl⟩)
    | mention given mentioned => exact .inr ⟨_, given, mentioned⟩
  · intro either
    rcases either with (⟨f, found, rfl⟩ | ⟨parameter, among, rfl⟩) | ⟨e, given, mentioned⟩
    · exact .function found
    · exact .parameter among
    · exact .mention given mentioned

theorem Known.lists (known : c.Known) :
    ∃ paths, Promotion.conditionData c = .ok paths ∧ ∀ path, path ∈ paths ↔ c.Needs path := by
  cases given : c.expression with
  | none => exact ⟨_, dataAlone given, fun path => by simp [needsIff, given]⟩
  | some e =>
    obtain ⟨own, read, mentions⟩ := (known e given).lists
    refine ⟨callData c.function c.parameters ++ own, by rw [dataWith given, read]; rfl,
      fun path => ?_⟩
    simp [needsIff, given, mentions]

theorem knownOfData (listed : Promotion.conditionData c = .ok paths) : c.Known := by
  intro e given
  rw [dataWith given] at listed
  obtain ⟨own, read, _⟩ := bindOk.mp listed
  exact Expr.knownOfPaths read

theorem dataIff (listed : Promotion.conditionData c = .ok paths) : path ∈ paths ↔ c.Needs path := by
  obtain ⟨own, read, needs⟩ := (knownOfData listed).lists
  cases listed.symm.trans read
  exact needs path

end Condition

namespace Promotion

def Known (p : Promotion) : Prop := ∀ c ∈ p.conditions, c.Known

def Needs (p : Promotion) (path : String) : Prop := ∃ c ∈ p.conditions, c.Needs path

variable {p : Promotion} {path : String} {paths : List String}

theorem dataKnown {conditions : List Condition} (known : ∀ c ∈ conditions, c.Known) :
    ∃ lists, conditions.mapM conditionData = .ok lists ∧
      ∀ path, path ∈ lists.flatten ↔ ∃ c ∈ conditions, c.Needs path := by
  induction conditions with
  | nil => exact ⟨[], rfl, by simp⟩
  | cons c rest ih =>
    obtain ⟨first, others⟩ := List.forall_mem_cons.mp known
    obtain ⟨own, listed, needs⟩ := first.lists
    obtain ⟨lists, later, each⟩ := ih others
    refine ⟨own :: lists, ?_, fun path => ?_⟩
    · rw [List.mapM_cons, listed, later]
      rfl
    · simp only [List.flatten_cons, List.mem_append, needs, each, List.mem_cons, exists_eq_or_imp]

theorem knownOfLists {conditions : List Condition} {lists : List (List String)}
    (listed : conditions.mapM conditionData = .ok lists) : ∀ c ∈ conditions, c.Known := by
  induction conditions generalizing lists with
  | nil => exact List.forall_mem_nil _
  | cons c rest ih =>
    rw [List.mapM_cons] at listed
    obtain ⟨own, read, later⟩ := bindOk.mp listed
    obtain ⟨others, reads, _⟩ := bindOk.mp later
    exact List.forall_mem_cons.mpr ⟨Condition.knownOfData read, ih reads⟩

/-- There is a list exactly if all nodes are known. -/
theorem requiredKnown : (∃ paths, p.requiredData = .ok paths) ↔ p.Known := by
  constructor
  · intro facts
    obtain ⟨paths, listed⟩ := facts
    obtain ⟨lists, read, _⟩ := bindOk.mp listed
    exact knownOfLists read
  · intro known
    obtain ⟨lists, listed, _⟩ := dataKnown known
    exact ⟨lists.flatten.eraseDups, by rw [requiredData, listed]; rfl⟩

/-- The list has what some condition needs, and nothing else. -/
theorem requiredIff (listed : p.requiredData = .ok paths) : path ∈ paths ↔ p.Needs path := by
  obtain ⟨lists, read, same⟩ := bindOk.mp listed
  obtain ⟨lists', read', needs⟩ := dataKnown (knownOfLists read)
  cases read.symm.trans read'
  cases same
  rw [List.mem_eraseDups, needs]
  rfl

end Promotion

end Promotions
