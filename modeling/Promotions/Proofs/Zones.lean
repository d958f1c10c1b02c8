import Promotions.Proofs.Calendar

/-! How times compare that stand in zones. Clocks of one zone are compared as they stand, all others
by the moments that they name. Both come to the same unless a zone with a name has changed its
offset from one time to the other, so that offsets alone never make a difference. -/
namespace Promotions

/-- One and the same zone. One with a name may have changed its offset in between. -/
inductive Zone.Same : Zone → Zone → Prop
  | fixed {offset} : Same (.fixed offset) (.fixed offset)
  | named {name offset offset'} : Same (.named name offset) (.named name offset')

theorem Zone.isSameIff {x y : Zone} : x.isSame y = true ↔ x.Same y := by
  constructor
  · intro same
    cases x <;> cases y <;> simp only [isSame, beq_iff_eq, Bool.false_eq_true] at same
    · exact same ▸ .fixed
    · exact same ▸ .named
  · intro same
    cases same <;> simp [isSame]

theorem Zone.Same.refl (zone : Zone) : zone.Same zone := by
  cases zone with
  | fixed => exact .fixed
  | named => exact .named

theorem Zone.Same.symm {x y : Zone} (same : x.Same y) : y.Same x := by
  cases same with
  | fixed => exact .fixed
  | named => exact .named

namespace Timestamp

/-- What a time names: its reading, and with a zone the reading in universal time. -/
def point (t : Timestamp) : Int :=
  match t.zone with
  | none => t.reading
  | some (.fixed offset) => t.reading - offset
  | some (.named _ offset) => t.reading - offset

/-- One moment, whatever the offset it is written in. -/
def SameMoment (a b : Timestamp) : Prop := a.isAware = b.isAware ∧ a.point = b.point
instance (a b : Timestamp) : Decidable (SameMoment a b) := by
  unfold SameMoment; infer_instance

def SharesZone (a b : Timestamp) : Prop := ∃ x ∈ a.zone, ∃ y ∈ b.zone, x.Same y

/-- Clocks of one zone are compared as they stand, all others by what they name. -/
def Before (a b : Timestamp) : Prop :=
  a.SharesZone b ∧ a.reading < b.reading ∨ ¬ a.SharesZone b ∧ a.point < b.point

/-- No zone that both share has changed its offset from one to the other. -/
def Steady (a b : Timestamp) : Prop :=
  ∀ x ∈ a.zone, ∀ y ∈ b.zone, x.Same y → x.offset = y.offset

/-- A time without a zone, or with nothing but an offset from universal time. -/
def ByOffset (t : Timestamp) : Prop := ∀ zone ∈ t.zone, ∃ offset, zone = .fixed offset

variable {a b : Timestamp} {order : Ordering}

theorem SharesZone.symm (shared : a.SharesZone b) : b.SharesZone a := by
  obtain ⟨x, inA, y, inB, same⟩ := shared
  exact ⟨y, inB, x, inA, same.symm⟩

theorem sharesComm : a.SharesZone b ↔ b.SharesZone a := ⟨.symm, .symm⟩

theorem SharesZone.aware (shared : a.SharesZone b) : a.isAware = b.isAware := by
  obtain ⟨x, inA, y, inB, -⟩ := shared
  rw [isAware, isAware, Option.mem_def.mp inA, Option.mem_def.mp inB]
  rfl

theorem Steady.symm (steady : a.Steady b) : b.Steady a :=
  fun x inB y inA same => (steady y inA x inB same.symm).symm

theorem fixedByOffset {offset : Int} (stands : a.zone = some (.fixed offset)) : a.ByOffset := by
  intro zone present
  cases stands.symm.trans present
  exact ⟨offset, rfl⟩

theorem ByOffset.steady (byOffset : b.ByOffset) (a : Timestamp) : a.Steady b := by
  intro x inA y inB same
  obtain ⟨offset, rfl⟩ := byOffset y inB
  cases same with
  | fixed => rfl

theorem pointIn {zone : Zone} (stands : a.zone = some zone) :
    a.point = a.instant zone.offset := by
  unfold point
  rw [stands]
  cases zone <;> rfl

theorem pointNaive (stands : a.zone = none) : a.point = a.reading := by
  unfold point
  rw [stands]

theorem orderShared (shared : a.SharesZone b) :
    order? a b = some (compare a.reading b.reading) := by
  obtain ⟨x, inA, y, inB, same⟩ := shared
  simp only [order?, Option.mem_def.mp inA, Option.mem_def.mp inB, Zone.isSameIff.mpr same, if_true]

theorem orderApart (apart : ¬ a.SharesZone b) (alike : a.isAware = b.isAware) :
    order? a b = some (compare a.point b.point) := by
  unfold isAware at alike
  cases inA : a.zone with
  | none =>
    cases inB : b.zone with
    | none => simp only [order?, inA, inB, pointNaive]
    | some y => simp [inA, inB] at alike
  | some x =>
    cases inB : b.zone with
    | none => simp [inA, inB] at alike
    | some y =>
      have other : ¬ x.isSame y = true := fun same =>
        apart ⟨x, inA, y, inB, Zone.isSameIff.mp same⟩
      simp only [order?, inA, inB, if_neg other, pointIn inA, pointIn inB]

theorem orderIff : order? a b = some order ↔ a.isAware = b.isAware ∧
    (a.SharesZone b ∧ compare a.reading b.reading = order ∨
      ¬ a.SharesZone b ∧ compare a.point b.point = order) := by
  by_cases shared : a.SharesZone b
  · simp [orderShared shared, shared, shared.aware]
  · by_cases alike : a.isAware = b.isAware
    · simp [orderApart shared alike, shared, alike]
    · have incomparable : order? a b = none := by
        rw [← Option.not_isSome_iff_eq_none, orderIsSome]
        simpa using alike
      simp [incomparable, alike]

theorem orderBelow : order? a b = some .lt ↔ a.isAware = b.isAware ∧ a.Before b := by
  rw [orderIff, Int.compare_eq_lt, Int.compare_eq_lt, Before]

theorem orderAbove : order? a b = some .gt ↔ a.isAware = b.isAware ∧ b.Before a := by
  rw [orderIff, Int.compare_eq_gt, Int.compare_eq_gt, Before, sharesComm]

theorem steadyReading (steady : a.Steady b) (shared : a.SharesZone b) :
    compare a.reading b.reading = compare a.point b.point := by
  obtain ⟨x, inA, y, inB, same⟩ := shared
  have offsets := steady x inA y inB same
  rw [pointIn inA, pointIn inB]
  simp only [instant, offsets, compare, compareOfLessAndEq, Int.sub_lt_sub_right_iff,
    Int.sub_left_inj]

theorem steadyBefore (steady : a.Steady b) : a.Before b ↔ a.point < b.point := by
  unfold Before
  by_cases shared : a.SharesZone b
  · rw [← Int.compare_eq_lt, steadyReading steady shared, Int.compare_eq_lt]
    simp [shared]
  · simp [shared]

/-- Clocks without a zone, or of one, are compared by their fields. -/
theorem fieldsBefore (proper : a.Proper) (proper' : b.Proper)
    (same : a.zone = b.zone ∨ a.SharesZone b) : a.Before b ↔ fieldOrder a b = .lt := by
  rw [← readingOrder proper proper', Int.compare_eq_lt]
  by_cases shared : a.SharesZone b
  · simp [Before, shared]
  · have zones := same.resolve_right shared
    have naive : b.zone = none := by
      cases inB : b.zone with
      | none => rfl
      | some zone => exact absurd ⟨zone, zones.trans inB, zone, inB, .refl zone⟩ shared
    simp [Before, shared, pointNaive, zones, naive]

end Timestamp

end Promotions
