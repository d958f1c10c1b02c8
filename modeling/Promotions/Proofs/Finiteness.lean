import Promotions.Proofs.Raising

/-! No number in a result is infinite or undefined. A document may hold such numbers, and texts that
spell them, as configuration values and properties; whatever a reward takes is looked at before
anything is computed from it, and what is computed stays finite. -/
namespace Promotions

structure Result.Finite (result : Result) : Prop where
  awards : ∀ award ∈ result.awards, award.worth.Finite
  total : ∀ summary ∈ result.summary, summary.total.isFinite = true

namespace Promotion

variable {p : Promotion} {clock : Clock} {context : Context}

theorem appliedFinite (documented : context.Documented) {result : Result}
    (applied : Applied p clock (some context) result) : result.Finite := by
  cases applied with
  | rejected invalid => exact ⟨nofun, nofun⟩
  | idle valid conditions => exact ⟨nofun, nofun⟩
  | settled valid conditions nonempty rewards sum =>
    refine ⟨awardsFinite documented rewards, fun summary among => ?_⟩
    cases among
    exact (totalEnds documented rewards).value sum

theorem potentialFinite (documented : context.Documented) {total : Decimal}
    (returned : p.potentialValue clock (some context) = .ok total) : total.isFinite = true := by
  cases validity : (p.validate clock (some context)).isValid with
  | false =>
    rw [potentialInvalid validity] at returned
    cases returned
    rfl
  | true =>
    cases conditions : triggered context p.conditions with
    | error fault =>
      rw [potentialFault validity conditions] at returned
      cases returned
    | ok held =>
      rw [potentialSum validity conditions] at returned
      exact valueOfFinite documented (mapErrorOk.mp returned)

/-- Every number of a result over a document is finite, and so is the value of every reward. A
reward has no value only if it is an amount that is too long to be written out. -/
theorem numbersFinite (clock : Clock) {document : Value}
    (read : Context.ofDocument document = .ok context) :
    (∀ result, p.apply clock (some context) = .ok result → result.Finite) ∧
    (∀ total, p.potentialValue clock (some context) = .ok total → total.isFinite = true) ∧
    ∀ r : Reward, (∀ x, r.value (some context) = .ok x → x.isFinite = true) ∧
      ∀ fault, r.value (some context) = .error fault ↔
        ∃ cause, fault = .unwritable cause ∧ r.Unwritable context cause := by
  have documented := Context.documentedOfDocument read
  refine ⟨fun result returned => appliedFinite documented (appliedIff.mp returned),
    fun total => potentialFinite documented, fun r => ⟨fun x => ?_, fun fault => ?_⟩⟩
  · exact (Reward.valueEnds documented).value
  · exact Reward.valueFault documented

def endlessCost : Config :=
  [("discountAmount", .text "5"), ("shippingCost", .decimal (.infinite false))]

/-- An amount is granted beside a cost of shipping that is refused, being infinite. -/
theorem endlessCostRefused :
    Context.ofDocument (shopDocument [(.text "discountAmount", .text "5"),
      (.text "shippingCost", .decimal (.infinite false))]) = .ok (shop endlessCost) ∧
    ∃ result, (openSale [fixedAmount, shipping]).apply noon (some (shop endlessCost)) = .ok result ∧
      result.awards.length = 1 ∧ result.errors.length = 1 ∧ result.Finite ∧
      (∀ x, shipping.value (some (shop endlessCost)) = .ok x → x.isFinite = true) := by
  have read : Context.ofDocument (shopDocument [(.text "discountAmount", .text "5"),
    (.text "shippingCost", .decimal (.infinite false))]) = .ok (shop endlessCost) := rfl
  obtain ⟨result, returned, awards, errors⟩ : ∃ result,
      (openSale [fixedAmount, shipping]).apply noon (some (shop endlessCost)) = .ok result ∧
        result.awards.length = 1 ∧ result.errors.length = 1 := ⟨_, rfl, rfl, rfl⟩
  obtain ⟨finite, -, values⟩ := @numbersFinite (openSale [fixedAmount, shipping]) _ noon _ read
  exact ⟨read, result, returned, awards, errors, finite result returned, (values shipping).1⟩

/-- An amount that is finite and has no value, since it is too long to be written out. -/
theorem endlessAmountValueless :
    Context.ofDocument (shopDocument [(.text "discountAmount", .text "1E+999999999999999998")]) =
      .ok (shop [("discountAmount", .text "1E+999999999999999998")]) ∧
    ∀ x, fixedAmount.value (some (shop [("discountAmount", .text "1E+999999999999999998")])) ≠
      .ok x := by
  refine ⟨rfl, fun x returned => ?_⟩
  have failed : fixedAmount.value
      (some (shop [("discountAmount", .text "1E+999999999999999998")])) =
        .error (.unwritable .beyondLimit) := rfl
  cases failed.symm.trans returned

end Promotion

end Promotions
