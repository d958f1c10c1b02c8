import Promotions.Context.Document
import Promotions.Proofs.Decimal.Added

/-! What documents can say about a cart: every price is a number, every quantity a whole number.
The only thing that can go wrong with the totals of such a cart is that they are too large. -/
namespace Promotions

inductive Item.Documented : Item → Prop
  | fields {sku price count name properties} (number : price.isFinite = true) :
      Documented (.ofFields sku price count name properties)

def Cart.Documented (cart : Cart) : Prop := ∀ item ∈ cart.items, item.Documented

structure Context.Documented (context : Context) : Prop where
  cart : ∃ cart, context.cart = some cart ∧ cart.Documented
  config : ∃ config, context.config = some config

namespace Context

theorem itemOfEntriesDocumented {index : Nat} {entries : Entries} {item : Item}
    (read : itemOfEntries index entries = .ok item) : item.Documented := by
  unfold itemOfEntries at read
  dsimp only at read
  split at read
  · cases read
  · cases read
  · rename_i price _ _
    cases read
    exact .fields (Value.finiteOfNumber? price)
  · cases read

theorem itemsFromDocumented {index : Nat} {values : List Value} {items : List Item}
    (read : itemsFrom index values = .ok items) : ∀ item ∈ items, item.Documented := by
  induction values generalizing index items with
  | nil => cases read; simp
  | cons data rest ih =>
    obtain ⟨item, first, items, later, last⟩ : ∃ item, itemOfValue index data = .ok item ∧
        ∃ later, itemsFrom (index + 1) rest = .ok later ∧ item :: later = items := by
      simpa only [itemsFrom, bindOk, pure, Except.pure, Except.ok.injEq] using read
    subst last
    intro other among
    rcases List.mem_cons.mp among with rfl | mem
    · cases data with
      | dict entries => exact itemOfEntriesDocumented first
      | scalar _ => cases first
      | list _ => cases first
    · exact ih later other mem

theorem documentedOfDocument {document : Value} {context : Context}
    (read : ofDocument document = .ok context) : context.Documented := by
  cases document with
  | scalar _ => cases read
  | list _ => cases read
  | dict entries =>
    simp only [ofDocument, bindOk] at read
    obtain ⟨_, _, _, _, _, _, _, _, items, itemsRead, pairs, _, made⟩ := read
    cases made
    exact ⟨⟨_, rfl, itemsFromDocumented itemsRead⟩, ⟨_, rfl⟩⟩

end Context

theorem overflowOnly {result : Except Decimal.Fault Decimal}
    (ends : Ends (· = .overflow) Decimal.Fitting result) :
    Ends (· = .decimal .overflow) Decimal.Fitting (Value.Fault.lift result) :=
  ends.mapError fun _ same => congrArg _ same

theorem Item.totalEnds {item : Item} (documented : item.Documented) :
    Ends (· = .decimal .overflow) (fun v => ∃ x, v = .decimal x ∧ Decimal.Fitting x)
      item.total := by
  cases documented with
  | @fields sku price count name properties number =>
    rw [Item.total, Item.ofFields, Value.timesOfDecimal]
    exact (overflowOnly (Decimal.mulEnds number rfl)).map fun x fits => ⟨x, rfl, fits⟩

namespace Cart

variable {cart : Cart}

theorem totalEnds (documented : cart.Documented) :
    Ends (· = .decimal .overflow) (·.isFinite = true) cart.total := by
  refine Ends.foldlM rfl fun item mem sum number => ?_
  refine (Item.totalEnds (documented item mem)).bind ?_
  intro v product
  obtain ⟨x, rfl, fits⟩ := product
  exact (overflowOnly (Decimal.addEnds number fits.isFinite)).weaken (fun _ same => same)
    fun _ fits => fits.isFinite

end Cart

end Promotions
