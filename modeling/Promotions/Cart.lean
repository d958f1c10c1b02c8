import Promotions.Value.Arithmetic
import Promotions.Value.Display

/-! What a promotion is evaluated against: a cart of items and a configuration of named values.
Totals are computed from the items whenever they are asked for. -/
namespace Promotions

/-- A line of a cart. Its fields are set from outside and may hold any values; documents give it a
decimal price, a whole quantity, two texts and a mapping. -/
structure Item where
  sku : Value
  price : Value
  quantity : Value
  name : Value
  properties : Value
  deriving Inhabited

/-- A price that is no number; an item keeps any decimal it is given. -/
structure BadPrice where
  sku : Value
  price : Value

def BadPrice.message (bad : BadPrice) : String :=
  "Invalid price for item " ++ bad.sku.literal ++ ": " ++ bad.price.literal

namespace Item

def ofFields (sku : RawText) (price : Decimal) (quantity : Int) (name : RawText)
    (properties : Entries) : Item :=
  ⟨.text sku, .decimal price, .int quantity, .text name, .dict properties⟩

def priced (item : Item) : Except BadPrice Item :=
  match item.price with
  | .decimal _ => .ok item
  | price => match price.number? with
    | some x => .ok { item with price := .decimal x }
    | none => .error ⟨item.sku, price⟩

def total (item : Item) : Except Value.Fault Value := item.price.times item.quantity

def isRegular (item : Item) : Bool :=
  match item.price, item.quantity, item.properties with
  | .decimal _, .int _, .dict _ => true
  | _, _, _ => false

end Item

structure Cart where
  items : List Item
  deriving Inhabited

namespace Cart

def empty : Cart := ⟨[]⟩

def total (cart : Cart) : Except Value.Fault Decimal :=
  cart.items.foldlM (fun sum item => do sum.plus (← item.total)) Decimal.zero

def quantity (cart : Cart) : Except Value.Fault Number :=
  cart.items.foldlM (fun sum item => sum.plus item.quantity) (.int 0)

def isEmpty (cart : Cart) : Bool := cart.items.isEmpty

def find? (cart : Cart) (sku : String) : Option Item := cart.items.find? (·.sku.isText sku)

def all (cart : Cart) (sku : String) : List Item := cart.items.filter (·.sku.isText sku)

end Cart

abbrev Config := List (RawText × Value)

namespace Config

def get? (config : Config) (key : RawText) : Option Value := config.lookup key

def has (config : Config) (key : RawText) : Bool := (config.get? key).isSome

/-- The value of a key, absent and null alike. -/
def value (config : Config) (key : RawText) : Value := (config.get? key).getD .null

def number? (config : Config) (key : RawText) : Option Decimal := (config.value key).number?

def set (key : RawText) (value : Value) : Config → Config
  | [] => [(key, value)]
  | (k, v) :: rest => if k = key then (key, value) :: rest else (k, v) :: set key value rest

def unset (config : Config) (key : RawText) : Config := config.filter (·.1 != key)

def ofPairs (pairs : List (RawText × Value)) : Config :=
  pairs.foldl (fun config pair => set pair.1 pair.2 config) []

theorem getSet (config : Config) (key other : RawText) (v : Value) :
    get? (set key v config) other = if other = key then some v else get? config other := by
  induction config with
  | nil =>
    by_cases h : other = key
    · simp [set, get?, h]
    · simp [set, get?, List.lookup_cons, h, beq_eq_false_iff_ne.mpr h]
  | cons head rest ih =>
    obtain ⟨k, w⟩ := head
    by_cases hk : k = key
    · by_cases h : other = key
      · simp [set, get?, hk, h]
      · simp [set, get?, List.lookup_cons, hk, h, beq_eq_false_iff_ne.mpr h]
    · by_cases ho : other = k
      · subst ho
        simp [set, get?, hk]
      · simp only [get?] at ih
        simp [set, get?, List.lookup_cons, hk, beq_eq_false_iff_ne.mpr ho, ih]

end Config

/-- Either half may be missing. What a caller adds is carried along and not read. -/
structure Context where
  cart : Option Cart
  config : Option Config
  additional : Entries
  deriving Inhabited

structure Scope where
  cart : Cart
  config : Config

def Context.scope (context : Context) : Scope :=
  ⟨context.cart.getD .empty, context.config.getD []⟩

def Scope.of : Option Context → Except Value.Fault Scope
  | none => .error (.noField "NoneType" "cart")
  | some context => .ok context.scope

def Context.sample : Context where
  cart := some ⟨[
    .ofFields "ITEM001" (.finite false 2999 (-2)) 2 "Test Product 1" [],
    .ofFields "ITEM002" (.finite false 4999 (-2)) 1 "Test Product 2" []]⟩
  config := some [
    ("minAmount", .decimal (.finite false 5000 (-2))),
    ("minQuantity", .int 2),
    ("discountPercent", .decimal (.finite false 100 (-1))),
    ("discountAmount", .decimal (.finite false 500 (-2))),
    ("sku", .text "ITEM001"),
    ("targetSku", .text "ITEM001"),
    ("threshold", .decimal (.finite false 10000 (-2))),
    ("premiumThreshold", .decimal (.finite false 20000 (-2))),
    ("pointsMultiplier", .decimal (.finite false 20 (-1))),
    ("freeProduct", .text "FREE001"),
    ("bonusProduct", .text "BONUS001"),
    ("standardDiscount", .decimal (.finite false 100 (-1))),
    ("premiumDiscount", .decimal (.finite false 2500 (-2))),
    ("minTargetQuantity", .int 1)]
  additional := []

end Promotions
