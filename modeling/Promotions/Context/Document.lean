import Promotions.Cart
import Promotions.Document.Reader
import Promotions.Files

/-! Contexts from documents: a mapping with a cart, a configuration and further data, each of which
may be left out. Floating-point numbers become the decimals that they are written as. -/
namespace Promotions

/-- What is wrong with a document, in the order in which it is looked at. -/
inductive DocumentFault where
  | notMapping
  | partNotMapping (part : String)
  | itemsNotList
  | itemNotMapping (index : Nat)
  | priceNotNumber (index : Nat) (price : Value)
  | propertiesNotMapping (index : Nat)
  | quantityNotInteger (index : Nat) (quantity : Value)
  | badConfigValue (key : RawText) (value : Value)
  | unreadable (path : String) (reason : String)
  | badPath
  | malformed (path : String)
  | longInteger (digits : Nat)

namespace DocumentFault

def itemText (index : Nat) : String := "cart.items[" ++ toString index ++ "]"

def message : DocumentFault → RawText
  | notMapping => "Context document must be a mapping"
  | partNotMapping part => "'" ++ part ++ "' must be a mapping"
  | itemsNotList => "'cart.items' must be a list"
  | itemNotMapping index => itemText index ++ " must be a mapping"
  | priceNotNumber index price => itemText index ++ ".price is not a number: " ++ price.literal
  | propertiesNotMapping index => itemText index ++ ".properties must be a mapping"
  | quantityNotInteger index quantity =>
      itemText index ++ ".quantity must be an integer: " ++ quantity.literal
  | badConfigValue key value =>
      "config." ++ key ++ " must be a number, string or boolean, got " ++ value.typeName
  | unreadable path reason => "Cannot read context file " ++ path ++ ": " ++ reason
  | badPath => FileFault.nullInPath.message ""
  | malformed path => "Invalid YAML in " ++ path
  | longInteger digits => "Exceeds the limit (" ++ toString Document.integerLimit ++
      " digits) for integer string conversion: value has " ++ toString digits ++
      " digits; use sys.set_int_max_str_digits() to increase the limit"

/-- Whether the fault is not one of the document's shape but ends the whole run. -/
def isFatal : DocumentFault → Bool
  | badPath => true
  | longInteger _ => true
  | _ => false

def name (fault : DocumentFault) : String :=
  if fault.isFatal then "ValueError" else "ContextLoadError"

end DocumentFault

namespace Context

def mapping? : Value → Option Entries
  | .dict entries => some entries
  | v => if v.isVoid then some [] else none

def part (name : String) (entries : Entries) : Except DocumentFault Entries :=
  match mapping? (entries.getD name .null) with
  | some found => .ok found
  | none => .error (.partNotMapping name)

def itemValues (cart : Entries) : Except DocumentFault (List Value) :=
  match cart.getD "items" .null with
  | .list items => .ok items
  | v => if v.isVoid then .ok [] else .error .itemsNotList

/-- An item costs nothing and is there once unless it says otherwise. -/
def itemOfEntries (index : Nat) (entries : Entries) : Except DocumentFault Item :=
  let price := entries.getD "price" (.int 0)
  let quantity := entries.getD "quantity" (.int 1)
  match price.number?, mapping? (entries.getD "properties" .null), quantity with
  | none, _, _ => .error (.priceNotNumber index price)
  | _, none, _ => .error (.propertiesNotMapping index)
  | some amount, some properties, .int count =>
      .ok (.ofFields (entries.getD "sku" (.text "")).display amount count
        (entries.getD "name" (.text "")).display properties)
  | _, _, _ => .error (.quantityNotInteger index quantity)

def itemOfValue (index : Nat) : Value → Except DocumentFault Item
  | .dict entries => itemOfEntries index entries
  | _ => .error (.itemNotMapping index)

def itemsFrom (index : Nat) : List Value → Except DocumentFault (List Item)
  | [] => .ok []
  | data :: rest => do
      let first ← itemOfValue index data
      let later ← itemsFrom (index + 1) rest
      return first :: later

def configValue (key : RawText) (value : Value) : Except DocumentFault Value :=
  match value with
  | .bool _ => .ok value
  | .int _ => .ok value
  | .text _ => .ok value
  | .decimal _ => .ok value
  | .float x =>
      match x.toDecimal? with
      | some d => .ok (.decimal d)
      | none => .error (.badConfigValue key value)
  | _ => .error (.badConfigValue key value)

def configPairs : Entries → Except DocumentFault (List (RawText × Value))
  | [] => .ok []
  | (key, value) :: rest => do
      let first ← configValue key.display value
      let later ← configPairs rest
      return (key.display, first) :: later

/-- The shapes of all parts are looked at before any item or configuration value. Of two
configuration keys with one text the later value stands in the earlier place. -/
def ofDocument : Value → Except DocumentFault Context
  | .dict entries => do
      let cart ← part "cart" entries
      let values ← itemValues cart
      let settings ← part "config" entries
      let additional ← part "additionalData" entries
      let items ← itemsFrom 0 values
      let pairs ← configPairs settings
      return ⟨some ⟨items⟩, some (Config.ofPairs pairs), additional⟩
  | _ => .error .notMapping

end Context

namespace Context

def ofFile (files : Files) (path : String) : Except DocumentFault Context :=
  let path := Path.simplify path
  match files path with
  | .error .nullInPath => .error .badPath
  | .error fault => .error (.unreadable path (fault.message path))
  | .ok text =>
      match Document.read? (Text.unifyBreaks text) with
      | none => .error (.malformed path)
      | some document =>
          match document.excess? with
          | some digits => .error (.longInteger digits)
          | none =>
              let value := document.value
              ofDocument (if value.isVoid then .dict [] else value)

end Context

end Promotions
